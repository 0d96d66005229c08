import SexprLexer.Command.Run

/-!
# The command

Connects a run with the system: the words of the command line, the environment, the files and the
three standard streams. A session is answered line by line, so that it can be led in a dialogue.
-/

namespace SexprLexer.Command

/-- The number of an error of the system and its description. -/
def errorCode? : IO.Error → Option (UInt32 × String)
  | .noFileOrDirectory _ code details
  | .inappropriateType _ code details
  | .invalidArgument _ code details
  | .permissionDenied _ code details
  | .resourceExhausted _ code details
  | .noSuchThing _ code details => some (code, details)
  | .hardwareFault code details
  | .otherError code details => some (code, details)
  | _ => none

/-- The reason for which the system does not give a file. -/
def ReadFault.ofError (e : IO.Error) : ReadFault :=
  match errorCode? e with
  | some (2, _) => .notFound
  | some (20, _) => .notDirectory
  | some (21, _) => .isDirectory
  | some (36, _) => .nameTooLong
  | some (code, details) => .other (details ++ " (os error " ++ toString code ++ ")")
  | none => .other (toString e)

/-- The content of the file at a path. -/
def readFile (path : String) : IO (Except ReadFault ByteArray) := do
  try
    return .ok (← IO.FS.withFile path .read fun file => file.readBinToEnd)
  catch e =>
    return .error (.ofError e)

/-- How many bytes are read from a stream at a time. -/
def chunkSize : USize := 65536

/-- The bytes read before and all bytes that are left in a stream. -/
partial def readAll (stream : IO.FS.Stream) (before : ByteArray) : IO ByteArray := do
  let chunk ← stream.read chunkSize
  if chunk.isEmpty then return before
  readAll stream (before ++ chunk)

/-- The bytes read before and those up to and including the next line feed of a stream. -/
partial def readLine (stream : IO.FS.Stream) (before : ByteArray) : IO ByteArray := do
  let chunk ← stream.read 1
  if chunk.isEmpty then return before
  let line := before ++ chunk
  if chunk.data.contains Text.lineFeed then return line
  readLine stream line

/-- Writes a transcript to the standard streams. -/
def write (settings : Settings) (around : Surroundings) (t : Transcript) : IO Unit := do
  let color := settings.colored around
  let stderr ← IO.getStderr
  stderr.putStr (t.stderr color (settings.filter around).1)
  stderr.flush
  let stdout ← IO.getStdout
  stdout.putStr (t.stdout color)
  stdout.flush

/-- Leads a session from the line with the given number on. -/
partial def converse (settings : Settings) (around : Surroundings) (number : Nat) : IO Unit := do
  write settings around [Repl.prompt number]
  let line ← readLine (← IO.getStdin) .empty
  if line.isEmpty then write settings around [Repl.farewell]
  else
    let (said, number?) := Repl.answer settings.policy number line.data.toList
    write settings around said
    match number? with
    | none => write settings around [Repl.farewell]
    | some number => converse settings around number

/-- The names of the variables of the environment that a run looks at. -/
def variableNames : List String := ["CLICOLOR_FORCE", "NO_COLOR", "RUST_LOG"]

/-- The part of the environment that a run looks at. -/
def environment : IO (String → Option String) := do
  let values ← variableNames.mapM fun name => return (name, ← IO.getEnv name)
  return fun name => (values.lookup name).join

/-- Runs with the given settings. A standard input that is a terminal is read like any other. -/
def perform (settings : Settings) : IO UInt32 := do
  let lookup ← environment
  let surroundings : ByteArray → Except ReadFault ByteArray → Surroundings :=
    fun stdin content => { stdin, lookup, read := fun _ => content }
  let report := faultReports (settings.filter (surroundings .empty (.ok .empty))).2
  (← IO.getStderr).putStr report
  match settings.mode with
  | .repl =>
    let around := surroundings .empty (.ok .empty)
    write settings around [Repl.greeting]
    converse settings around 1
    return 0
  | .scan input =>
    let around ←
      match input with
      | .standard => pure (surroundings (← readAll (← IO.getStdin) .empty) (.ok .empty))
      | .file path => pure (surroundings .empty (← readFile path))
    let listing := settings.perform around
    write settings around listing.transcript
    return if listing.accepted then 0 else 1

end SexprLexer.Command

open SexprLexer.Command in
/-- The command. -/
def main (words : List String) : IO UInt32 := do
  match readArguments words with
  | .ok settings => perform settings
  | .error stop =>
    let lookup ← environment
    let around : Surroundings := { stdin := .empty, lookup, read := fun _ => .ok .empty }
    let outcome := stop.outcome around
    (← IO.getStdout).putStr outcome.stdout
    (← IO.getStderr).putStr outcome.stderr
    return UInt32.ofNat outcome.exit
