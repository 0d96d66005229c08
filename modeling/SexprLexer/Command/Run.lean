import SexprLexer.Command.Arguments
import SexprLexer.Command.Notice
import SexprLexer.Command.Repl

/-!
# Running the command

A run is decided by the command line and by what surrounds it: the standard input, the variables
of the environment and the files. The settings alone decide what is said and whether the run is
successful; the environment only adds how it is shown.
-/

namespace SexprLexer.Command

/-- What a run leaves behind. -/
structure Outcome where
  exit : Nat
  stdout : String
  stderr : String
  deriving DecidableEq

/-! ### Sources -/

/-- The bytes of an input. -/
def Surroundings.bytes (around : Surroundings) : Input → Except ReadFault ByteArray
  | .standard => .ok around.stdin
  | .file path => around.read path

/-- The text of an input. -/
def Surroundings.source (around : Surroundings) (input : Input) : Except LexError String :=
  match around.bytes input with
  | .error fault => .error (.unreadable input.name fault.message)
  | .ok bytes =>
    match String.fromUTF8? bytes with
    | none => .error (.unreadable input.name notText)
    | some source => .ok source

/-- The record of the beginning of a read. -/
def readingRecord (input : Input) : Log.Record where
  level := .info
  target := "sibil"
  message :=
    match input with
    | .standard => "reading stdin"
    | .file path => "reading " ++ path

/-- The listing of an input. -/
def Listing.ofInput (policy : SkipPolicy) (input : Input) (around : Surroundings) : Listing :=
  let listing : Listing :=
    match around.source input with
    | .error e => { accepted := false, transcript := [.ofDiagnostic (.ofError e)] }
    | .ok source => Listing.ofSource policy input.name source
  { listing with transcript := .log (readingRecord input) :: listing.transcript }

/-- What a run with these settings says, and whether it is successful. A session always is. The
standard input is not a terminal, so the session that begins at a terminal where no source is named
is left out: it takes `--repl` to begin one. -/
def Settings.perform (settings : Settings) (around : Surroundings) : Listing :=
  match settings.mode with
  | .scan input => .ofInput settings.policy input around
  | .repl =>
    { accepted := true, transcript := Repl.session settings.policy around.stdin.data.toList }

/-! ### Outcomes -/

/-- The outcome where the command line asks for no run. -/
def Stop.outcome (around : Surroundings) : Stop → Outcome
  | refused why => { exit := 2, stdout := "", stderr := around.showNotice (refusalNotice why) }
  | help => { exit := 0, stdout := around.showNotice helpNotice, stderr := "" }
  | version => { exit := 0, stdout := around.showNotice versionNotice, stderr := "" }

/-- The outcome of a run with these settings. -/
def Settings.outcome (settings : Settings) (around : Surroundings) : Outcome :=
  let listing := settings.perform around
  let color := settings.colored around
  let (filter, faults) := settings.filter around
  { exit := if listing.accepted then 0 else 1
    stdout := listing.transcript.stdout color
    stderr := faultReports faults ++ listing.transcript.stderr color filter }

/-- The outcome of a command line. -/
def run (words : List String) (around : Surroundings) : Outcome :=
  match readArguments words with
  | .error stop => stop.outcome around
  | .ok settings => settings.outcome around

end SexprLexer.Command
