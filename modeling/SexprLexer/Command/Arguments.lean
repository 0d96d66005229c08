import SexprLexer.Command.Settings

/-!
# Reading a command line

A command line is read from left to right. A word is an option with its long name, a bundle of
options with one letter each, or a plain word; after the separator `--` every word is plain. The
words that make up one argument are gathered before the argument takes effect, so an argument that
is still open takes effect when the next one begins, or at the end. Whichever fault shows first
refuses the whole line, except that settings which exclude each other are looked for at the end.
-/

namespace SexprLexer.Command

/-! ### Words -/

/-- What a word of a command line looks like. -/
inductive Word where
  /-- `--` -/
  | separator
  /-- `--name` or `--name=value` -/
  | long (name : String) (value : Option String)
  /-- `-abc` -/
  | short (letters : List Char)
  /-- Anything else, a lone `-` included. -/
  | plain (text : String)
  deriving DecidableEq

/-- Divides `name=value` at the first equals sign. -/
def Word.ofLong (body : List Char) : Word :=
  let name := String.ofList (body.takeWhile (· != '='))
  match body.dropWhile (· != '=') with
  | [] => .long name none
  | _ :: value => .long name (some (String.ofList value))

/-- What `text` looks like where options are allowed. -/
def Word.ofString (text : String) : Word :=
  match text.toList with
  | ['-', '-'] => .separator
  | '-' :: '-' :: body => .ofLong body
  | '-' :: letter :: letters => .short (letter :: letters)
  | _ => .plain text

/-- The options. -/
inductive Switch where
  | strict
  | warnSkipped
  | repl
  | color
  | verbose
  | help
  | version
  deriving DecidableEq

/-- The option with a long name. -/
def Switch.ofName? : String → Option Switch
  | "strict" => some strict
  | "warn-skipped" => some warnSkipped
  | "repl" => some repl
  | "color" => some color
  | "verbose" => some verbose
  | "help" => some help
  | "version" => some version
  | _ => none

/-- The option with a letter. -/
def Switch.ofLetter? : Char → Option Switch
  | 'v' => some verbose
  | 'h' => some help
  | 'V' => some version
  | _ => none

/-- An option as messages show it: one that may be repeated has dots after its name. -/
def Switch.display : Switch → String
  | strict => Setting.strict.display
  | warnSkipped => Setting.warnSkipped.display
  | repl => Setting.repl.display
  | color => Setting.color.display
  | verbose => "--verbose..."
  | help => "--help"
  | version => "--version"

/-! ### Arguments one after the other -/

/-- What ends the reading of a command line before its end. -/
inductive Stop where
  | refused (why : Refusal)
  | help
  | version
  deriving DecidableEq

/-- An argument that has begun and has not taken effect yet. -/
inductive OpenArgument where
  /-- The choice of color, with its value as soon as there is one. -/
  | color (value : Option String)
  /-- A source. -/
  | input (word : String)
  deriving DecidableEq

/-- How far requests for more of the log are counted. The count stays there if there are more. -/
def mostVerbose : Nat := 255

/-- What is known of a command line after some of its words. -/
structure Reading where
  /-- The settings that have taken effect, in the order in which they were given. -/
  given : List Setting
  color : ColorChoice
  input : Option String
  /-- The requests for more of the log, counted up to `mostVerbose`. -/
  verbosity : Nat
  openArgument : Option OpenArgument
  /-- Whether the separator has been read. -/
  optionsEnded : Bool

namespace Reading

/-- Nothing has been read. -/
def start : Reading where
  given := []
  color := .auto
  input := none
  verbosity := 0
  openArgument := none
  optionsEnded := false

/-- Refuses the command line. -/
def refuse (why : Refusal) : Except Stop Reading := .error (.refused why)

/-- A setting takes effect, which it can do only once. -/
def give (r : Reading) (setting : Setting) : Except Stop Reading :=
  if setting ∈ r.given then refuse (.repeated setting)
  else .ok { r with given := r.given ++ [setting] }

/-- The choice of color takes effect. -/
def giveColor (r : Reading) (word : String) : Except Stop Reading := do
  let r ← r.give .color
  if word = "" then refuse (.missingValue .color)
  else
    match ColorChoice.named? word with
    | none => refuse (.unknownColor word)
    | some color => .ok { r with color }

/-- A source takes effect. -/
def giveInput (r : Reading) (word : String) : Except Stop Reading :=
  if word = "" then refuse (.missingValue .input)
  else do
    let r ← r.give .input
    .ok { r with input := some word }

/-- The open argument, if there is one, takes effect. -/
def close (r : Reading) : Except Stop Reading :=
  let closed := { r with openArgument := none }
  match r.openArgument with
  | none => .ok closed
  | some (.color none) => refuse (.missingValue .color)
  | some (.color (some word)) => closed.giveColor word
  | some (.input word) => closed.giveInput word

/-- Whether there is a source already. -/
def hasInput (r : Reading) : Bool :=
  match r.openArgument with
  | some (.input _) => true
  | _ => r.given.contains .input

/-- Reads a word as a source. -/
def readInput (r : Reading) (word : String) : Except Stop Reading :=
  if r.hasInput then refuse (.unexpectedArgument word)
  else do
    let r ← r.close
    .ok { r with openArgument := some (.input word) }

/-- An option without a value takes effect, after the argument that is still open. The choice of
color waits for its value. -/
def apply (r : Reading) (switch : Switch) : Except Stop Reading := do
  let r ← r.close
  match switch with
  | .strict => r.give .strict
  | .warnSkipped => r.give .warnSkipped
  | .repl => r.give .repl
  | .color => .ok { r with openArgument := some (.color none) }
  | .verbose => .ok { r with verbosity := min (r.verbosity + 1) mostVerbose }
  | .help => .error .help
  | .version => .error .version

/-- Reads an option by its long name. -/
def readLong (r : Reading) (name : String) (value : Option String) : Except Stop Reading :=
  match Switch.ofName? name, value with
  | none, _ => refuse (.unexpectedArgument ("--" ++ name))
  | some switch, none => r.apply switch
  | some .color, some word => do
    let r ← r.close
    r.giveColor word
  | some switch, some word => refuse (.unexpectedValue word switch.display)

/-- Reads an option by its letter. -/
def readLetter (r : Reading) (letter : Char) : Except Stop Reading :=
  match Switch.ofLetter? letter with
  | none => refuse (.unexpectedArgument (String.ofList ['-', letter]))
  | some switch => r.apply switch

/-- Reads a plain word: the value of the choice of color if that waits for one, else a source. -/
def readPlain (r : Reading) (text : String) : Except Stop Reading :=
  match r.openArgument with
  | some (.color none) => .ok { r with openArgument := some (.color (some text)) }
  | _ => r.readInput text

/-- Reads one word. -/
def readWord (r : Reading) (text : String) : Except Stop Reading :=
  if r.optionsEnded then r.readInput text
  else
    match Word.ofString text with
    | .separator => .ok { r with optionsEnded := true }
    | .long name value => r.readLong name value
    | .short letters => letters.foldlM readLetter r
    | .plain text => r.readPlain text

/-- The first setting, in the order given, whose opposite is given too. -/
def firstOpposed? (given : List Setting) : Option (Setting × Setting) :=
  given.findSome? fun setting =>
    setting.opposite?.bind fun opposite =>
      if opposite ∈ given then some (setting, opposite) else none

/-- What the settings that have taken effect amount to. -/
def settings (r : Reading) : Settings where
  mode :=
    if Setting.repl ∈ r.given then .repl
    else .scan ((r.input.map Input.named).getD .standard)
  policy :=
    if Setting.strict ∈ r.given then .reject
    else if Setting.warnSkipped ∈ r.given then .warn
    else .ignore
  color := r.color
  verbosity := r.verbosity

/-- Ends the reading of a command line. -/
def finish (r : Reading) : Except Stop Settings := do
  let r ← r.close
  match firstOpposed? r.given with
  | some (first, second) => .error (.refused (.opposed first second))
  | none => .ok r.settings

end Reading

/-- What a command line asks for: settings to run with, or the reason not to run. -/
def readArguments (words : List String) : Except Stop Settings := do
  let r ← words.foldlM Reading.readWord Reading.start
  r.finish

end SexprLexer.Command
