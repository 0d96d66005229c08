import SexprLexer.Log
import SexprLexer.Text.Styled

/-!
# Settings of the command

What a command line can ask for, and the reasons for which it is refused.
-/

namespace SexprLexer.Command

open Text (Span plain styled)

/-- What a command line may say at most once. -/
inductive Setting where
  | strict
  | warnSkipped
  | repl
  | color
  | input
  deriving DecidableEq

/-- A setting as messages show it. -/
def Setting.display : Setting → String
  | strict => "--strict"
  | warnSkipped => "--warn-skipped"
  | repl => "--repl"
  | color => "--color <COLOR>"
  | input => "[INPUT]"

/-- The setting that must not stand beside this one: skipped characters are either errors or
warnings, and a session reads no source of its own. -/
def Setting.opposite? : Setting → Option Setting
  | strict => some warnSkipped
  | warnSkipped => some strict
  | repl => some input
  | input => some repl
  | color => none

/-- When output is colored. -/
inductive ColorChoice where
  | auto
  | always
  | never
  deriving DecidableEq

/-- The choice that a word names. -/
def ColorChoice.named? : String → Option ColorChoice
  | "auto" => some auto
  | "always" => some always
  | "never" => some never
  | _ => none

/-- What becomes of skipped characters after a scan. -/
inductive SkipPolicy where
  /-- They are not mentioned. -/
  | ignore
  /-- Each of them is a warning. -/
  | warn
  /-- Each of them is an error, and there is no table. -/
  | reject
  deriving DecidableEq

/-- Where a source comes from. -/
inductive Input where
  | standard
  | file (path : String)
  deriving DecidableEq

/-- The input that a word of the command line names. -/
def Input.named (word : String) : Input := if word = "-" then standard else file word

/-- The name of a source in tables and locations. -/
def Input.name : Input → String
  | standard => "<stdin>"
  | file path => path

/-- What the command does. -/
inductive Mode where
  /-- It scans one source. -/
  | scan (input : Input)
  /-- It scans each line of a session. -/
  | repl
  deriving DecidableEq

/-- Everything a command line settles. -/
structure Settings where
  mode : Mode
  policy : SkipPolicy
  color : ColorChoice
  verbosity : Nat
  deriving DecidableEq

/-- The threshold of the log that a number of requests for more of it leads to. -/
def thresholdOfVerbosity : Nat → Log.Threshold
  | 0 => .upTo .warn
  | 1 => .upTo .info
  | 2 => .upTo .debug
  | _ => .upTo .trace

/-- Beyond three, requests for more of the log make no difference. -/
theorem thresholdOfVerbosity_min (n : Nat) {most : Nat} (h : 3 ≤ most) :
    thresholdOfVerbosity (min n most) = thresholdOfVerbosity n := by
  by_cases hn : n ≤ most
  · rw [Nat.min_eq_left hn]
  · obtain ⟨more, rfl⟩ : ∃ more, most = more + 3 := ⟨most - 3, by omega⟩
    obtain ⟨further, rfl⟩ : ∃ further, n = further + 3 := ⟨n - 3, by omega⟩
    rw [Nat.min_eq_right (by omega)]
    rfl

/-- Why a command line is refused. -/
inductive Refusal where
  /-- There is no such option, or no place for one more source. -/
  | unexpectedArgument (word : String)
  /-- The option takes no value. -/
  | unexpectedValue (value option : String)
  /-- The setting has no value, or an empty one. -/
  | missingValue (setting : Setting)
  /-- The word names no choice of when to color. -/
  | unknownColor (word : String)
  /-- The setting is given twice. -/
  | repeated (setting : Setting)
  /-- Two settings exclude each other. -/
  | opposed (first second : Setting)
  deriving DecidableEq

/-- A word of the command line, or the setting that it is about, between quotes. -/
def quotedCulprit (text : String) : List Span :=
  [plain "'", styled .yellow text, plain "'"]

/-- The option that a value was meant for, between quotes. -/
def quotedOption (text : String) : List Span :=
  [plain "'", styled .bold text, plain "'"]

/-- What is wrong with a refused command line. -/
def Refusal.spans : Refusal → List Span
  | unexpectedArgument word =>
    plain "unexpected argument " :: quotedCulprit word ++ [plain " found"]
  | unexpectedValue value option =>
    plain "unexpected value " :: quotedCulprit value ++ plain " for " :: quotedOption option ++
      [plain " found; no more were expected"]
  | missingValue setting =>
    plain "a value is required for " :: quotedCulprit setting.display ++
      [plain " but none was supplied"]
  | unknownColor word =>
    plain "invalid value " :: quotedCulprit word ++ plain " for " ::
      quotedOption Setting.color.display
  | repeated setting =>
    plain "the argument " :: quotedCulprit setting.display ++
      [plain " cannot be used multiple times"]
  | opposed first second =>
    plain "the argument " :: quotedCulprit first.display ++ plain " cannot be used with " ::
      quotedCulprit second.display

end SexprLexer.Command
