import SexprLexer.Text.Padded
import SexprLexer.Text.Visible

/-!
# Log records

A log record says how important it is, which part of the program speaks, and what happened. A
threshold decides which records are written; it never changes what the records say.
-/

namespace SexprLexer.Log

/-- How important a record is, the most important level first. -/
inductive Level where
  | error
  | warn
  | info
  | debug
  | trace
  deriving DecidableEq

/-- The name of a level in a log line. -/
def Level.name : Level → String
  | .error => "ERROR"
  | .warn => "WARN"
  | .info => "INFO"
  | .debug => "DEBUG"
  | .trace => "TRACE"

/-- The place of a level in the order of importance. -/
def Level.rank : Level → Nat
  | .error => 1
  | .warn => 2
  | .info => 3
  | .debug => 4
  | .trace => 5

/-- The least important level that is written, or none at all. -/
inductive Threshold where
  | off
  | upTo (level : Level)
  deriving DecidableEq

/-- Whether records of this level are written. -/
def Threshold.admits : Threshold → Level → Bool
  | off, _ => false
  | upTo least, level => level.rank ≤ least.rank

/-- The threshold that a word names, whatever its case. -/
def Threshold.named? (word : String) : Option Threshold :=
  match String.ofList (word.toList.map Char.toUpper) with
  | "OFF" => some off
  | "ERROR" => some (upTo .error)
  | "WARN" => some (upTo .warn)
  | "INFO" => some (upTo .info)
  | "DEBUG" => some (upTo .debug)
  | "TRACE" => some (upTo .trace)
  | _ => none

/-- What one part of the program has to say. -/
structure Record where
  level : Level
  target : String
  message : String
  deriving DecidableEq

/-- A message whose further lines are set off from the beginnings of log lines by four spaces. -/
def indented (message : String) : String :=
  String.ofList (message.toList.flatMap fun c =>
    if c = '\n' then ['\n', ' ', ' ', ' ', ' '] else [c])

/-- The log line of a record. What a message holds for terminals does not show in it. Left out are
the time that stands before the level, and the coloring of the line where `CLICOLOR_FORCE` insists
on it: a line depends neither on the clock nor on the environment. -/
def Record.render (r : Record) : String :=
  Text.visible
    ("[" ++ Text.alignLeft 5 r.level.name ++ " " ++ r.target ++ "] " ++ indented r.message ++ "\n")

end SexprLexer.Log
