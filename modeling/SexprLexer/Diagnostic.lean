import SexprLexer.LexError
import SexprLexer.Text.Lines
import SexprLexer.Text.Styled

/-!
# Diagnostics

A diagnostic tells a reader about one error or warning: a heading, the place, and, if the source
is at hand, the line at that place with a caret under the character in question.
-/

namespace SexprLexer

/-- How serious a diagnostic is. -/
inductive Severity where
  | error
  | warning
  deriving DecidableEq

/-- The style in which headings and carets of this severity stand out. -/
def Severity.style : Severity → Text.Style
  | error => .boldRed
  | warning => .boldYellow

/-- What a reader is told about one error or warning. -/
structure Diagnostic where
  severity : Severity
  heading : String
  message : String
  location : Option Location
  source : Option String

namespace Diagnostic

open Text (Row plain styled)

/-- The diagnostic of an error. -/
def ofError (e : LexError) : Diagnostic where
  severity := .error
  heading := e.kind
  message := e.message
  location := e.location
  source := none

/-- The warning about a skipped character. -/
def ofSkipped (s : Skipped) : Diagnostic where
  severity := .warning
  heading := "Warning"
  message := "skipped character " ++ Text.quoteChar s.character
  location := some s.location
  source := none

/-- The same diagnostic with the source at hand. -/
def withSource (d : Diagnostic) (source : String) : Diagnostic :=
  { d with source := some source }

/-- The row that says what the diagnostic is about. -/
def headingRow (d : Diagnostic) : Row :=
  [styled d.severity.style d.heading, plain (": " ++ d.message)]

/-- The row that says where it is. -/
def locationRow (location : Location) : Row :=
  [plain "  ", styled .boldBlue "-->", plain (" " ++ location.display)]

/-- What stands under the characters before the caret. A tab stays a tab, so that the caret is
under its character however wide tabs are. -/
def caretPadding (before : List Char) : List Char :=
  before.map fun c => if c = '\t' then '\t' else ' '

/-- The row that shows the line with its number. -/
def excerptRow (number : Nat) (line : List Char) : Row :=
  [plain "  ", styled .boldBlue (toString number), plain (" " ++ String.ofList line)]

/-- The row that puts a caret under the character in the given column of the line, or right after
the line if it has no such column. It is set off by the width of the line's number and of the three
spaces around it. -/
def caretRow (severity : Severity) (number column : Nat) (line : List Char) : Row :=
  let gutter := List.replicate ((toString number).length + 3) ' '
  [plain (String.ofList (gutter ++ caretPadding (line.take (column - 1)))),
    styled severity.style "^"]

/-- The line of `source` at `location`, if the source has such a line. -/
def lineAt? (source : String) (location : Location) : Option (List Char) :=
  if location.line = 0 then none else (Text.lines source.toList)[location.line - 1]?

/-- The rows that show the source at `location`. -/
def contextRows (d : Diagnostic) (location : Location) : List Row :=
  match d.source.bind (lineAt? · location) with
  | none => []
  | some line =>
    [excerptRow location.line line, caretRow d.severity location.line location.column line]

/-- All rows of a diagnostic. -/
def rows (d : Diagnostic) : List Row :=
  d.headingRow ::
    match d.location with
    | none => []
    | some location => locationRow location :: d.contextRows location

/-- A diagnostic as it is written, with or without color. -/
def render (d : Diagnostic) (color : Bool) : String := Text.render color (Text.ofRows d.rows)

end Diagnostic

end SexprLexer
