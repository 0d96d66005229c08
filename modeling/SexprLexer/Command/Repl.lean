import SexprLexer.Command.Listing
import SexprLexer.Command.ReadFault
import SexprLexer.Text.Lines
import SexprLexer.Version

/-!
# Sessions

In a session each line of the input is a source of its own. Blank characters around a line do not
count, and a line of nothing else is passed over without taking a number. A session ends with the
input, with the word `exit` or `quit`, or with a line that is not text. That it also ends where a
prompt cannot be written, with the report "Error writing prompt", is left out: what is written
always arrives.
-/

namespace SexprLexer.Command.Repl

open Text (plain)

/-- What a session begins with. -/
def greeting : Entry :=
  .output (Text.ofRows [[plain ("Sibil v" ++ version ++ " - Lexer")],
    [plain "Type 'exit' to quit"], []])

/-- What asks for the line with the given number. -/
def prompt (number : Nat) : Entry :=
  .output [plain ("sibil:" ++ toString number ++ " > ")]

/-- What a session ends with. -/
def farewell : Entry := .output (Text.ofRows [[], [plain "Goodbye!"]])

/-- The report about a line that is not text. -/
def unreadableLine : Entry :=
  .report (Text.ofRows [[plain ("Error reading input: " ++ notText)]])

/-- The name of the line with the given number as a source. -/
def lineName (number : Nat) : String := "<repl:" ++ toString number ++ ">"

/-- The text of a line without the blank characters around it, if it is text at all. -/
def lineText? (line : List UInt8) : Option String :=
  (String.fromUTF8? line.toByteArray).map fun text => String.ofList (Text.trim text.toList)

/-- What a session says to a line, and the number of the line after it unless the session ends. -/
def answer (policy : SkipPolicy) (number : Nat) (line : List UInt8) : Transcript × Option Nat :=
  match lineText? line with
  | none => ([unreadableLine], none)
  | some text =>
    if text = "exit" ∨ text = "quit" then ([], none)
    else if text = "" then ([], some number)
    else ((Listing.ofSource policy (lineName number) text).transcript, some (number + 1))

/-- The rest of a session that has come to the line with the given number. -/
def continuation (policy : SkipPolicy) : Nat → List (List UInt8) → Transcript
  | number, [] => [prompt number, farewell]
  | number, line :: lines =>
    match answer policy number line with
    | (said, none) => prompt number :: said ++ [farewell]
    | (said, some number') => prompt number :: said ++ continuation policy number' lines

/-- A whole session on the given input. -/
def session (policy : SkipPolicy) (input : List UInt8) : Transcript :=
  greeting :: continuation policy 1 (Text.byteLines input)

end SexprLexer.Command.Repl
