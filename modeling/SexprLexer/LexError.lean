import SexprLexer.Skipped
import SexprLexer.Text.Quoted

/-!
# Errors

A source is refused because it cannot be read or, where every character must belong to a token,
because one does not.
-/

namespace SexprLexer

/-- Why a source is refused. -/
inductive LexError where
  /-- A character is neither blank nor part of a token. -/
  | unexpectedCharacter (character : Char) (location : Location)
  /-- The source at `path` cannot be read, for the reason `message`. -/
  | unreadable (path message : String)
  deriving DecidableEq

namespace LexError

/-- What sort of error it is, in the words of a report's heading. -/
def kind : LexError → String
  | unexpectedCharacter .. => "Lexer Error"
  | unreadable .. => "I/O Error"

/-- What is wrong. -/
def message : LexError → String
  | unexpectedCharacter character _ => "unexpected character " ++ Text.quoteChar character
  | unreadable path message => "failed to read '" ++ path ++ "': " ++ message

/-- Where it is wrong, if that is a place in the source. -/
def location : LexError → Option Location
  | unexpectedCharacter _ location => some location
  | unreadable .. => none

/-- The whole error on one line. -/
def display (e : LexError) : String :=
  let text := e.kind ++ ": " ++ e.message
  match e.location with
  | none => text
  | some location => text ++ " at " ++ location.display

end LexError

/-- The error that a skipped character is where none may be skipped. -/
def Skipped.toError (s : Skipped) : LexError := .unexpectedCharacter s.character s.location

end SexprLexer
