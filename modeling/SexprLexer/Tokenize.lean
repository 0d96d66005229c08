import SexprLexer.LexError
import SexprLexer.Scanner.Stream

/-!
# Whole sources

A whole source is either tokenized leniently, whatever else it holds, or strictly, where the first
character that is neither blank nor part of a token is an error.
-/

namespace SexprLexer

/-- The tokens of `source`. -/
def tokenize (source : String) : List Token := (Scanner.ofString source none).drain.1

/-- The tokens of `source`, or its first unexpected character. -/
def tokenizeStrict (source : String) (filename : Option String) :
    Except LexError (List Token) :=
  let (tokens, last) := (Scanner.ofString source filename).drain
  match last.skipped with
  | [] => .ok tokens
  | first :: _ => .error first.toError

end SexprLexer
