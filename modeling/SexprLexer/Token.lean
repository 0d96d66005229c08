import SexprLexer.CharClass
import SexprLexer.Location
import SexprLexer.Text.Quoted

/-!
# Tokens

A token is a parenthesis or an identifier, with the characters it is made of and the place where
they begin.
-/

namespace SexprLexer

/-- The kinds of tokens. -/
inductive Token.Kind where
  | leftParen
  | rightParen
  | identifier
  deriving DecidableEq

/-- A piece of a source that has a meaning of its own. -/
structure Token where
  kind : Token.Kind
  lexeme : String
  location : Location
  deriving DecidableEq

namespace Token

/-- The name of a kind in tables and records. -/
def Kind.name : Kind → String
  | leftParen => "LeftParen"
  | rightParen => "RightParen"
  | identifier => "Identifier"

/-- A kind as messages show it: a parenthesis stands for itself. -/
def Kind.display : Kind → String
  | leftParen => "("
  | rightParen => ")"
  | identifier => "identifier"

/-- The kind of the tokens that begin with `c`, if there are any. A character that may only follow
the first one of an identifier begins one all the same: `+`, `...` and `42` are identifiers. -/
def Kind.begunBy? (c : Char) : Option Kind :=
  if isLeftParen c then some leftParen
  else if isRightParen c then some rightParen
  else if isIdentifierInitial c || isIdentifierSubsequent c then some identifier
  else none

/-- Divides the text after the first character of a token of this kind: what still belongs to the
token, and what comes after it. -/
def Kind.span (kind : Kind) (text : List Char) : List Char × List Char :=
  match kind with
  | identifier => (text.takeWhile isIdentifierSubsequent, text.dropWhile isIdentifierSubsequent)
  | leftParen | rightParen => ([], text)

/-- Dividing a text loses nothing. -/
@[simp]
theorem Kind.span_append (kind : Kind) (text : List Char) :
    (kind.span text).1 ++ (kind.span text).2 = text := by
  cases kind <;> simp [Kind.span]

/-- A line feed begins no token. -/
theorem Kind.begunBy?_newline : Kind.begunBy? '\n' = none := by decide

/-- No token goes on to another line. -/
theorem Kind.newline_not_mem {c : Char} {kind : Kind} (h : begunBy? c = some kind)
    (text : List Char) : '\n' ∉ c :: (kind.span text).1 := by
  intro hmem
  rcases List.mem_cons.1 hmem with rfl | hmem
  · rw [begunBy?_newline] at h
    cases h
  · cases kind with
    | leftParen => cases hmem
    | rightParen => cases hmem
    | identifier =>
      have hall := List.all_takeWhile (p := isIdentifierSubsequent) (l := text)
      have hnewline : isIdentifierSubsequent '\n' = true := List.all_eq_true.1 hall _ hmem
      exact absurd hnewline (by decide)

/-- Whether the token has this kind and these characters, wherever it stands. -/
def is (t : Token) (kind : Kind) (text : String) : Bool :=
  t.kind == kind && t.lexeme == text

/-- A token as messages show it. -/
def display (t : Token) : String := t.kind.name ++ "(" ++ Text.quoteText t.lexeme ++ ")"

end Token

end SexprLexer
