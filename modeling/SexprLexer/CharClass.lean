import SexprLexer.AsciiSet

/-!
# Character classes

A parenthesis is a token of its own. An identifier begins with a letter or one of fourteen
symbols and may go on with these, with digits and with `.`, `+` and `-`. All classes lie within
ASCII.
-/

namespace SexprLexer

/-- The ASCII letters. -/
def letters : AsciiSet :=
  .between 'a'.toNat 'z'.toNat ∪ .between 'A'.toNat 'Z'.toNat

/-- The ASCII digits. -/
def digits : AsciiSet := .between '0'.toNat '9'.toNat

/-- The symbols besides letters that may begin an identifier. -/
def initialSymbols : AsciiSet :=
  .ofList ['!', '$', '%', '&', '*', '/', ':', '<', '=', '>', '?', '~', '_', '^']

/-- The symbols that may only follow the first character of an identifier. -/
def subsequentSymbols : AsciiSet := .ofList ['.', '+', '-']

/-- The characters that may begin an identifier. -/
def identifierInitials : AsciiSet := letters ∪ initialSymbols

/-- The characters that may follow the first one of an identifier. -/
def identifierSubsequents : AsciiSet := identifierInitials ∪ digits ∪ subsequentSymbols

/-- Whether `c` opens a list. -/
def isLeftParen (c : Char) : Bool := c == '('

/-- Whether `c` closes a list. -/
def isRightParen (c : Char) : Bool := c == ')'

/-- Whether `c` may begin an identifier. -/
def isIdentifierInitial (c : Char) : Bool := identifierInitials.contains c

/-- Whether `c` may follow the first character of an identifier. -/
def isIdentifierSubsequent (c : Char) : Bool := identifierSubsequents.contains c

/-- What may begin an identifier may also go on with it. -/
theorem isIdentifierSubsequent_of_initial {c : Char} (h : isIdentifierInitial c = true) :
    isIdentifierSubsequent c = true := by
  rw [isIdentifierInitial] at h
  simp [isIdentifierSubsequent, identifierSubsequents, h]

end SexprLexer
