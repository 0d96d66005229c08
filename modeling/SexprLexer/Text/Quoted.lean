import SexprLexer.Text.Unprintable

/-!
# Quoted characters and texts

Messages show characters and lexemes between quotation marks, on one line and without doubt about
what they hold: the mark itself and the backslash take a backslash, four control characters have
short forms, and every other character that does not show is written by its number, as in
`\u{200b}`.
-/

namespace SexprLexer.Text

/-- The quotation mark around a single character. -/
def charMark : Char := '\''

/-- The quotation mark around a text. -/
def textMark : Char := '"'

/-- The number of a character in lowercase hexadecimal, without padding. -/
def hexDigits (c : Char) : List Char := Nat.toDigits 16 c.toNat

/-- How `c` is written between two quotation marks `mark`. -/
def escape (mark c : Char) : List Char :=
  if c = '\x00' then ['\\', '0']
  else if c = '\t' then ['\\', 't']
  else if c = '\r' then ['\\', 'r']
  else if c = '\n' then ['\\', 'n']
  else if c = '\\' ∨ c = mark then ['\\', c]
  else if isUnprintable c then '\\' :: 'u' :: '{' :: hexDigits c ++ ['}']
  else [c]

/-- `text` between two quotation marks `mark`. -/
def quote (mark : Char) (text : List Char) : List Char :=
  mark :: text.flatMap (escape mark) ++ [mark]

/-- A character as messages show it. -/
def quoteChar (c : Char) : String := String.ofList (quote charMark [c])

/-- A text as messages show it. -/
def quoteText (text : String) : String := String.ofList (quote textMark text.toList)

end SexprLexer.Text
