/-!
# Trees of words

A choice between words, each of which is a sequence of bytes, is a tree: the words that begin with
the same byte share the arrow for that byte. A word that ends where others go on cuts the arrows
of its node in two: those for the words before it and those for the words after it, as an earlier
word is to be found before a later one.
-/

namespace SexprLexer.Pattern

/-- A sequence of bytes. -/
abbrev Word := List UInt8

namespace WordTree

/-- The words that start at a node, cut where a word ends. Words that end there before any other
one goes on cut once. -/
def cuts (words : List Word) : List (List Word) :=
  let rest := words.dropWhile (·.isEmpty)
  if words.length = rest.length then rest.splitOn [] else [] :: rest.splitOn []

/-- The bytes with which some words begin. -/
def heads (words : List Word) : List UInt8 := (words.filterMap (·.head?)).eraseDups

/-- What is left of the words that begin with a byte. -/
def tails (words : List Word) (byte : UInt8) : List Word :=
  (words.filter (·.head? == some byte)).map List.tail

end WordTree

end SexprLexer.Pattern
