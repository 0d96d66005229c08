import SexprLexer.Pattern.Fault

/-!
# How deep a pattern is nested

The constructs of a pattern, such as groups, repetitions and classes, may stand within each other
up to some depth. What counts is the first construct that stands too deep.
-/

namespace SexprLexer.Pattern

/-- The first construct at each depth, from the outside to the inside. -/
abbrev Nesting := List Extent

namespace Nesting

/-- The nesting of two parts of a pattern, the one after the other. -/
def beside : Nesting → Nesting → Nesting
  | [], second => second
  | first, [] => first
  | extent :: first, _ :: second => extent :: beside first second

/-- The nesting of some parts of a pattern, in their order. -/
def ofParts (parts : List Nesting) : Nesting := parts.foldr beside []

/-- The nesting of a construct that stands in `extent` around the given one. -/
def within (inner : Nesting) (extent : Extent) : Nesting := extent :: inner

/-- The first construct that stands deeper than `limit` allows. -/
def firstBeyond? (n : Nesting) (limit : Nat) : Option Extent := n[limit]?

end Nesting

end SexprLexer.Pattern
