import SexprLexer.Pattern.CharSet

/-!
# Patterns

A pattern says what a stretch of text may look like: it is made of characters, of sets of which
one character is taken, and of anchors, which hold at some of the places between two characters.
-/

namespace SexprLexer

/-- Where a word begins or ends, as seen from a place between two characters. -/
inductive Pattern.Boundary where
  /-- A word character on exactly one side. -/
  | edge
  /-- A word character on both sides or on none. -/
  | interior
  | wordStart
  | wordEnd
  /-- No word character before. -/
  | halfStart
  /-- No word character after. -/
  | halfEnd
  deriving DecidableEq

/-- What a place between two characters can be. -/
inductive Pattern.Anchor where
  | textStart
  | textEnd
  /-- The beginning of a line. With `returns`, a carriage return may end a line too. -/
  | lineStart (returns : Bool)
  /-- The end of a line. With `returns`, a carriage return may end a line too. -/
  | lineEnd (returns : Bool)
  /-- A boundary of words of ASCII letters, digits and underscores. With `ofAllScripts`, words in
  other letters count too, but such words cannot be told apart here. -/
  | word (boundary : Boundary) (ofAllScripts : Bool)
  deriving DecidableEq

/-- What a stretch of text may look like. -/
inductive Pattern where
  | empty
  | anchor (a : Pattern.Anchor)
  /-- Some characters one after the other. -/
  | literal (text : List Char)
  /-- One character of a set. -/
  | one (set : Pattern.CharSet)
  | sequence (first second : Pattern)
  | choice (first second : Pattern)
  /-- `least` times the same or more often, up to `most` times if that is given: as often as
  possible if the repetition is `greedy`, else as seldom as possible. -/
  | repetition (p : Pattern) (least : Nat) (most : Option Nat) (greedy : Bool)
  /-- A part of a pattern that has a number of its own. -/
  | group (number : Nat) (p : Pattern)
  deriving DecidableEq

namespace Pattern

/-- The characters of words in ASCII. -/
def wordCharacters : CharSet :=
  .between '0' '9' ∪ .between 'A' 'Z' ∪ .between 'a' 'z' ∪ .singleton '_'

/-- Whether a place has a word character on one of its sides. -/
def isWord (side : Option Char) : Bool := side.any wordCharacters.contains

/-- Whether a place between two characters is such a boundary. -/
def Boundary.holds (before next : Option Char) : Boundary → Bool
  | edge => isWord before != isWord next
  | interior => isWord before == isWord next
  | wordStart => !isWord before && isWord next
  | wordEnd => isWord before && !isWord next
  | halfStart => !isWord before
  | halfEnd => !isWord next

/-- Whether an anchor holds at a place between two characters. -/
def Anchor.holds (before next : Option Char) : Anchor → Bool
  | textStart => before.isNone
  | textEnd => next.isNone
  | lineStart false => before.isNone || before == some '\n'
  | lineStart true =>
    before.isNone || before == some '\n' || (before == some '\r' && next != some '\n')
  | lineEnd false => next.isNone || next == some '\n'
  | lineEnd true =>
    next.isNone || next == some '\r' || (next == some '\n' && before != some '\r')
  | word boundary _ => boundary.holds before next

/-- Whether a pattern can only take up nothing. -/
def takesNothing : Pattern → Bool
  | empty | anchor _ => true
  | literal text => text.isEmpty
  | one _ => false
  | sequence first second | choice first second => first.takesNothing && second.takesNothing
  | repetition p _ most _ => p.takesNothing || most == some 0
  | group _ p => p.takesNothing

/-- The length of the shortest text that a pattern can take up. There is none if a part of the
pattern stands for a character of the empty set, whether or not the rest could do without it. -/
def shortest? : Pattern → Option Nat
  | empty | anchor _ => some 0
  | literal text => some text.length
  | one set => if set.isEmpty then none else some 1
  | sequence first second => do return (← first.shortest?) + (← second.shortest?)
  | choice first second => do return min (← first.shortest?) (← second.shortest?)
  | repetition p least _ _ => do return least * (← p.shortest?)
  | group _ p => p.shortest?

/-- Whether a pattern asks for words of all scripts. -/
def asksForWords : Pattern → Bool
  | anchor (.word _ ofAllScripts) => ofAllScripts
  | empty | anchor _ | literal _ | one _ => false
  | sequence first second | choice first second => first.asksForWords || second.asksForWords
  | repetition p _ _ _ | group _ p => p.asksForWords

end Pattern

end SexprLexer
