import SexprLexer.Pattern.ByteRanges
import SexprLexer.Pattern.Fault
import SexprLexer.Pattern.Simple
import SexprLexer.Pattern.WordTree

/-!
# The size of automata

Patterns are looked for with two automata that read a text byte by byte, the one from its beginning
and the other from its end, and the size of both is limited. An automaton consists of states: some
have an arrow for a range of bytes, some have several such arrows, and some are forks with branches.
Main definition: `Pattern.unbuildable?`, the reason why an automaton cannot be built.
-/

namespace SexprLexer.Pattern

/-- The bytes that a state takes, besides its arrows if it has several and its branches. -/
def stateSize : Nat := 32

/-- The bytes that an arrow takes. -/
def arrowSize : Nat := 8

/-- The bytes that a branch takes. -/
def branchSize : Nat := 4

/-- The bytes that a state with some arrows takes. A single one takes nothing. -/
def arrowsSize (count : Nat) : Nat := stateSize + if count = 1 then 0 else arrowSize * count

/-- The size of some parts together. -/
def total (sizes : List Nat) : Nat := sizes.foldl (· + ·) 0

/-! ### Sets of characters -/

/-- The states that some sequences of ranges of bytes lead through; a state is the same as what
leads from it to the end. There are at most `depth` on one way. -/
def byteStates : Nat → List ByteRanges → List (List ByteRanges)
  | 0, _ => []
  | depth + 1, rows =>
    if rows = [[]] then []
    else
      let groups := rows.splitBy fun r s => r.head? == s.head?
      rows :: groups.flatMap fun group => byteStates depth (group.map List.tail)

/-- The size of what reads one character of a set from its first byte to its last one: all ways
share what they have in common at their ends. -/
def forwardSetSize (rows : List ByteRanges) : Nat :=
  let sizes := (byteStates 4 rows).eraseDups.map fun rows =>
    stateSize + arrowSize * (rows.splitBy fun r s => r.head? == s.head?).length
  stateSize + total sizes

/-- The size of what reads one character of a set from its last byte to its first one: there is a
branch for each row of ranges, and the rows share what they begin with. -/
def backwardSetSize (rows : List ByteRanges) : Nat :=
  let states := rows.flatMap fun row => (List.range row.length).map fun n => row.take (n + 1)
  2 * stateSize + branchSize * rows.length + stateSize * states.eraseDups.length

/-- The size of what reads one character of a set. -/
def setSize (backward : Bool) (set : CharSet) : Nat :=
  if set.ranges.all (·.2 < 128) then 2 * stateSize + arrowSize * set.ranges.length
  else if backward then backwardSetSize (ByteRanges.ofSet set)
  else forwardSetSize (ByteRanges.ofSet set)

/-! ### Words -/

/-- The bytes of a text in the order in which an automaton reads them. -/
def wordOf (backward : Bool) (text : List Char) : Word :=
  let bytes := text.flatMap String.utf8EncodeChar
  if backward then bytes.reverse else bytes

/-- The size of the tree of some words, none of which is longer than `depth`. Each of its nodes is
a fork, where words end in a branch of their own. -/
def treeSize : Nat → List Word → Nat
  | 0, _ => 0
  | depth + 1, words =>
    if words.all (·.isEmpty) then 0
    else
      let cuts := WordTree.cuts words
      let parts := cuts.filter (!·.isEmpty)
      let sizes := parts.map fun part =>
        let heads := WordTree.heads part
        arrowsSize heads.length +
          total (heads.map fun byte => treeSize depth (WordTree.tails part byte))
      stateSize + branchSize * (parts.length + cuts.length - 1) + total sizes

/-- The texts between which there is a choice, if all of them are written as they are. -/
def texts? (p : Pattern) : Option (List (List Char)) :=
  p.branches.mapM fun
    | literal text => some text
    | _ => none

/-! ### Patterns -/

/-- The size of a part of an automaton. -/
structure Measure where
  bytes : Nat
  /-- Whether the part ends in a fork, so that the way on is a branch of it. -/
  forked : Bool

namespace Measure

/-- The size of a part and the way on from it. -/
def linked (m : Measure) : Nat := m.bytes + if m.forked then branchSize else 0

/-- One part after the other. -/
def followedBy (first second : Measure) : Measure :=
  ⟨first.linked + second.bytes, second.forked⟩

/-- A part `count` times in a row. -/
def times (m : Measure) : Nat → Measure
  | 0 => ⟨stateSize, false⟩
  | count + 1 => ⟨count * m.linked + m.bytes, m.forked⟩

/-- A part `least` to `most` times in a row. With `skippable`, the part may take up nothing. -/
def repeated (m : Measure) (skippable : Bool) : Nat → Option Nat → Measure
  | 0, some 1 => ⟨2 * stateSize + 2 * branchSize + m.linked, false⟩
  | 0, none =>
    if skippable then ⟨3 * stateSize + 4 * branchSize + m.linked, false⟩
    else ⟨stateSize + branchSize + m.linked, true⟩
  | least, none => ⟨least * m.linked + stateSize + branchSize, true⟩
  | least, some most =>
    if least = most then m.times least
    else
      let optional := stateSize + 2 * branchSize + m.linked
      ⟨(m.times least).linked + stateSize + (most - least) * optional, false⟩

/-- A part as a branch of a choice, if it is one: the fork leads to it, and it leads to the end of
the choice. -/
def asBranch (m : Measure) (inChoice : Bool) : Measure :=
  if inChoice then ⟨branchSize + m.linked, false⟩ else m

end Measure

/-- The size of the part of an automaton that looks for a pattern, as some branches of a choice if
`inChoice` says so. Only on the way from the beginning of the text the limits of groups are
marked. -/
def measure (backward : Bool) : Pattern → (inChoice : Bool) → Measure
  | empty, inChoice | anchor _, inChoice => Measure.asBranch ⟨stateSize, false⟩ inChoice
  | literal text, inChoice =>
    Measure.asBranch ⟨stateSize * (wordOf backward text).length, false⟩ inChoice
  | one set, inChoice => Measure.asBranch ⟨setSize backward set, false⟩ inChoice
  | sequence first second, inChoice =>
    let first := first.measure backward false
    let second := second.measure backward false
    (if backward then second.followedBy first else first.followedBy second).asBranch inChoice
  | choice first second, inChoice =>
    let branches := (first.measure backward true).bytes + (second.measure backward true).bytes
    if inChoice then ⟨branches, false⟩
    else
      match (choice first second).texts? with
      | some texts =>
        let words := texts.map (wordOf backward)
        ⟨stateSize + treeSize (words.flatten.length + 1) words, false⟩
      | none => ⟨2 * stateSize + branches, false⟩
  | repetition p least most _, inChoice =>
    let skippable := p.shortest?.all (· == 0)
    ((p.measure backward false).repeated skippable least most).asBranch inChoice
  | group _ p, inChoice =>
    let inner := p.measure backward false
    (if backward then inner else ⟨2 * stateSize + inner.linked, false⟩).asBranch inChoice

/-- Whether an occurrence of a pattern can only begin where the text begins; with `backward`,
whether it can only end where the text ends. -/
def isBound (backward : Bool) : Pattern → Bool
  | anchor a => a == if backward then .textEnd else .textStart
  | empty | literal _ | one _ => false
  | sequence first second =>
    if backward then second.isBound backward || (second.takesNothing && first.isBound backward)
    else first.isBound backward || (first.takesNothing && second.isBound backward)
  | choice first second => first.isBound backward && second.isBound backward
  | repetition p least _ _ => least != 0 && p.isBound backward
  | group _ p => p.isBound backward

/-- The size of the automaton that looks for a pattern. Unless the pattern is bound to an end of
the text, the automaton may pass over any bytes first. -/
def automatonSize (backward : Bool) (p : Pattern) : Nat :=
  let passing := 3 * stateSize + arrowSize + 2 * branchSize
  let start := if p.isBound backward then stateSize else passing
  let whole := if backward then p else group 0 p
  start + (whole.measure backward false).linked + stateSize

/-- Why the automata that look for a pattern cannot be built. -/
def unbuildable? (p : Pattern) : Option Fault :=
  if sizeLimit < p.automatonSize false then some .tooLarge
  else if p.asksForWords then some .unknownWords
  else if sizeLimit < p.automatonSize true then some .tooLarge
  else none

end SexprLexer.Pattern
