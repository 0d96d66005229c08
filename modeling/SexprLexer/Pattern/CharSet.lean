/-!
# Sets of characters

A set of characters is a list of closed ranges of code points in increasing order, with at least
one code point between each two of them, so that no set has two such lists.
-/

namespace SexprLexer.Pattern

/-- Whether a code point lies in a range. -/
def inRange (code : Nat) (range : Nat × Nat) : Bool := decide (range.1 ≤ code ∧ code ≤ range.2)

/-- The ranges start at `floor` or later, none is empty, and between each two of them there is a
gap. -/
def Spaced (floor : Nat) : List (Nat × Nat) → Prop
  | [] => True
  | (first, last) :: rest => floor ≤ first ∧ first ≤ last ∧ Spaced (last + 2) rest

theorem Spaced.mono {floor floor' : Nat} {ranges : List (Nat × Nat)} (h : Spaced floor ranges)
    (hle : floor' ≤ floor) : Spaced floor' ranges := by
  cases ranges with
  | nil => trivial
  | cons range rest => exact ⟨Nat.le_trans hle h.1, h.2⟩

/-- Adds a range; ranges that overlap or touch become one. An empty range adds nothing. -/
def insertRange (range : Nat × Nat) : List (Nat × Nat) → List (Nat × Nat)
  | [] => if range.1 ≤ range.2 then [range] else []
  | r :: rest =>
    if range.2 < range.1 then r :: rest
    else if range.2 + 1 < r.1 then range :: r :: rest
    else if r.2 + 1 < range.1 then r :: insertRange range rest
    else insertRange (min range.1 r.1, max range.2 r.2) rest

theorem Spaced.insertRange {floor : Nat} {ranges : List (Nat × Nat)} (h : Spaced floor ranges)
    (range : Nat × Nat) (hfloor : floor ≤ range.1) :
    Spaced floor (insertRange range ranges) := by
  induction ranges generalizing floor range with
  | nil =>
    simp only [Pattern.insertRange]
    split
    · exact ⟨hfloor, by assumption, trivial⟩
    · trivial
  | cons r rest ih =>
    obtain ⟨hfirst, hlast, hrest⟩ := h
    simp only [Pattern.insertRange]
    split
    · exact ⟨hfirst, hlast, hrest⟩
    · split
      · exact ⟨hfloor, by omega, by omega, hlast, hrest⟩
      · split
        · exact ⟨hfirst, hlast, ih hrest range (by omega)⟩
        · exact ih (hrest.mono (by omega)) _ (by simp only; omega)

/-- A set of characters, as ranges of code points. -/
structure CharSet where
  ranges : List (Nat × Nat)
  spaced : Spaced 0 ranges
  deriving DecidableEq

namespace CharSet

/-- The characters in some ranges, which may overlap, touch or be empty. -/
def ofRanges (ranges : List (Nat × Nat)) : CharSet where
  ranges := ranges.foldr insertRange []
  spaced := by
    induction ranges with
    | nil => trivial
    | cons r rest ih => exact ih.insertRange r (Nat.zero_le _)

/-- Whether `c` is in the set. -/
def contains (s : CharSet) (c : Char) : Bool := s.ranges.any (inRange c.toNat)

instance : EmptyCollection CharSet := ⟨⟨[], trivial⟩⟩

/-- Whether no character is in the set. -/
def isEmpty (s : CharSet) : Bool := s.ranges.isEmpty

/-- The characters from `first` to `last`, both included. -/
def between (first last : Char) : CharSet := ofRanges [(first.toNat, last.toNat)]

/-- The set of one character. -/
def singleton (c : Char) : CharSet := between c c

/-- All characters. -/
def all : CharSet := ofRanges [(0, 0x10ffff)]

instance : Union CharSet := ⟨fun s t => ofRanges (s.ranges ++ t.ranges)⟩

/-- The set of the listed characters. -/
def ofList (chars : List Char) : CharSet := ofRanges (chars.map fun c => (c.toNat, c.toNat))

/-- The only character of a set, if the set has just one. -/
def single? (s : CharSet) : Option Char :=
  match s.ranges with
  | [(first, last)] => if first = last then some (Char.ofNat first) else none
  | _ => none

/-- What two ranges have in common. -/
def overlap (r s : Nat × Nat) : Nat × Nat := (max r.1 s.1, min r.2 s.2)

/-- The number of the character before the one with the number `code`, which is not the first. -/
def before (code : Nat) : Nat := if code = 0xe000 then 0xd7ff else code - 1

/-- The number of the character after the one with the number `code`. -/
def after (code : Nat) : Nat := if code = 0xd7ff then 0xe000 else code + 1

/-- What is left of the range `r` without the range `s`. -/
def cut (s r : Nat × Nat) : List (Nat × Nat) :=
  (if r.1 < s.1 then [(r.1, min r.2 (before s.1))] else []) ++
    (if s.2 < r.2 then [(max r.1 (after s.2), r.2)] else [])

instance : Inter CharSet :=
  ⟨fun s t => ofRanges (s.ranges.flatMap fun r => t.ranges.map (overlap r))⟩

instance : SDiff CharSet :=
  ⟨fun s t => ofRanges (t.ranges.foldl (fun left r => left.flatMap (cut r)) s.ranges)⟩

/-- The characters that are in one of the sets only. -/
def symmetricDifference (s t : CharSet) : CharSet := (s ∪ t) \ (s ∩ t)

/-- Whether a range of the set ends right before the surrogates and another one begins right after
them. -/
def surroundsSurrogates (s : CharSet) : Bool :=
  s.ranges.any (·.2 == 0xd7ff) && s.ranges.any (·.1 == 0xe000)

/-- The characters that are not in the set. Where the gap between two ranges is just the
surrogates, it is taken for the two characters beside them. -/
def complement (s : CharSet) : CharSet :=
  all \ s ∪ if s.surroundsSurrogates then between '\ud7ff' '\ue000' else ∅

/-- The set together with the ASCII letters that differ from one of its members only in case. -/
def ignoringCase (s : CharSet) : CharSet :=
  let capitals := (s ∩ between 'a' 'z').ranges.map fun r => (r.1 - 32, r.2 - 32)
  let smalls := (s ∩ between 'A' 'Z').ranges.map fun r => (r.1 + 32, r.2 + 32)
  ofRanges (s.ranges ++ capitals ++ smalls)

end CharSet

end SexprLexer.Pattern
