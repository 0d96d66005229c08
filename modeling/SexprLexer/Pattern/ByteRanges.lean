import SexprLexer.Pattern.CharSet

/-!
# Sets of characters as bytes

In UTF-8 a character is one to four bytes. A range of characters is taken apart into sequences of
ranges of bytes: any byte of the first range, then any byte of the second one, and so on, make a
character of the range.
-/

namespace SexprLexer.Pattern

/-- The ranges in which the bytes of a character lie, one after the other. -/
abbrev ByteRanges := List (Nat × Nat)

namespace ByteRanges

/-- The numbers from `first` to `last`, written with a leading digit and `count` more digits in
base 64, as ranges for each digit. -/
def ofDigits : Nat → Nat → Nat → List ByteRanges
  | 0, first, last => [[(first, last)]]
  | count + 1, first, last =>
    let unit := 64 ^ (count + 1)
    let low := first / unit
    let high := last / unit
    let anyMore := List.replicate (count + 1) (0, 63)
    let startsWhole := first % unit == 0
    let endsWhole := last % unit == unit - 1
    if low = high && !(startsWhole && endsWhole) then
      (ofDigits count (first % unit) (last % unit)).map ((low, low) :: ·)
    else
      let start :=
        if startsWhole then [] else (ofDigits count (first % unit) (unit - 1)).map ((low, low) :: ·)
      let stop :=
        if endsWhole then [] else (ofDigits count 0 (last % unit)).map ((high, high) :: ·)
      let lowWhole := if startsWhole then low else low + 1
      let pastWhole := if endsWhole then high + 1 else high
      let whole := if lowWhole < pastWhole then [(lowWhole, pastWhole - 1) :: anyMore] else []
      start ++ whole ++ stop

/-- The bytes of digits, where the leading byte of the number 0 would be `lead`. -/
def encode (lead : Nat) : ByteRanges → ByteRanges
  | [] => []
  | (first, last) :: digits =>
    (lead + first, lead + last) :: digits.map fun (first, last) => (0x80 + first, 0x80 + last)

/-- The code points that take as many bytes, with that number of bytes less one and the lowest
leading byte. The surrogates are left out. -/
def blocks : List ((Nat × Nat) × Nat × Nat) :=
  [((0, 0x7f), 0, 0), ((0x80, 0x7ff), 1, 0xc0), ((0x800, 0xd7ff), 2, 0xe0),
    ((0xe000, 0xffff), 2, 0xe0), ((0x10000, 0x10ffff), 3, 0xf0)]

/-- The bytes of the characters in a range of code points, in increasing order. -/
def ofRange (range : Nat × Nat) : List ByteRanges :=
  blocks.flatMap fun (block, count, lead) =>
    let first := max range.1 block.1
    let last := min range.2 block.2
    if first ≤ last then (ofDigits count first last).map (encode lead) else []

/-- The bytes of the characters in a set, in increasing order. -/
def ofSet (set : CharSet) : List ByteRanges := set.ranges.flatMap ofRange

end ByteRanges

end SexprLexer.Pattern
