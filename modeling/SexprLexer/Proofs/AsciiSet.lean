import SexprLexer.AsciiSet

/-!
# Sets of characters as machine words

A set of ASCII characters is a word of 128 bits, and it is made and read by operations on words. The
bit of a code point is a one shifted to its place, for which there must be a place, and an interval
is gone through with a counter of one byte. Where such an operation leaves its range it has no
result or only the low bits of one, so that a set could hold the wrong characters, or the counter
could go round for ever. Main statements: with code points below 128 this does not happen, and the
sets are the listed ones and the intervals (`Overflow.insertAll?_eq`, `Sweep.ends_codesBetween`); a
set is read within the range whatever the character (`Overflow.contains?_eq`).
-/

namespace SexprLexer

/-- What becomes of an operation on words that leaves their range. -/
inductive Overflow where
  /-- It has no result. -/
  | refused
  /-- Only the low bits of its operand or of its result count. -/
  | wrapped

namespace Overflow

/-! ### Operations on words -/

/-- A one in a word of 128 bits, shifted to the left by `amount`. -/
def bit? : Overflow → Nat → Option (BitVec 128)
  | refused, amount => if amount < 128 then some (1#128 <<< amount) else none
  | wrapped, amount => some (1#128 <<< (amount % 128))

/-- The byte after `byte`. -/
def next? : Overflow → UInt8 → Option UInt8
  | refused, byte => if byte < 255 then some (byte + 1) else none
  | wrapped, byte => some (byte + 1)

/-- The set with the code point `code` put in. -/
def insert? (overflow : Overflow) (s : AsciiSet) (code : UInt8) : Option AsciiSet :=
  (overflow.bit? code.toNat).map fun bit => ⟨s.bits ||| bit⟩

/-- The set of the listed code points, put in one after the other. -/
def insertAll? (overflow : Overflow) (codes : List UInt8) : Option AsciiSet :=
  codes.foldlM overflow.insert? ∅

/-- Whether `c` is in the set. Only a character of ASCII has a bit to look at. -/
def contains? (overflow : Overflow) (s : AsciiSet) (c : Char) : Option Bool :=
  if c.toNat < 128 then (overflow.bit? c.toNat).map fun bit => s.bits &&& bit != 0#128
  else some false

variable (overflow : Overflow)

/-- There is a place for each bit of the word. -/
theorem bit?_eq {amount : Nat} (h : amount < 128) :
    overflow.bit? amount = some (1#128 <<< amount) := by
  cases overflow with
  | refused => exact if_pos h
  | wrapped => rw [bit?, Nat.mod_eq_of_lt h]

-- There is none for the first code point beyond ASCII, and a wrapped shift takes that of zero.
example : refused.bit? 128 = none ∧ wrapped.bit? 128 = wrapped.bit? 0 := by decide

/-- The counter has a next value before the last one. -/
theorem next?_eq {byte : UInt8} (h : byte < 255) : overflow.next? byte = some (byte + 1) := by
  cases overflow with
  | refused => exact if_pos h
  | wrapped => rfl

theorem insert?_eq (s : AsciiSet) {code : UInt8} (h : code.toNat < 128) :
    overflow.insert? s code = some (s ∪ .singleton code.toNat) := by
  rw [insert?, overflow.bit?_eq h]
  rfl

/-! ### Lists -/

/-- Code points below 128 are put into a set with no operation out of range. -/
theorem foldlM_insert?_eq {codes : List UInt8} (h : ∀ code ∈ codes, code < 128) (s : AsciiSet) :
    codes.foldlM overflow.insert? s = some (s ∪ .ofCodes (codes.map UInt8.toNat)) := by
  induction codes generalizing s with
  | nil =>
    rw [List.foldlM_nil, List.map_nil, AsciiSet.ofCodes_nil, AsciiSet.union_empty]
    rfl
  | cons code codes ih =>
    have hcode : code.toNat < 128 := UInt8.lt_iff_toNat_lt.1 (h code List.mem_cons_self)
    have hcodes : ∀ d ∈ codes, d < 128 := fun d hd => h d (List.mem_cons_of_mem code hd)
    rw [List.foldlM_cons, overflow.insert?_eq s hcode, Option.bind_eq_bind, Option.bind_some,
      ih hcodes, List.map_cons, AsciiSet.ofCodes_cons, AsciiSet.union_assoc]

/-- So a list of them gives the set of the listed ones. -/
theorem insertAll?_eq {codes : List UInt8} (h : ∀ code ∈ codes, code < 128) :
    overflow.insertAll? codes = some (.ofCodes (codes.map UInt8.toNat)) := by
  rw [insertAll?, overflow.foldlM_insert?_eq h, AsciiSet.empty_union]

/-- Neither the order of a list nor how often it names a code point makes a difference. -/
theorem insertAll?_congr {codes others : List UInt8} (h : ∀ code ∈ codes, code < 128)
    (hsame : ∀ code, code ∈ others ↔ code ∈ codes) :
    overflow.insertAll? others = overflow.insertAll? codes := by
  have hothers : ∀ code ∈ others, code < 128 := fun code hcode => h code ((hsame code).1 hcode)
  rw [overflow.insertAll?_eq h, overflow.insertAll?_eq hothers]
  congr 1
  refine AsciiSet.ext_contains fun c => ?_
  rw [Bool.eq_iff_iff, AsciiSet.contains_ofCodes, AsciiSet.contains_ofCodes, List.mem_map,
    List.mem_map]
  simp only [hsame]

/-! ### Reading -/

/-- The bit of a word at a place is what is left of the word under a one at this place. -/
theorem and_bit_ne_zero {amount : Nat} (h : amount < 128) (bits : BitVec 128) :
    (bits &&& 1#128 <<< amount != 0#128) = bits.getLsbD amount := by
  rw [Bool.eq_iff_iff, bne_iff_ne, ← BitVec.twoPow_eq, BitVec.and_twoPow]
  cases hbit : bits.getLsbD amount with
  | false => simp
  | true =>
    -- Within the word the one that is shifted is not shifted out.
    have hne : BitVec.twoPow 128 amount ≠ 0#128 := by
      intro hzero
      have hsame := congrArg (·.getLsbD amount) hzero
      simp [h] at hsame
    simpa using hne

/-- A set is read without an operation out of range, whatever the character. -/
theorem contains?_eq (s : AsciiSet) (c : Char) :
    overflow.contains? s c = some (s.contains c) := by
  unfold contains?
  by_cases hc : c.toNat < 128
  · rw [if_pos hc, overflow.bit?_eq hc, Option.map_some, and_bit_ne_zero hc, AsciiSet.contains]
  · rw [if_neg hc, s.contains_of_le (Nat.le_of_not_lt hc)]

end Overflow

/-! ### Intervals -/

/-- A walk through an interval between two of its steps: the set of the code points behind it, and
the one that comes next. -/
structure Sweep where
  set : AsciiSet
  code : UInt8

namespace Sweep

/-- What one step comes to. -/
inductive Result where
  /-- An operation has no result. -/
  | stuck
  | goesOn (s : Sweep)
  | ends

/-- One step through an interval up to `last`: the next code point is put in, and counted on. -/
def step (overflow : Overflow) (last : UInt8) (s : Sweep) : Result :=
  if s.code ≤ last then
    match overflow.insert? s.set s.code, overflow.next? s.code with
    | some set, some code => .goesOn ⟨set, code⟩
    | _, _ => .stuck
  else .ends

/-- `Ends overflow last s amounts set` says that the walk `s` takes its steps, in which it shifts by
`amounts`, one after the other, and then ends with `set`. -/
inductive Ends (overflow : Overflow) (last : UInt8) : Sweep → List Nat → AsciiSet → Prop
  | now {s : Sweep} (h : s.step overflow last = .ends) : Ends overflow last s [] s.set
  | later {s next : Sweep} {amounts : List Nat} {set : AsciiSet}
      (h : s.step overflow last = .goesOn next) (hnext : Ends overflow last next amounts set) :
      Ends overflow last s (s.code.toNat :: amounts) set

variable (overflow : Overflow) {last : UInt8}

/-- Beyond the last code point the walk ends. -/
theorem step_of_lt {s : Sweep} (h : last < s.code) : s.step overflow last = .ends :=
  if_neg (UInt8.not_le.2 h)

/-- Up to a last code point below 128 each step stays in range. -/
theorem step_of_le {s : Sweep} (hlast : last ≤ 127) (h : s.code ≤ last) :
    s.step overflow last = .goesOn ⟨s.set ∪ .singleton s.code.toNat, s.code + 1⟩ := by
  have hcode : s.code.toNat ≤ 127 := UInt8.le_iff_toNat_le.1 (UInt8.le_trans h hlast)
  have hnext : s.code < 255 := UInt8.lt_iff_toNat_lt.2 (Nat.lt_of_le_of_lt hcode (by decide))
  unfold step
  rw [if_pos h, overflow.insert?_eq s.set (Nat.lt_succ_of_le hcode), overflow.next?_eq hnext]

/-- From any code point on the walk ends, and has put in what is left of the interval. -/
theorem ends_codesBetween (hlast : last ≤ 127) (set : AsciiSet) (code : UInt8) :
    Ends overflow last ⟨set, code⟩ (AsciiSet.codesBetween code.toNat last.toNat)
      (set ∪ .between code.toNat last.toNat) := by
  -- Each step leaves one code point less between the counter and the end.
  induction hleft : last.toNat + 1 - code.toNat generalizing set code with
  | zero =>
    have hlt : last.toNat < code.toNat := by omega
    rw [AsciiSet.between, AsciiSet.codesBetween_of_lt hlt, AsciiSet.ofCodes_nil,
      AsciiSet.union_empty]
    exact .now (step_of_lt overflow (UInt8.lt_iff_toNat_lt.2 hlt))
  | succ left ih =>
    have hle : code.toNat ≤ last.toNat := by omega
    have hlast' : last.toNat ≤ 127 := UInt8.le_iff_toNat_le.1 hlast
    have hnext : (code + 1).toNat = code.toNat + 1 := by
      rw [UInt8.toNat_add, UInt8.toNat_one]
      exact Nat.mod_eq_of_lt (by omega)
    have hrest := ih (set ∪ .singleton code.toNat) (code + 1) (by omega)
    -- What is put in now and what is put in later make up the interval from here on.
    rw [hnext, AsciiSet.between, AsciiSet.union_assoc, ← AsciiSet.ofCodes_cons,
      ← AsciiSet.codesBetween_of_le hle, ← AsciiSet.between] at hrest
    rw [AsciiSet.codesBetween_of_le hle]
    exact .later (step_of_le overflow hlast (UInt8.le_iff_toNat_le.2 hle)) hrest

end Sweep

end SexprLexer
