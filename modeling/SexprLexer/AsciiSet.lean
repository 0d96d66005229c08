/-!
# Sets of ASCII characters

A set of ASCII characters is a vector of 128 bits, one for each code point. Main statements: a
listed set holds the listed code points below 128, an interval holds the code points between its
ends, a union holds what either side holds, and no set holds a character from beyond ASCII.
-/

namespace SexprLexer

/-- A set of ASCII characters: bit `n` tells whether the character with code point `n` is in it. -/
structure AsciiSet where
  bits : BitVec 128
  deriving DecidableEq

namespace AsciiSet

instance : EmptyCollection AsciiSet := ⟨⟨0#128⟩⟩

instance : Union AsciiSet := ⟨fun s t => ⟨s.bits ||| t.bits⟩⟩

/-- The set of one code point; beyond 127 there is no bit for it and the set is empty. -/
def singleton (code : Nat) : AsciiSet := ⟨1#128 <<< code⟩

/-- The set of the listed code points. -/
def ofCodes (codes : List Nat) : AsciiSet :=
  codes.foldr (fun code s => singleton code ∪ s) ∅

/-- The set of the listed characters. -/
def ofList (chars : List Char) : AsciiSet := ofCodes (chars.map Char.toNat)

/-- The code points from `first` to `last`, both included; none if `last` comes before `first`. -/
def codesBetween (first last : Nat) : List Nat := List.range' first (last + 1 - first)

/-- The set of the code points from `first` to `last`, both included. -/
def between (first last : Nat) : AsciiSet := ofCodes (codesBetween first last)

/-- Whether `c` is in the set. -/
def contains (s : AsciiSet) (c : Char) : Bool := s.bits.getLsbD c.toNat

/-! ### Membership -/

@[simp]
theorem contains_empty (c : Char) : (∅ : AsciiSet).contains c = false :=
  BitVec.getLsbD_zero

@[simp]
theorem contains_union (s t : AsciiSet) (c : Char) :
    (s ∪ t).contains c = (s.contains c || t.contains c) :=
  BitVec.getLsbD_or

/-- No set holds a character from beyond ASCII. -/
theorem contains_of_le (s : AsciiSet) {c : Char} (h : 128 ≤ c.toNat) : s.contains c = false :=
  BitVec.getLsbD_of_ge s.bits c.toNat h

theorem contains_singleton (code : Nat) (c : Char) :
    (singleton code).contains c = true ↔ c.toNat < 128 ∧ c.toNat = code := by
  simp only [contains, singleton, BitVec.getLsbD_shiftLeft, BitVec.getLsbD_one, Bool.and_eq_true,
    Bool.not_eq_true', decide_eq_true_eq, decide_eq_false_iff_not]
  omega

/-- Two sets that hold the same characters are the same. -/
theorem ext_contains {s t : AsciiSet} (h : ∀ c, s.contains c = t.contains c) : s = t := by
  have hbits : s.bits = t.bits := by
    refine BitVec.eq_of_getLsbD_eq fun code hcode => ?_
    have hascii : ∀ code < 128, (Char.ofNat code).toNat = code := by decide +kernel
    have hsame := h (Char.ofNat code)
    rwa [contains, contains, hascii code hcode] at hsame
  cases s
  cases t
  exact congrArg mk hbits

/-! ### Unions -/

theorem empty_union (s : AsciiSet) : ∅ ∪ s = s := congrArg mk BitVec.zero_or

theorem union_empty (s : AsciiSet) : s ∪ ∅ = s := congrArg mk BitVec.or_zero

theorem union_assoc (s t u : AsciiSet) : s ∪ t ∪ u = s ∪ (t ∪ u) :=
  congrArg mk (BitVec.or_assoc s.bits t.bits u.bits)

/-! ### Lists and intervals -/

theorem ofCodes_nil : ofCodes [] = ∅ := rfl

theorem ofCodes_cons (code : Nat) (codes : List Nat) :
    ofCodes (code :: codes) = singleton code ∪ ofCodes codes := rfl

/-- A listed set holds the listed code points below 128. -/
theorem contains_ofCodes (codes : List Nat) (c : Char) :
    (ofCodes codes).contains c = true ↔ c.toNat < 128 ∧ c.toNat ∈ codes := by
  induction codes with
  | nil => simp [ofCodes]
  | cons code rest ih =>
    rw [ofCodes_cons, contains_union, Bool.or_eq_true, contains_singleton, ih, List.mem_cons,
      and_or_left]

/-- A listed set holds the listed characters, if all of them are ASCII. -/
theorem contains_ofList {chars : List Char} (h : ∀ d ∈ chars, d.toNat < 128) (c : Char) :
    (ofList chars).contains c = true ↔ c ∈ chars := by
  rw [ofList, contains_ofCodes, List.mem_map]
  constructor
  · rintro ⟨-, d, hd, hcode⟩
    rwa [← Char.toNat_inj.1 hcode]
  · intro hc
    exact ⟨h c hc, c, hc, rfl⟩

/-- An interval that ends before it begins is empty. -/
theorem codesBetween_of_lt {first last : Nat} (h : last < first) : codesBetween first last = [] := by
  rw [codesBetween, Nat.sub_eq_zero_of_le h]
  rfl

/-- Any other interval goes on after its first code point. -/
theorem codesBetween_of_le {first last : Nat} (h : first ≤ last) :
    codesBetween first last = first :: codesBetween (first + 1) last := by
  have hlength : last + 1 - first = (last + 1 - (first + 1)) + 1 := by omega
  rw [codesBetween, codesBetween, hlength, List.range'_succ]

theorem mem_codesBetween {first last code : Nat} :
    code ∈ codesBetween first last ↔ first ≤ code ∧ code ≤ last := by
  rw [codesBetween, List.mem_range'_1]
  omega

/-- An interval holds the code points below 128 between its ends. -/
theorem contains_between (first last : Nat) (c : Char) :
    (between first last).contains c = true ↔
      c.toNat < 128 ∧ first ≤ c.toNat ∧ c.toNat ≤ last := by
  rw [between, contains_ofCodes, mem_codesBetween]

end AsciiSet

end SexprLexer
