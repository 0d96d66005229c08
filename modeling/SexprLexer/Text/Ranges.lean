/-!
# Tables of code points

A property of characters that no formula gives is a table: closed ranges of code points, apart
from each other and in increasing order. The search stops at the first range that lies beyond the
code point. The letters of ASCII are two such ranges.
-/

namespace SexprLexer.Text

/-- Whether `code` lies in one of the closed ranges of an increasing table. -/
def inRanges (code : Nat) : List (Nat × Nat) → Bool
  | [] => false
  | (first, last) :: rest =>
    if code < first then false else decide (code ≤ last) || inRanges code rest

/-! ### The letters of ASCII -/

/-- A character lies between two words just if its code point lies between their values. -/
theorem le_val_and_val_le_iff {first last : UInt32} {c : Char} :
    first ≤ c.val ∧ c.val ≤ last ↔ first.toNat ≤ c.toNat ∧ c.toNat ≤ last.toNat := by
  rw [UInt32.le_iff_toNat_le, UInt32.le_iff_toNat_le]
  rfl

theorem isUpper_iff {c : Char} : c.isUpper = true ↔ 0x41 ≤ c.toNat ∧ c.toNat ≤ 0x5a := by
  show decide ('A'.val ≤ c.val ∧ c.val ≤ 'Z'.val) = true ↔ _
  rw [decide_eq_true_eq, le_val_and_val_le_iff]
  rfl

theorem isLower_iff {c : Char} : c.isLower = true ↔ 0x61 ≤ c.toNat ∧ c.toNat ≤ 0x7a := by
  show (decide ('a'.val ≤ c.val) && decide (c.val ≤ 'z'.val)) = true ↔ _
  rw [Bool.and_eq_true, decide_eq_true_eq, decide_eq_true_eq, le_val_and_val_le_iff]
  rfl

end SexprLexer.Text
