import SexprLexer.Proofs.AsciiSet
import SexprLexer.Proofs.Lexemes

/-!
# Character classes, exactly

What the classes of the grammar hold, said of all characters and not of ASCII only. Main statement:
the sets that the classes are made of hold what they are said to hold, however operations on words
overflow, and with them the classes hold just the letters, digits and symbols of the grammar, and no
character is in two of them (`classes_hold_exactly`).
-/

namespace SexprLexer

/-! ### The sets of the grammar -/

/-- The set of letters holds the letters of ASCII. -/
theorem contains_letters (c : Char) : letters.contains c = c.isAlpha := by
  have halpha : c.isAlpha = true ↔ c.isUpper = true ∨ c.isLower = true := Bool.or_eq_true_iff
  have hends : 'a'.toNat = 0x61 ∧ 'z'.toNat = 0x7a ∧ 'A'.toNat = 0x41 ∧ 'Z'.toNat = 0x5a := by
    decide
  rw [Bool.eq_iff_iff, letters, AsciiSet.contains_union, Bool.or_eq_true,
    AsciiSet.contains_between, AsciiSet.contains_between, halpha, Text.isUpper_iff,
    Text.isLower_iff]
  omega

/-- The set of digits holds the digits of ASCII. -/
theorem contains_digits (c : Char) : digits.contains c = c.isDigit := by
  have hlast : '9'.toNat = 0x39 := by decide
  rw [Bool.eq_iff_iff, digits, AsciiSet.contains_between, Char.isDigit_iff_toNat]
  omega

/-- An identifier begins with a letter or one of fourteen symbols. -/
theorem isIdentifierInitial_iff (c : Char) :
    isIdentifierInitial c = true ↔ c.isAlpha = true ∨
      c ∈ ['!', '$', '%', '&', '*', '/', ':', '<', '=', '>', '?', '~', '_', '^'] := by
  rw [isIdentifierInitial, identifierInitials, AsciiSet.contains_union, Bool.or_eq_true,
    contains_letters, initialSymbols, AsciiSet.contains_ofList (by simp)]

/-- An identifier goes on with what it may begin with, a digit or one of three symbols. -/
theorem isIdentifierSubsequent_iff (c : Char) :
    isIdentifierSubsequent c = true ↔
      isIdentifierInitial c = true ∨ c.isDigit = true ∨ c ∈ ['.', '+', '-'] := by
  rw [isIdentifierSubsequent, identifierSubsequents, AsciiSet.contains_union,
    AsciiSet.contains_union, Bool.or_eq_true, Bool.or_eq_true, contains_digits, subsequentSymbols,
    AsciiSet.contains_ofList (by simp), isIdentifierInitial, or_assoc]

/-- No character is in two of the classes that a scan tells apart. -/
theorem pairwise_disjoint_classes :
    [isLeftParen, isRightParen, isIdentifierSubsequent, Text.isBlank].Pairwise
      fun p q => ∀ c, ¬ (p c = true ∧ q c = true) := by
  -- The class of a parenthesis is apart from any class that this parenthesis is not in.
  have hparen : ∀ (paren : Char) (q : Char → Bool), q paren = false →
      ∀ c, ¬ ((c == paren) = true ∧ q c = true) := by
    rintro paren q hq c ⟨hc, hother⟩
    rw [beq_iff_eq.1 hc, hq] at hother
    cases hother
  have hidentifier : ∀ c, ¬ (isIdentifierSubsequent c = true ∧ Text.isBlank c = true) := by
    rintro c ⟨hc, hother⟩
    have htoken : isTokenCharacter c = true := by rw [isTokenCharacter, hc, Bool.or_true]
    rw [isBlank_eq_false htoken] at hother
    cases hother
  have hleft := hparen '('
  have hright := hparen ')'
  simp only [List.pairwise_cons, List.forall_mem_cons, List.not_mem_nil, false_implies,
    implies_true, List.Pairwise.nil, and_true]
  exact ⟨⟨hleft isRightParen (by decide), hleft isIdentifierSubsequent (by decide),
    hleft Text.isBlank (by decide)⟩, ⟨hright isIdentifierSubsequent (by decide),
    hright Text.isBlank (by decide)⟩, hidentifier⟩

/-! ### Sets and classes -/

/-- However operations on words overflow, all this holds. A set is read within their range, for any
character. Listed code points below 128 make a set within the range, which holds the listed
characters, in whatever order and however often they are listed. A walk through an interval that
ends below 128 comes to its end, shifts by less than 128 only, and makes the set of the characters
of the interval. A union holds what either side holds, and no set holds a character from beyond
ASCII. So identifiers begin with the letters of ASCII and fourteen symbols, and go on with these,
the digits of ASCII and three more symbols; and no character is in two of the classes that a scan
tells apart. -/
theorem classes_hold_exactly (overflow : Overflow) :
    (∀ s c, overflow.contains? s c = some (s.contains c)) ∧
    (∀ codes : List UInt8, (∀ code ∈ codes, code < 128) →
      ∃ s, overflow.insertAll? codes = some s ∧
        s = .ofCodes (codes.map UInt8.toNat) ∧
        (∀ c, s.contains c = true ↔ ∃ code ∈ codes, code.toNat = c.toNat) ∧
        ∀ others : List UInt8, (∀ code, code ∈ others ↔ code ∈ codes) →
          overflow.insertAll? others = some s) ∧
    (∀ first last : UInt8, last ≤ 127 →
      ∃ amounts s, Sweep.Ends overflow last ⟨∅, first⟩ amounts s ∧
        s = .between first.toNat last.toNat ∧ (∀ amount ∈ amounts, amount < 128) ∧
        ∀ c, s.contains c = true ↔ first.toNat ≤ c.toNat ∧ c.toNat ≤ last.toNat) ∧
    (∀ (s t : AsciiSet) (c : Char),
      (s ∪ t).contains c = true ↔ s.contains c = true ∨ t.contains c = true) ∧
    (∀ (s : AsciiSet) (c : Char), 128 ≤ c.toNat → s.contains c = false) ∧
    (∀ c, isIdentifierInitial c = true ↔ c.isAlpha = true ∨
      c ∈ ['!', '$', '%', '&', '*', '/', ':', '<', '=', '>', '?', '~', '_', '^']) ∧
    (∀ c, isIdentifierSubsequent c = true ↔
      isIdentifierInitial c = true ∨ c.isDigit = true ∨ c ∈ ['.', '+', '-']) ∧
    [isLeftParen, isRightParen, isIdentifierSubsequent, Text.isBlank].Pairwise
      fun p q => ∀ c, ¬ (p c = true ∧ q c = true) := by
  refine ⟨overflow.contains?_eq, ?_, ?_, ?_, fun s c => s.contains_of_le, isIdentifierInitial_iff,
    isIdentifierSubsequent_iff, pairwise_disjoint_classes⟩
  · intro codes hcodes
    have hall := overflow.insertAll?_eq hcodes
    refine ⟨_, hall, rfl, fun c => ?_, fun others hsame => ?_⟩
    · rw [AsciiSet.contains_ofCodes, List.mem_map]
      refine and_iff_right_of_imp ?_
      rintro ⟨code, hcode, hsame⟩
      exact hsame ▸ UInt8.lt_iff_toNat_lt.1 (hcodes code hcode)
    · rw [overflow.insertAll?_congr hcodes hsame, hall]
  · intro first last hlast
    have hlast' : last.toNat ≤ 127 := UInt8.le_iff_toNat_le.1 hlast
    have hends := Sweep.ends_codesBetween overflow hlast ∅ first
    rw [AsciiSet.empty_union] at hends
    refine ⟨_, _, hends, rfl, fun amount hamount => ?_, fun c => ?_⟩
    · have hle := (AsciiSet.mem_codesBetween.1 hamount).2
      omega
    · rw [AsciiSet.contains_between]
      omega
  · intro s t c
    rw [AsciiSet.contains_union, Bool.or_eq_true]

/-- A list with a repeated code point, an interval up to the last code point that has a bit, and a
character whose code point is 128 more than that of `-`, where shifts are taken modulo 128. -/
theorem classes_hold_exactly_soft_hyphen :
    (∀ code ∈ [45, 127, (45 : UInt8)], code < 128) ∧
    (∀ code, code ∈ [127, (45 : UInt8)] ↔ code ∈ [45, 127, (45 : UInt8)]) ∧
    (127 : UInt8) ≤ 127 ∧ 128 ≤ '\u00ad'.toNat ∧ isTokenCharacter '\u00ad' = false ∧
    (∃ s, Overflow.wrapped.insertAll? [45, 127, 45] = some s ∧
      Overflow.wrapped.insertAll? [127, 45] = some s ∧
      Overflow.wrapped.contains? s '-' = some true ∧
      Overflow.wrapped.contains? s '\u00ad' = some false) ∧
    ∃ amounts s, Sweep.Ends .wrapped 127 ⟨∅, 126⟩ amounts s ∧
      s.contains '~' = true ∧ s.contains '\u007f' = true ∧ s.contains '|' = false := by
  obtain ⟨hread, hlists, hintervals, -, hbeyond, -⟩ := classes_hold_exactly .wrapped
  have hcodes : ∀ code ∈ [45, 127, (45 : UInt8)], code < 128 := by simp
  have hsame : ∀ code, code ∈ [127, (45 : UInt8)] ↔ code ∈ [45, 127, (45 : UInt8)] := by
    intro code
    simp only [List.mem_cons, List.not_mem_nil, or_false]
    grind
  obtain ⟨s, hall, -, hmem, hothers⟩ := hlists [45, 127, 45] hcodes
  obtain ⟨amounts, t, hends, -, -, hbetween⟩ := hintervals 126 127 (by decide)
  have hhyphen : 128 ≤ '\u00ad'.toNat := by decide
  refine ⟨hcodes, hsame, by decide, hhyphen, by decide +kernel, ⟨s, hall, hothers _ hsame, ?_, ?_⟩,
    amounts, t, hends, ?_, ?_, ?_⟩
  · rw [hread, (hmem '-').2 ⟨45, by decide⟩]
  · rw [hread, hbeyond s _ hhyphen]
  · exact (hbetween '~').2 (by decide)
  · exact (hbetween '\u007f').2 (by decide)
  · rw [← Bool.not_eq_true, hbetween]
    decide

end SexprLexer
