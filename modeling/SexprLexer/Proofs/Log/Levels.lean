import SexprLexer.Log.Filter

/-!
# Filters that name a level

A written filter may be the name of a level and nothing else. Then this level decides for all parts
of the program, whatever was asked for before. Main statements: such a filter is understood
(`Filter.extend_of_named`) and admits what its level admits (`Filter.admits_of_named`); less is
admitted by a lower threshold (`Threshold.admits_mono`).
-/

namespace SexprLexer

/-- A text without blank characters stays as it is. -/
theorem Text.trim_eq_self {text : List Char} (h : ∀ c ∈ text, isBlank c = false) :
    trim text = text := by
  have hdrop : ∀ {text : List Char}, (∀ c ∈ text, isBlank c = false) →
      text.dropWhile isBlank = text := by
    intro text h
    cases text with
    | nil => rfl
    | cons c text => rw [List.dropWhile_cons_of_neg (by simp [h c])]
  unfold trim
  rw [hdrop h, hdrop fun c hc => h c (List.mem_reverse.1 hc), List.reverse_reverse]

namespace Log

namespace Threshold

/-- The place of a threshold in the order of how much is written. -/
def rank : Threshold → Nat
  | off => 0
  | upTo level => level.rank

/-- What a threshold admits a higher one admits too. -/
theorem admits_mono {t t' : Threshold} (h : t.rank ≤ t'.rank) {level : Level}
    (hlevel : t.admits level = true) : t'.admits level = true := by
  cases t with
  | off => cases hlevel
  | upTo least =>
    cases t' with
    | off =>
      have hpos : 0 < least.rank := by cases least <;> decide
      exact absurd h (Nat.not_le.2 hpos)
    | upTo least' =>
      simp only [admits, decide_eq_true_eq] at hlevel ⊢
      exact Nat.le_trans hlevel h

/-- A word that names a threshold is made of letters. -/
theorem isUpper_of_named {word : String} {t : Threshold} (h : named? word = some t) :
    ∀ c ∈ word.toList, c.toUpper.isUpper = true := by
  have hupper : ∀ {name : String}, (name.toList.all Char.isUpper) = true →
      String.ofList (word.toList.map Char.toUpper) = name →
      ∀ c ∈ word.toList, c.toUpper.isUpper = true := by
    rintro name hname rfl c hc
    rw [String.toList_ofList] at hname
    exact List.all_eq_true.1 hname _ (List.mem_map_of_mem hc)
  unfold named? at h
  split at h
  · next hword => exact hupper (by decide) hword
  · next hword => exact hupper (by decide) hword
  · next hword => exact hupper (by decide) hword
  · next hword => exact hupper (by decide) hword
  · next hword => exact hupper (by decide) hword
  · next hword => exact hupper (by decide) hword
  · cases h

/-- A letter is not blank. -/
theorem isBlank_of_isUpper {c : Char} (h : c.toUpper.isUpper = true) : Text.isBlank c = false := by
  have hcode : 65 ≤ c.toNat ∧ c.toNat < 123 := by
    by_cases hlower : 'a'.val ≤ c.val ∧ c.val ≤ 'z'.val
    · have hends := Text.le_val_and_val_le_iff.1 hlower
      exact ⟨Nat.le_trans (by decide) hends.1, Nat.lt_of_le_of_lt hends.2 (by decide)⟩
    · have hsame : c.toUpper = c := dif_neg hlower
      rw [hsame, Text.isUpper_iff] at h
      omega
  have htable : ∀ code < 123, 65 ≤ code → Text.inRanges code Text.blankRanges = false := by decide
  exact htable _ hcode.2 hcode.1

end Threshold

namespace Filter

variable {word : String} {t : Threshold}

/-- The name of a level is understood, and adds a threshold for all parts of the program. -/
theorem extend_of_named (h : Threshold.named? word = some t) (f : Filter) :
    f.extend word = ({ f with directives := f.directives ++ [⟨none, t⟩] }, []) := by
  -- The word is made of letters, so that no division of the text divides it.
  have hletters := Threshold.isUpper_of_named h
  have hsplit : ∀ {c : Char}, c.toUpper.isUpper = false →
      word.toList.splitOn c = [word.toList] := by
    intro c hc
    apply List.splitOn_eq_singleton
    intro hmem
    rw [hletters c hmem] at hc
    cases hc
  have htrim : Text.trim word.toList = word.toList :=
    Text.trim_eq_self fun c hc => Threshold.isBlank_of_isUpper (hletters c hc)
  have hne : word.toList.isEmpty = false := by
    cases hword : word.toList with
    | nil =>
      unfold Threshold.named? at h
      rw [hword] at h
      cases h
    | cons c text => rfl
  have hdirective : Directive.ofText word.toList = .ok ⟨none, t⟩ := by
    unfold Directive.ofText
    rw [hsplit (by decide)]
    simp only [String.ofList_toList, h]
  unfold extend
  rw [hsplit (by decide)]
  show f.addDirectives (word.toList.splitOn ',') = _
  rw [hsplit (by decide)]
  unfold addDirectives
  simp only [htrim, hne, hdirective]
  rfl

/-- Of two thresholds for all parts of the program the later one decides. -/
theorem admits_of_named (base t : Threshold) (r : Record) :
    Filter.admits ⟨[⟨none, base⟩, ⟨none, t⟩], none⟩ r = t.admits r.level := by
  simp [admits, thresholdOf, decisive?, Directive.covers, Directive.detail]

end Filter

end Log

end SexprLexer
