import SexprLexer.Proofs.Command.Arguments

/-!
# Arguments that take effect at once

An argument that is still open takes effect when the next one begins. It may as well take effect at
once, for no later word can tell the difference. Main statements: after its open argument has taken
effect a reading goes on as before (`Reading.readAs_of_close`, `Reading.finish_of_close`); where the
open argument cannot take effect, the next word is refused, whatever it is
(`Reading.refuses_readAs`, `Reading.refuses_finish`).
-/

namespace SexprLexer.Command

/-- A step of the reading ends with the refusal of the command line. -/
def Refuses {α : Type} (x : Except Stop α) : Prop := ∃ why, x = .error (.refused why)

theorem refuses_refuse (why : Refusal) : Refuses (Reading.refuse why) := ⟨why, rfl⟩

/-- After a refusal nothing else is done. -/
theorem Refuses.bind {α β : Type} {x : Except Stop α} (h : Refuses x) (f : α → Except Stop β) :
    Refuses (x >>= f) := by
  obtain ⟨why, rfl⟩ := h
  exact ⟨why, rfl⟩

/-- What is refused has no result. -/
theorem Refuses.ne_ok {α : Type} {x : Except Stop α} (h : Refuses x) (a : α) : x ≠ .ok a := by
  obtain ⟨why, rfl⟩ := h
  nofun

/-- A bundle of options holds at least one letter. -/
theorem Word.ofString_ne_short_nil (text : String) : ofString text ≠ .short [] := by
  unfold ofString
  split
  · simp
  · unfold ofLong
    split <;> simp
  · simp
  · simp

namespace Reading

variable {r r' c : Reading}

/-- Reads a word of which it is known what it looks like. -/
def readAs (r : Reading) : Word → Except Stop Reading
  | .separator => .ok { r with optionsEnded := true }
  | .long name value => r.readLong name value
  | .short letters => letters.foldlM readLetter r
  | .plain text => r.readPlain text

/-- Before the separator a word is read as what it looks like. -/
theorem readWord_eq_readAs (h : r.optionsEnded = false) (text : String) :
    r.readWord text = r.readAs (Word.ofString text) := by
  unfold readWord
  rw [if_neg (by simp [h])]
  rfl

/-- The same reading with another count of the requests for more of the log. -/
def withVerbosity (r : Reading) (n : Nat) : Reading := { r with verbosity := n }

/-! ### Settings that take effect -/

/-- A setting takes effect if it has not done so before. -/
theorem give_eq_ok_iff {setting : Setting} :
    r.give setting = .ok r' ↔
      setting ∉ r.given ∧ r' = { r with given := r.given ++ [setting] } := by
  unfold give
  by_cases h : setting ∈ r.given
  · simp [h, refuse]
  · simp [h, eq_comm]

/-- The choice of color takes effect if the word names one. -/
theorem giveColor_eq_ok_iff {word : String} :
    r.giveColor word = .ok r' ↔
      ∃ color, ColorChoice.named? word = some color ∧ .color ∉ r.given ∧
        r' = { r with given := r.given ++ [.color], color } := by
  unfold giveColor
  constructor
  · intro h
    obtain ⟨given, hgive, h⟩ := exists_of_bind h
    obtain ⟨hnot, rfl⟩ := give_eq_ok_iff.1 hgive
    split at h
    · cases h
    · split at h
      · cases h
      · next color hcolor =>
        cases h
        exact ⟨color, hcolor, hnot, rfl⟩
  · rintro ⟨color, hcolor, hnot, rfl⟩
    have hword : word ≠ "" := by
      rintro rfl
      cases hcolor
    rw [give_eq_ok_iff.2 ⟨hnot, rfl⟩]
    show (if word = "" then _ else _) = _
    rw [if_neg hword, hcolor]

/-- A source takes effect if it is not the empty word and there is none before. -/
theorem giveInput_eq_ok_iff {word : String} :
    r.giveInput word = .ok r' ↔
      word ≠ "" ∧ .input ∉ r.given ∧
        r' = { r with given := r.given ++ [.input], input := some word } := by
  unfold giveInput
  by_cases hword : word = ""
  · simp [hword, refuse]
  · rw [if_neg hword]
    constructor
    · intro h
      obtain ⟨given, hgive, h⟩ := exists_of_bind h
      obtain ⟨hnot, rfl⟩ := give_eq_ok_iff.1 hgive
      cases h
      exact ⟨hword, hnot, rfl⟩
    · rintro ⟨-, hnot, rfl⟩
      rw [give_eq_ok_iff.2 ⟨hnot, rfl⟩]
      rfl

/-! ### Readings without an open argument -/

/-- Without an open argument there is nothing to close. -/
theorem close_eq_self (h : r.openArgument = none) : r.close = .ok r := by
  obtain ⟨given, color, input, verbosity, openArgument, optionsEnded⟩ := r
  cases h
  rfl

/-- A closed reading has no open argument. -/
theorem openArgument_of_close (h : r.close = .ok c) : c.openArgument = none := by
  unfold close at h
  split at h
  · cases h
    rfl
  · cases h
  · obtain ⟨color, -, -, rfl⟩ := giveColor_eq_ok_iff.1 h
    rfl
  · obtain ⟨-, -, rfl⟩ := giveInput_eq_ok_iff.1 h
    rfl

/-- A reading with a source has it still when it is closed, and one without has none. -/
theorem hasInput_of_close (h : r.close = .ok c) : c.hasInput = r.hasInput := by
  unfold close at h
  unfold hasInput
  rw [openArgument_of_close h]
  split at h
  · next hopen =>
    cases h
    rw [hopen]
  · cases h
  · next hopen =>
    obtain ⟨color, -, -, rfl⟩ := giveColor_eq_ok_iff.1 h
    rw [hopen]
    simp
  · next hopen =>
    -- An open source counts already; closed, it is one of the settings.
    obtain ⟨-, -, rfl⟩ := giveInput_eq_ok_iff.1 h
    rw [hopen]
    simp

/-- The separator does not interfere with closing. -/
theorem close_ended (h : r.close = .ok c) :
    { r with optionsEnded := true }.close = .ok { c with optionsEnded := true } := by
  unfold close at h ⊢
  split at h
  · next hopen =>
    cases h
    simp only [hopen]
  · cases h
  · next hopen =>
    obtain ⟨color, hcolor, hnot, rfl⟩ := giveColor_eq_ok_iff.1 h
    simp only [hopen]
    exact giveColor_eq_ok_iff.2 ⟨color, hcolor, hnot, rfl⟩
  · next hopen =>
    obtain ⟨hword, hnot, rfl⟩ := giveInput_eq_ok_iff.1 h
    simp only [hopen]
    exact giveInput_eq_ok_iff.2 ⟨hword, hnot, rfl⟩

/-! ### Going on with a closed reading -/

/-- What begins with closing can be done with the closed reading as well. -/
theorem close_bind_of_close {α : Type} (h : r.close = .ok c) (f : Reading → Except Stop α) :
    (c.close >>= f) = (r.close >>= f) := by
  rw [h, close_eq_self (openArgument_of_close h)]

theorem apply_of_close (h : r.close = .ok c) (switch : Switch) :
    c.apply switch = r.apply switch :=
  close_bind_of_close h _

/-- A request for more of the log is counted. -/
theorem apply_verbose (h : r.openArgument = none) :
    r.apply .verbose = .ok (r.withVerbosity (min (r.verbosity + 1) mostVerbose)) := by
  unfold apply
  rw [close_eq_self h]
  rfl

theorem readLong_of_close (h : r.close = .ok c) (name : String) (value : Option String) :
    c.readLong name value = r.readLong name value := by
  unfold readLong
  split
  · rfl
  · exact apply_of_close h _
  · exact close_bind_of_close h _
  · rfl

theorem readLetter_of_close (h : r.close = .ok c) (letter : Char) :
    c.readLetter letter = r.readLetter letter := by
  unfold readLetter
  split
  · rfl
  · exact apply_of_close h _

theorem readLetters_of_close (h : r.close = .ok c) {letters : List Char} (hletters : letters ≠ []) :
    letters.foldlM readLetter c = letters.foldlM readLetter r := by
  obtain ⟨letter, letters, rfl⟩ := List.exists_cons_of_ne_nil hletters
  rw [List.foldlM_cons, List.foldlM_cons, readLetter_of_close h]

theorem readInput_of_close (h : r.close = .ok c) (word : String) :
    c.readInput word = r.readInput word := by
  unfold readInput
  rw [hasInput_of_close h, close_bind_of_close h]

theorem readPlain_of_close (h : r.close = .ok c) (text : String) :
    c.readPlain text = r.readPlain text := by
  have hplain : c.readPlain text = c.readInput text := by
    unfold readPlain
    rw [openArgument_of_close h]
  rw [hplain, readInput_of_close h]
  unfold readPlain
  split
  · next hopen =>
    -- A choice of color that waits for its value cannot be closed.
    unfold close at h
    rw [hopen] at h
    cases h
  · rfl

/-- A word that is not the separator is read in the same way after the open argument has taken
effect. -/
theorem readAs_of_close (h : r.close = .ok c) {word : Word} (hseparator : word ≠ .separator)
    (hletters : word ≠ .short []) : c.readAs word = r.readAs word := by
  cases word with
  | separator => exact absurd rfl hseparator
  | long name value => exact readLong_of_close h name value
  | short letters => exact readLetters_of_close h (by simpa using hletters)
  | plain text => exact readPlain_of_close h text

/-- A reading ends in the same way after the open argument has taken effect. -/
theorem finish_of_close (h : r.close = .ok c) : c.finish = r.finish := close_bind_of_close h _

/-! ### Arguments that cannot take effect -/

/-- Two steps succeed or the line is refused, if this is so for both of them. -/
theorem ok_or_refuses_bind {α β : Type} {x : Except Stop α} {f : α → Except Stop β}
    (h : (∃ a, x = .ok a) ∨ Refuses x) (hf : ∀ a, (∃ b, f a = .ok b) ∨ Refuses (f a)) :
    (∃ b, x >>= f = .ok b) ∨ Refuses (x >>= f) := by
  rcases h with ⟨a, rfl⟩ | h
  · exact hf a
  · exact .inr (h.bind f)

theorem give_ok_or_refuses (r : Reading) (setting : Setting) :
    (∃ r', r.give setting = .ok r') ∨ Refuses (r.give setting) := by
  unfold give
  split
  · exact .inr ⟨_, rfl⟩
  · exact .inl ⟨_, rfl⟩

theorem giveColor_ok_or_refuses (r : Reading) (word : String) :
    (∃ r', r.giveColor word = .ok r') ∨ Refuses (r.giveColor word) := by
  unfold giveColor
  refine ok_or_refuses_bind (give_ok_or_refuses r .color) fun r => ?_
  split
  · exact .inr ⟨_, rfl⟩
  · split
    · exact .inr ⟨_, rfl⟩
    · exact .inl ⟨_, rfl⟩

theorem giveInput_ok_or_refuses (r : Reading) (word : String) :
    (∃ r', r.giveInput word = .ok r') ∨ Refuses (r.giveInput word) := by
  unfold giveInput
  split
  · exact .inr ⟨_, rfl⟩
  · exact ok_or_refuses_bind (give_ok_or_refuses r .input) fun r => .inl ⟨_, rfl⟩

/-- An open argument takes effect or the line is refused. -/
theorem close_ok_or_refuses (r : Reading) : (∃ c, r.close = .ok c) ∨ Refuses r.close := by
  unfold close
  split
  · exact .inl ⟨_, rfl⟩
  · exact .inr ⟨_, rfl⟩
  · exact giveColor_ok_or_refuses _ _
  · exact giveInput_ok_or_refuses _ _

theorem refuses_apply (h : Refuses r.close) (switch : Switch) : Refuses (r.apply switch) := h.bind _

theorem refuses_readLong (h : Refuses r.close) (name : String) (value : Option String) :
    Refuses (r.readLong name value) := by
  unfold readLong
  split
  · exact refuses_refuse _
  · exact refuses_apply h _
  · exact h.bind _
  · exact refuses_refuse _

theorem refuses_readLetter (h : Refuses r.close) (letter : Char) :
    Refuses (r.readLetter letter) := by
  unfold readLetter
  split
  · exact refuses_refuse _
  · exact refuses_apply h _

theorem refuses_readInput (h : Refuses r.close) (word : String) : Refuses (r.readInput word) := by
  unfold readInput
  split
  · exact refuses_refuse _
  · exact h.bind _

theorem refuses_readLetters (h : Refuses r.close) {letters : List Char} (hletters : letters ≠ []) :
    Refuses (letters.foldlM readLetter r) := by
  obtain ⟨letter, letters, rfl⟩ := List.exists_cons_of_ne_nil hletters
  rw [List.foldlM_cons]
  exact (refuses_readLetter h letter).bind _

theorem refuses_readPlain (h : Refuses r.close) (hopen : r.openArgument ≠ some (.color none))
    (text : String) : Refuses (r.readPlain text) := by
  unfold readPlain
  split
  · next hwaits => exact absurd hwaits hopen
  · exact refuses_readInput h text

/-- Where the open argument cannot take effect, a word that is not the separator is refused, unless
the argument only waits for its value. -/
theorem refuses_readAs (h : Refuses r.close) (hopen : r.openArgument ≠ some (.color none))
    {word : Word} (hseparator : word ≠ .separator) (hletters : word ≠ .short []) :
    Refuses (r.readAs word) := by
  cases word with
  | separator => exact absurd rfl hseparator
  | long name value => exact refuses_readLong h name value
  | short letters => exact refuses_readLetters h (by simpa using hletters)
  | plain text => exact refuses_readPlain h hopen text

theorem refuses_finish (h : Refuses r.close) : Refuses r.finish := h.bind _

end Reading

end SexprLexer.Command
