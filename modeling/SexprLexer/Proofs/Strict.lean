import SexprLexer.Proofs.Scanner.Composition

/-!
# Strict tokenizing

A source is refused exactly if it holds noise, and the error is about the first character of its
noise. Main statement: which sources are accepted, with which tokens, and with which error all
others are refused (`tokenizeStrict_iff`).
-/

namespace SexprLexer

/-- A character is no noise if it is of one of the four classes that a source may hold. -/
theorem isNoise_eq_false_iff {c : Char} :
    isNoise c = false ↔
      c = '(' ∨ c = ')' ∨ isIdentifierSubsequent c = true ∨ Text.isBlank c = true := by
  rw [isNoise, isTokenCharacter, isLeftParen, isRightParen, Bool.and_eq_false_iff,
    Bool.not_eq_false', Bool.not_eq_false', Bool.or_eq_true, Bool.or_eq_true, beq_iff_eq,
    beq_iff_eq, or_assoc, or_assoc]

/-- Either a text has no noise, or its noise has a first character. -/
theorem exists_first_noise (text : List Char) :
    (∀ c ∈ text, isNoise c = false) ∨
      ∃ before c after, text = before ++ c :: after ∧ (∀ d ∈ before, isNoise d = false) ∧
        isNoise c = true := by
  cases hnoise : text.filter isNoise with
  | nil =>
    refine .inl fun c hc => ?_
    rw [← Bool.not_eq_true]
    exact List.filter_eq_nil_iff.1 hnoise c hc
  | cons c later =>
    obtain ⟨before, after, htext, hbefore, hc, -⟩ := List.filter_eq_cons_iff.1 hnoise
    refine .inr ⟨before, c, after, htext, fun d hd => ?_, hc⟩
    rw [← Bool.not_eq_true]
    exact hbefore d hd

variable {source : String}

/-- A source without noise is accepted. -/
theorem tokenizeStrict_of_clean (h : ∀ c ∈ source.toList, isNoise c = false)
    (filename : Option String) :
    tokenizeStrict source filename =
      .ok ((tokenize source).map (Token.relocate (.named filename))) := by
  have hskipped := Scanner.skipped_drain source filename
  rw [noise_eq_nil h] at hskipped
  have htokens : (Scanner.ofString source filename).drain.1 =
      (tokenize source).map (Token.relocate (.named filename)) := by
    rw [← Scanner.tokensIn_toList, Scanner.tokensIn_named, Scanner.tokensIn_toList]
    rfl
  rw [tokenizeStrict]
  simp only [hskipped, htokens]

/-- A source with noise is refused because of the first character of its noise. -/
theorem tokenizeStrict_of_noise {before after : List Char} {c : Char}
    (hsource : source.toList = before ++ c :: after) (hbefore : ∀ d ∈ before, isNoise d = false)
    (hc : isNoise c = true) (filename : Option String) :
    tokenizeStrict source filename =
      .error (.unexpectedCharacter c (.afterText filename before)) := by
  have hskipped := Scanner.skipped_drain source filename
  rw [hsource, noise_append, noise_eq_nil hbefore, List.nil_append, List.nil_append, noise,
    if_pos hc] at hskipped
  rw [tokenizeStrict]
  simp only [hskipped]
  rfl

/-- A source is refused because of the first record of its noise. -/
theorem tokenizeStrict_of_noise_eq_cons {filename : Option String} {first : Skipped}
    {later : List Skipped} (h : noise filename [] source.toList = first :: later) :
    tokenizeStrict source filename = .error first.toError := by
  rw [← Scanner.skipped_drain] at h
  rw [tokenizeStrict]
  simp only [h]

/-- A source is refused exactly if it has noise. -/
theorem exists_tokenizeStrict_eq_error_iff {filename : Option String} :
    (∃ e, tokenizeStrict source filename = .error e) ↔ noise filename [] source.toList ≠ [] := by
  cases h : noise filename [] source.toList with
  | nil =>
    rw [← Scanner.skipped_drain] at h
    rw [tokenizeStrict]
    simp [h]
  | cons first later => simp [tokenizeStrict_of_noise_eq_cons h]

/-- Exactly the sources without noise are accepted. -/
theorem tokenizeStrict_eq_ok_iff {filename : Option String} {tokens : List Token} :
    tokenizeStrict source filename = .ok tokens ↔
      (∀ c ∈ source.toList, isNoise c = false) ∧
        tokens = (tokenize source).map (Token.relocate (.named filename)) := by
  constructor
  · intro h
    rcases exists_first_noise source.toList with hclean | ⟨before, c, after, hsource, hbefore, hc⟩
    · rw [tokenizeStrict_of_clean hclean, Except.ok.injEq] at h
      exact ⟨hclean, h.symm⟩
    · rw [tokenizeStrict_of_noise hsource hbefore hc] at h
      cases h
  · rintro ⟨hclean, rfl⟩
    exact tokenizeStrict_of_clean hclean filename

/-- Every error is about the first character of the noise of the source. -/
theorem tokenizeStrict_eq_error_iff {filename : Option String} {e : LexError} :
    tokenizeStrict source filename = .error e ↔
      ∃ before c after, source.toList = before ++ c :: after ∧
        (∀ d ∈ before, isNoise d = false) ∧ isNoise c = true ∧
        e = .unexpectedCharacter c (.afterText filename before) := by
  constructor
  · intro h
    rcases exists_first_noise source.toList with hclean | ⟨before, c, after, hsource, hbefore, hc⟩
    · rw [tokenizeStrict_of_clean hclean] at h
      cases h
    · rw [tokenizeStrict_of_noise hsource hbefore hc, Except.error.injEq] at h
      exact ⟨before, c, after, hsource, hbefore, hc, h.symm⟩
  · rintro ⟨before, c, after, hsource, hbefore, hc, rfl⟩
    exact tokenizeStrict_of_noise hsource hbefore hc filename

/-- Strict tokenizing accepts exactly the sources in which every character is a parenthesis, an
identifier character or blank, and gives their tokens, with the name of the source in each location.
It refuses any other source because of its first character of none of these classes, at the place
that the text before this character determines. It never fails to read. -/
theorem tokenizeStrict_iff (source : String) (filename : Option String) :
    let allowed (c : Char) : Prop :=
      c = '(' ∨ c = ')' ∨ isIdentifierSubsequent c = true ∨ Text.isBlank c = true
    (∀ tokens, tokenizeStrict source filename = .ok tokens ↔
      (∀ c ∈ source.toList, allowed c) ∧
        tokens = (tokenize source).map fun t =>
          { t with location := { t.location with filename := filename } }) ∧
    (∀ e, tokenizeStrict source filename = .error e ↔
      ∃ before c after, source.toList = before ++ c :: after ∧ (∀ d ∈ before, allowed d) ∧
        ¬ allowed c ∧
        e = .unexpectedCharacter c
          ⟨Text.lineAfter before, Text.columnAfter before, Text.byteSize before, filename⟩) ∧
    ∀ path message, tokenizeStrict source filename ≠ .error (.unreadable path message) := by
  intro allowed
  have hallowed : ∀ c, allowed c ↔ isNoise c = false := fun c => isNoise_eq_false_iff.symm
  simp only [hallowed, Bool.not_eq_false]
  refine ⟨fun tokens => tokenizeStrict_eq_ok_iff, fun e => tokenizeStrict_eq_error_iff, ?_⟩
  intro path message h
  obtain ⟨before, c, after, -, -, -, he⟩ := tokenizeStrict_eq_error_iff.1 h
  cases he

end SexprLexer
