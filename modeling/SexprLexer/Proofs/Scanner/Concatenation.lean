import SexprLexer.Proofs.Scanner.Composition

/-!
# Texts put together

To scan two texts that are put together is to scan each of them, and to move what the second one
holds behind the first. Only an identifier that goes on across the seam is one token instead of
two. Main statement: both laws, for the tokens and for the skipped characters
(`Scanner.drain_append`).
-/

namespace SexprLexer

/-! ### Identifiers at the ends of a text -/

/-- Where an identifier character is the last one, the text ends with a whole identifier. -/
theorem exists_run_at_end {text : List Char}
    (h : ∃ c ∈ text.getLast?, isIdentifierSubsequent c = true) :
    ∃ before run, text = before ++ run ∧ IsLexeme .identifier run [] ∧
      ∀ c ∈ before.getLast?, isIdentifierSubsequent c = false := by
  obtain ⟨c, hc, hsubsequent⟩ := h
  refine ⟨text.rdropWhile isIdentifierSubsequent, text.rtakeWhile isIdentifierSubsequent,
    List.rdropWhile_append_rtakeWhile.symm, .identifier ?_ ?_ not_goesOn_nil, ?_⟩
  · intro hnil
    have hne : text ≠ [] := by rintro rfl; cases hc
    have hlast := List.rtakeWhile_eq_nil_iff.1 hnil hne
    rw [List.getLast?_eq_some_getLast hne, Option.mem_def, Option.some.injEq] at hc
    rw [hc] at hlast
    exact hlast hsubsequent
  · intro d hd
    exact List.mem_rtakeWhile_imp hd
  · intro d hd
    have hne : text.rdropWhile isIdentifierSubsequent ≠ [] := by
      intro hnil
      rw [hnil] at hd
      cases hd
    have hlast := List.rdropWhile_last_not isIdentifierSubsequent text hne
    rw [List.getLast?_eq_some_getLast hne, Option.mem_def, Option.some.injEq] at hd
    rwa [hd, Bool.not_eq_true] at hlast

/-- Where an identifier character is the first one, the text begins with a whole identifier. -/
theorem exists_run_at_start {text : List Char} (h : GoesOn text) :
    ∃ run after, text = run ++ after ∧ IsLexeme .identifier run after := by
  obtain ⟨c, hc, hsubsequent⟩ := h
  cases text with
  | nil => cases hc
  | cons d text =>
    rw [List.head?_cons, Option.mem_def, Option.some.injEq] at hc
    subst hc
    have hlexeme := isLexeme_span (Token.Kind.begunBy?_eq_identifier_iff.2 hsubsequent) text
    refine ⟨_, _, ?_, hlexeme⟩
    rw [List.cons_append, Token.Kind.span_append]

/-- Two identifiers without anything between them are one. -/
theorem IsLexeme.identifier_append {first second rest : List Char}
    (h : IsLexeme .identifier first []) (h' : IsLexeme .identifier second rest) :
    IsLexeme .identifier (first ++ second) rest := by
  cases h with
  | identifier hne hrun hstop =>
    cases h' with
    | identifier hne' hrun' hstop' =>
      refine .identifier (List.append_ne_nil_of_left_ne_nil hne second) ?_ hstop'
      intro c hc
      rcases List.mem_append.1 hc with hc | hc
      · exact hrun c hc
      · exact hrun' c hc

namespace Scanner

/-- The tokens of two texts put together where an identifier goes on across the seam: the last token
of the first text and the first token of the second one are the beginning and the end of one
identifier. -/
theorem tokensIn_append_of_joins (filename : Option String) {text more : List Char}
    (h : Joins text more) :
    ∃ init last first later,
      tokensIn filename text = init ++ [last] ∧ tokensIn filename more = first :: later ∧
      tokensIn filename (text ++ more) =
        init ++ ⟨.identifier, last.lexeme ++ first.lexeme, last.location⟩ ::
          later.map (Token.relocate (.shift text)) := by
  obtain ⟨before, left, rfl, hleft, hbefore⟩ := exists_run_at_end h.1
  obtain ⟨right, after, rfl, hright⟩ := exists_run_at_start h.2
  have hboth := hleft.identifier_append hright
  -- Nothing goes on with what comes before the two identifiers, so both texts are cut there.
  have hcut : ∀ rest, ¬ Joins before rest := not_joins hbefore
  refine ⟨tokensIn filename before,
    ⟨.identifier, String.ofList left, (Location.start filename).shift before⟩,
    ⟨.identifier, String.ofList right, .start filename⟩,
    (tokensIn filename after).map (Token.relocate (.shift right)), ?_, ?_, ?_⟩
  · have hfirst := tokensIn_append filename (hcut left)
    rw [tokensIn_eq (Reading.of_isLexeme hleft filename)] at hfirst
    exact hfirst
  · exact tokensIn_lexeme_append hright filename
  · have hwhole : before ++ left ++ (right ++ after) = before ++ (left ++ right ++ after) := by
      rw [List.append_assoc, List.append_assoc]
    rw [hwhole, tokensIn_append filename (hcut _), tokensIn_lexeme_append hboth filename,
      List.map_cons, relocate_shift_shift, relocate_shift_shift, List.append_assoc,
      String.ofList_append]
    rfl

/-- The tokens of two texts put together are those of the first and, behind it, those of the second;
where an identifier goes on across the seam, its two parts are one token, which stands where its
first part does. The skipped characters are those of the first and, behind it, those of the second
in any case. -/
theorem drain_append (first second : String) (filename : Option String) :
    let tokens (source : String) := (ofString source filename).drain.1
    let skipped (source : String) := (ofString source filename).drain.2.skipped
    let shift := Location.shift first.toList
    (¬ Joins first.toList second.toList →
      tokens (first ++ second) = tokens first ++ (tokens second).map (Token.relocate shift)) ∧
    (Joins first.toList second.toList →
      ∃ init left right later, tokens first = init ++ [left] ∧ tokens second = right :: later ∧
        tokens (first ++ second) =
          init ++ ⟨.identifier, left.lexeme ++ right.lexeme, left.location⟩ ::
            later.map (Token.relocate shift)) ∧
    skipped (first ++ second) = skipped first ++ (skipped second).map (Skipped.relocate shift) ∧
    ∀ source, tokenize source = (ofString source none).drain.1 := by
  intro tokens skipped shift
  have htokens : ∀ source, tokens source = tokensIn filename source.toList :=
    fun source => (tokensIn_toList filename source).symm
  refine ⟨?_, ?_, ?_, fun _ => rfl⟩
  · intro h
    rw [htokens, htokens, htokens, String.toList_append]
    exact tokensIn_append filename h
  · intro h
    rw [htokens, htokens, htokens, String.toList_append]
    exact tokensIn_append_of_joins filename h
  · show (ofString _ _).drain.2.skipped = (ofString _ _).drain.2.skipped ++
      (ofString _ _).drain.2.skipped.map _
    rw [skipped_drain, skipped_drain, skipped_drain, String.toList_append, noise_append,
      List.nil_append, ← noise_shift, List.append_nil]

end Scanner

end SexprLexer
