import Mathlib.Data.List.Sort
import SexprLexer.Proofs.Scanner.Grammar

/-!
# Readings of texts put together

A reading of a text is what a scan of it gives, whichever way the reading was come by. So the
tokens of a text that is put together from others can be told from readings of its parts. Main
statements: a reading of a whole text holds the tokens of this text (`Scanner.tokensIn_eq`); two
readings make one where no identifier goes on across the seam (`Reading.append`), so that the
tokens of the second text come after those of the first, moved behind it
(`Scanner.tokensIn_append`); the name of a source shows in the locations only
(`Scanner.tokensIn_named`).
-/

namespace SexprLexer

/-! ### Findings at other places -/

/-- The same token at another place, which depends on its own. -/
def Token.relocate (move : Location → Location) (t : Token) : Token :=
  { t with location := move t.location }

/-- The same skipped character at another place, which depends on its own. -/
def Skipped.relocate (move : Location → Location) (s : Skipped) : Skipped :=
  { s with location := move s.location }

/-- The same place in a source of another name. -/
def Location.named (filename : Option String) (here : Location) : Location := { here with filename }

namespace Finding

/-- The same finding at another place, which depends on its own. -/
def relocate (move : Location → Location) : Finding → Finding
  | token t => token (t.relocate move)
  | skipped s => skipped (s.relocate move)

theorem tokens_map_relocate (move : Location → Location) (found : List Finding) :
    tokens (found.map (relocate move)) = (tokens found).map (Token.relocate move) := by
  induction found with
  | nil => rfl
  | cons f found ih =>
    cases f with
    | token t => exact congrArg (t.relocate move :: ·) ih
    | skipped s => exact ih

end Finding

/-! ### Seams -/

/-- Whether an identifier goes on from the end of one text to the beginning of another. -/
def Joins (text more : List Char) : Prop :=
  (∃ c ∈ text.getLast?, isIdentifierSubsequent c = true) ∧ GoesOn more

/-- No identifier goes on where none is open. -/
theorem not_joins {text : List Char} (h : ∀ c ∈ text.getLast?, isIdentifierSubsequent c = false)
    (more : List Char) : ¬ Joins text more := by
  rintro ⟨⟨c, hc, hsubsequent⟩, -⟩
  rw [h c hc] at hsubsequent
  cases hsubsequent

/-- Only the end of the first text matters. -/
theorem Joins.append_left {text more : List Char} (h : Joins text more) (before : List Char) :
    Joins (before ++ text) more := by
  obtain ⟨⟨c, hc, hsubsequent⟩, hmore⟩ := h
  refine ⟨⟨c, ?_, hsubsequent⟩, hmore⟩
  rw [Option.mem_def] at hc ⊢
  rw [List.getLast?_append, hc, Option.some_or]

/-- A lexeme ends where it did if more text is put behind the text, unless an identifier goes on
there. -/
theorem IsLexeme.append {kind : Token.Kind} {lexeme rest more : List Char}
    (h : IsLexeme kind lexeme rest) (hseam : ¬ Joins (lexeme ++ rest) more) :
    IsLexeme kind lexeme (rest ++ more) := by
  cases h with
  | leftParen rest => exact .leftParen _
  | rightParen rest => exact .rightParen _
  | identifier hne hrun hstop =>
    refine .identifier hne hrun ?_
    cases rest with
    | nil =>
      intro hmore
      refine hseam ⟨⟨lexeme.getLast hne, ?_, hrun _ (List.getLast_mem hne)⟩, hmore⟩
      rw [List.append_nil, List.getLast?_eq_some_getLast hne]
      rfl
    | cons c rest => exact hstop

/-- No identifier goes on from a lexeme to what comes after it. -/
theorem IsLexeme.not_joins {kind : Token.Kind} {lexeme rest : List Char}
    (h : IsLexeme kind lexeme rest) : ¬ Joins lexeme rest := by
  rintro ⟨⟨c, hc, hsubsequent⟩, hgoesOn⟩
  exact h.not_goesOn c (List.mem_of_getLast? hc) hsubsequent hgoesOn

namespace Reading

variable {filename : Option String} {read rest text more : List Char} {found : List Finding}

/-- What is found stays the same if more text is put behind the text, unless an identifier goes on
there. -/
theorem extend (h : Reading filename read found rest) (hseam : ¬ Joins (read ++ rest) more) :
    Reading filename read found (rest ++ more) := by
  induction h with
  | start source => exact .start _
  | blank h hc hblank ih =>
    rw [List.append_assoc] at hseam
    exact .blank (ih hseam) hc hblank
  | @finding read rest found f h hf ih =>
    rw [List.append_assoc] at hseam
    refine .finding ?_ ⟨hf.1, ?_⟩
    · rw [← List.append_assoc]
      exact ih hseam
    · cases f with
      | token t =>
        exact ⟨hf.2.1.append fun hjoins => hseam (hjoins.append_left read), hf.2.2⟩
      | skipped s => exact hf.2

/-- A lexeme that is all of a text is its only token. -/
theorem of_isLexeme {kind : Token.Kind} (h : IsLexeme kind text []) (filename : Option String) :
    Reading filename text [.token ⟨kind, String.ofList text, .start filename⟩] [] :=
  Reading.lexeme (.start _) h

/-- A reading of a text can come behind another one that leaves this text. What it finds moves with
its places. -/
theorem behind {filename' : Option String} {before : List Char} {earlier : List Finding}
    {move : Location → Location}
    (hmove : ∀ text, move (.afterText filename text) = .afterText filename' (before ++ text))
    (hearlier : Reading filename' before earlier (read ++ rest))
    (h : Reading filename read found rest) :
    Reading filename' (before ++ read) (earlier ++ found.map (Finding.relocate move)) rest := by
  -- Each step of the later reading is one of the whole, since `hmove` says where its text is read.
  induction h with
  | start source =>
    rw [List.append_nil, List.map_nil, List.append_nil]
    exact hearlier
  | blank h hc hblank ih =>
    rw [List.append_assoc] at hearlier
    rw [← List.append_assoc]
    exact .blank (ih hearlier) hc hblank
  | @finding read rest found f h hf ih =>
    rw [List.append_assoc] at hearlier
    have hread := ih hearlier
    rw [List.map_append, ← List.append_assoc, ← List.append_assoc]
    cases f with
    | token t =>
      have hlexeme : String.ofList (Finding.token t).text = t.lexeme := String.ofList_toList
      have hnext := hread.lexeme hf.2.1
      rw [hlexeme, ← hmove, ← show t.location = _ from hf.1] at hnext
      exact hnext
    | skipped s =>
      refine .finding (f := .skipped (s.relocate move)) hread ⟨?_, hf.2⟩
      rw [← hmove, ← show s.location = _ from hf.1]
      rfl

/-- Two readings make one where no identifier goes on across the seam. -/
theorem append {later : List Finding} (h : Reading filename read found [])
    (h' : Reading filename more later []) (hseam : ¬ Joins read more) :
    Reading filename (read ++ more) (found ++ later.map (Finding.relocate (.shift read))) [] := by
  refine Reading.behind (Location.shift_afterText filename read) ?_ h'
  rw [List.append_nil]
  exact h.extend (by rwa [List.append_nil])

/-- The grammar decides which tokens a reading of a whole text holds. -/
theorem mem_tokens_of_mem {found' : List Finding} (h : Reading filename text found [])
    (h' : Reading filename text found' []) {t : Token} (ht : t ∈ Finding.tokens found) :
    t ∈ Finding.tokens found' := by
  have hoccurs := h.occurs_of_mem ht
  rw [List.append_nil] at hoccurs
  obtain ⟨t', ht', hkind, hlexeme, hoffset⟩ := h'.exists_mem_of_occurs hoccurs
  have hlocation : t'.location = t.location :=
    (h'.standsIn _ (Finding.mem_tokens.1 ht')).location_unique
      (h.standsIn _ (Finding.mem_tokens.1 ht)) hoffset
  have hsame : t' = t := by
    obtain ⟨kind, lexeme, location⟩ := t
    obtain ⟨kind', lexeme', location'⟩ := t'
    rw [Token.mk.injEq]
    exact ⟨hkind, String.toList_inj.1 hlexeme, hlocation⟩
  rwa [← hsame]

/-- All readings of a whole text hold the same tokens. -/
theorem tokens_unique {found' : List Finding} (h : Reading filename text found [])
    (h' : Reading filename text found' []) : Finding.tokens found = Finding.tokens found' := by
  let comesBefore (t t' : Token) : Prop := t.location.offset < t'.location.offset
  have hirrefl : Std.Irrefl comesBefore := ⟨fun t => Nat.lt_irrefl t.location.offset⟩
  have hantisymm : Std.Antisymm comesBefore :=
    ⟨fun _ _ hlt hgt => absurd hlt (Nat.lt_asymm hgt)⟩
  exact h.pairwise_tokens.eq_of_mem_iff h'.pairwise_tokens fun t =>
    ⟨h.mem_tokens_of_mem h', h'.mem_tokens_of_mem h⟩

end Reading

/-- The noise of a text that is put behind another one moves with its places. -/
theorem noise_shift (filename : Option String) (before text more : List Char) :
    noise filename (before ++ text) more =
      (noise filename text more).map (Skipped.relocate (.shift before)) := by
  induction more generalizing text with
  | nil => rfl
  | cons c more ih =>
    rw [noise, noise, List.append_assoc, ih]
    split
    · rw [List.map_cons, Skipped.relocate, Location.shift_afterText]
    · rfl

namespace Scanner

variable {filename : Option String} {text more : List Char}

/-- The tokens of a text that is read from its beginning as the source called `filename`. -/
def tokensIn (filename : Option String) (text : List Char) : List Token :=
  (ofString (String.ofList text) filename).drain.1

theorem tokensIn_toList (filename : Option String) (source : String) :
    tokensIn filename source.toList = (ofString source filename).drain.1 := by
  rw [tokensIn, String.ofList_toList]

theorem exists_reading (filename : Option String) (text : List Char) :
    ∃ found, Reading filename text found [] ∧ tokensIn filename text = Finding.tokens found := by
  obtain ⟨found, hreading, htokens⟩ := exists_reading_drain (String.ofList text) filename
  rw [String.toList_ofList] at hreading
  exact ⟨found, hreading, htokens.symm⟩

/-- Any reading of a whole text holds the tokens of this text. -/
theorem tokensIn_eq {found : List Finding} (h : Reading filename text found []) :
    tokensIn filename text = Finding.tokens found := by
  obtain ⟨found', hreading, htokens⟩ := exists_reading filename text
  rw [htokens, hreading.tokens_unique h]

/-- Where no character belongs to a token there is no token. -/
theorem tokensIn_eq_nil (h : ∀ c ∈ text, isTokenCharacter c = false)
    (filename : Option String) : tokensIn filename text = [] := by
  obtain ⟨found, hreading, htokens⟩ := exists_reading filename text
  rw [htokens, List.eq_nil_iff_forall_not_mem]
  intro t ht
  obtain ⟨before, after, htext, hstands⟩ := hreading.standsIn _ (Finding.mem_tokens.1 ht)
  obtain ⟨c, further, hlexeme, -, -⟩ := hstands.2.1.exists_span
  have hc : c ∈ t.lexeme.toList := by rw [hlexeme]; exact List.mem_cons_self
  have hmem : c ∈ text := by
    rw [List.append_nil] at htext
    rw [htext, Finding.text]
    exact List.mem_append_left _ (List.mem_append_right _ hc)
  have htoken := hstands.2.1.isTokenCharacter_of_mem c hc
  rw [h c hmem] at htoken
  cases htoken

/-- The tokens of two texts put together are those of both, if no identifier goes on across the
seam. -/
theorem tokensIn_append (filename : Option String) (h : ¬ Joins text more) :
    tokensIn filename (text ++ more) =
      tokensIn filename text ++ (tokensIn filename more).map (Token.relocate (.shift text)) := by
  obtain ⟨found, hreading, htokens⟩ := exists_reading filename text
  obtain ⟨later, hreading', htokens'⟩ := exists_reading filename more
  rw [tokensIn_eq (hreading.append hreading' h), htokens, htokens', Finding.tokens_append,
    Finding.tokens_map_relocate]

/-- A lexeme at the beginning of a text is its first token. -/
theorem tokensIn_lexeme_append {kind : Token.Kind} {lexeme rest : List Char}
    (h : IsLexeme kind lexeme rest) (filename : Option String) :
    tokensIn filename (lexeme ++ rest) =
      ⟨kind, String.ofList lexeme, .start filename⟩ ::
        (tokensIn filename rest).map (Token.relocate (.shift lexeme)) := by
  rw [tokensIn_append filename h.not_joins, tokensIn_eq (Reading.of_isLexeme h.alone filename)]
  rfl

/-- The name of the source shows in the locations of the tokens only. -/
theorem tokensIn_named (filename : Option String) (text : List Char) :
    tokensIn filename text = (tokensIn none text).map (Token.relocate (.named filename)) := by
  obtain ⟨found, hreading, htokens⟩ := exists_reading none text
  have hnamed : Reading filename ([] ++ text)
      ([] ++ found.map (Finding.relocate (.named filename))) [] :=
    Reading.behind (fun _ => rfl) (.start _) hreading
  rw [List.nil_append, List.nil_append] at hnamed
  rw [tokensIn_eq hnamed, htokens, Finding.tokens_map_relocate]

/-- A text that is put behind another one, and both behind a third one. -/
theorem relocate_shift_shift (filename : Option String) (before text more : List Char) :
    ((tokensIn filename more).map (Token.relocate (.shift text))).map
        (Token.relocate (.shift before)) =
      (tokensIn filename more).map (Token.relocate (.shift (before ++ text))) := by
  obtain ⟨found, hreading, htokens⟩ := exists_reading filename more
  rw [htokens, List.map_map]
  apply List.map_congr_left
  intro t ht
  obtain ⟨read, after, -, hplace, -⟩ := hreading.standsIn _ (Finding.mem_tokens.1 ht)
  rw [Function.comp_apply, Token.relocate, Token.relocate, Token.relocate,
    show t.location = _ from hplace, Location.shift_afterText, Location.shift_afterText,
    Location.shift_afterText, List.append_assoc]

end Scanner

end SexprLexer
