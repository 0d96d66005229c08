import SexprLexer.Proofs.Scanner.Run
import SexprLexer.Tokenize

/-!
# The grammar of tokens

Which tokens a source has, said without the scanner: each parenthesis is one, and so is each run
of identifier characters that cannot be made longer on either side. Main statement: draining a
scanner gives exactly these tokens, in the order of their offsets, and skips exactly the other
characters that are not blank (`drain_iff_occurs`), each of them where it stands
(`skipped_drain`).
-/

namespace SexprLexer

/-! ### Noise -/

/-- Whether `c` is neither blank nor part of any token. -/
def isNoise (c : Char) : Bool := !isTokenCharacter c && !Text.isBlank c

/-- The noise of a text, each character with its place, where `before` comes before the text in the
source called `filename`. -/
def noise (filename : Option String) (before : List Char) : List Char → List Skipped
  | [] => []
  | c :: text =>
    if isNoise c then ⟨c, .afterText filename before⟩ :: noise filename (before ++ [c]) text
    else noise filename (before ++ [c]) text

theorem noise_append (filename : Option String) (before text more : List Char) :
    noise filename before (text ++ more) =
      noise filename before text ++ noise filename (before ++ text) more := by
  induction text generalizing before with
  | nil => rw [List.nil_append, List.append_nil, noise, List.nil_append]
  | cons c text ih =>
    rw [List.cons_append, noise, noise, ih, List.append_assoc, List.singleton_append]
    split
    · rfl
    · rfl

/-- The noise by its characters. -/
theorem map_character_noise (filename : Option String) (before text : List Char) :
    (noise filename before text).map (·.character) = text.filter isNoise := by
  induction text generalizing before with
  | nil => rfl
  | cons c text ih =>
    rw [noise, List.filter_cons, ← ih (before ++ [c])]
    split
    · rfl
    · rfl

/-- A text without noise. -/
theorem noise_eq_nil {text : List Char} (h : ∀ c ∈ text, isNoise c = false)
    (filename : Option String) (before : List Char) : noise filename before text = [] := by
  have hnone : text.filter isNoise = [] := by
    rw [List.filter_eq_nil_iff]
    intro c hc
    rw [h c hc]
    decide
  have hcharacters := map_character_noise filename before text
  rw [hnone] at hcharacters
  exact List.map_eq_nil_iff.1 hcharacters

/-- The noise by its offsets. -/
theorem map_offset_noise (filename : Option String) (before text : List Char) :
    (noise filename before text).map (fun s => (s.location.offset, s.character)) =
      (Text.offsets (Text.byteSize before) text).filter fun p => isNoise p.2 := by
  induction text generalizing before with
  | nil => rfl
  | cons c text ih =>
    have hsize : Text.byteSize (before ++ [c]) = Text.byteSize before + c.utf8Size :=
      Text.byteSize_append before [c]
    have ih := ih (before ++ [c])
    rw [hsize] at ih
    rw [noise, Text.offsets, List.filter_cons, ← ih]
    split
    · rfl
    · rfl

/-- A character of the noise stands where its record says. -/
theorem exists_of_mem_noise {filename : Option String} {before text : List Char} {s : Skipped}
    (h : s ∈ noise filename before text) :
    ∃ read after, text = read ++ s.character :: after ∧
      s.location = .afterText filename (before ++ read) ∧ isNoise s.character = true := by
  induction text generalizing before with
  | nil => cases h
  | cons c text ih =>
    have hcases : (s = ⟨c, .afterText filename before⟩ ∧ isNoise c = true) ∨
        s ∈ noise filename (before ++ [c]) text := by
      rw [noise] at h
      split at h
      · next hc => exact (List.mem_cons.1 h).imp_left fun hs => ⟨hs, hc⟩
      · exact .inr h
    rcases hcases with ⟨rfl, hc⟩ | h
    · refine ⟨[], text, rfl, ?_, hc⟩
      rw [List.append_nil]
    · obtain ⟨read, after, htext, hplace, hnoise⟩ := ih h
      refine ⟨c :: read, after, by rw [htext, List.cons_append], ?_, hnoise⟩
      rw [hplace, List.append_assoc, List.singleton_append]

/-! ### Occurrences of tokens -/

/-- `Occurs source kind lexeme offset` says that the grammar has a token of this kind, with these
characters and at this offset in `source`. -/
inductive Occurs (source : List Char) : Token.Kind → (lexeme : List Char) → (offset : Nat) → Prop
  | leftParen {before after : List Char} (h : source = before ++ '(' :: after) :
      Occurs source .leftParen ['('] (Text.byteSize before)
  | rightParen {before after : List Char} (h : source = before ++ ')' :: after) :
      Occurs source .rightParen [')'] (Text.byteSize before)
  | identifier {before run after : List Char} (h : source = before ++ run ++ after)
      (hne : run ≠ []) (hrun : ∀ c ∈ run, isIdentifierSubsequent c = true)
      (hbefore : ∀ c ∈ before.getLast?, isIdentifierSubsequent c = false)
      (hafter : ∀ c ∈ after.head?, isIdentifierSubsequent c = false) :
      Occurs source .identifier run (Text.byteSize before)

/-- An occurrence of a token is a lexeme that does not go on with an identifier before it. -/
theorem occurs_iff {source lexeme : List Char} {kind : Token.Kind} {offset : Nat} :
    Occurs source kind lexeme offset ↔ ∃ before after, source = before ++ lexeme ++ after ∧
      Text.byteSize before = offset ∧ IsLexeme kind lexeme after ∧
      (kind = .identifier → ∀ c ∈ before.getLast?, isIdentifierSubsequent c = false) := by
  constructor
  · intro h
    cases h with
    | @leftParen before after h =>
      refine ⟨before, after, ?_, rfl, .leftParen after, fun hkind => by cases hkind⟩
      rw [h, List.append_assoc]
      rfl
    | @rightParen before after h =>
      refine ⟨before, after, ?_, rfl, .rightParen after, fun hkind => by cases hkind⟩
      rw [h, List.append_assoc]
      rfl
    | @identifier before run after h hne hrun hbefore hafter =>
      refine ⟨before, after, h, rfl, .identifier hne hrun ?_, fun _ => hbefore⟩
      rintro ⟨c, hc, hsubsequent⟩
      rw [hafter c hc] at hsubsequent
      cases hsubsequent
  · rintro ⟨before, after, h, rfl, hlexeme, hbefore⟩
    cases hlexeme with
    | leftParen after =>
      rw [List.append_assoc] at h
      exact .leftParen h
    | rightParen after =>
      rw [List.append_assoc] at h
      exact .rightParen h
    | identifier hne hrun hstop =>
      refine .identifier h hne hrun (hbefore rfl) ?_
      intro c hc
      rw [← Bool.not_eq_true]
      exact fun hsubsequent => hstop ⟨c, hc, hsubsequent⟩

namespace Reading

variable {filename : Option String} {source read rest : List Char} {found : List Finding}

/-- Every token that is found occurs in the text. -/
theorem occurs_of_mem (h : Reading filename read found rest) {t : Token}
    (ht : t ∈ Finding.tokens found) :
    Occurs (read ++ rest) t.kind t.lexeme.toList t.location.offset := by
  obtain ⟨before, after, htext, hplace, hlexeme, hbefore⟩ := h.standsIn _ (Finding.mem_tokens.1 ht)
  refine occurs_iff.2 ⟨before, after, htext, ?_, hlexeme, hbefore⟩
  rw [show t.location = _ from hplace]
  rfl

/-- A token that occurs in a text is found by anyone who reads all of it. -/
theorem exists_mem_of_occurs (h : Reading filename source found []) {kind : Token.Kind}
    {lexeme : List Char} {offset : Nat} (hoccurs : Occurs source kind lexeme offset) :
    ∃ t ∈ Finding.tokens found,
      t.kind = kind ∧ t.lexeme.toList = lexeme ∧ t.location.offset = offset := by
  obtain ⟨before, after, htext, rfl, hlexeme, hbefore⟩ := occurs_iff.1 hoccurs
  obtain ⟨c, further, rfl, -, -⟩ := hlexeme.exists_span
  have hc : isTokenCharacter c = true := hlexeme.isTokenCharacter_of_mem c List.mem_cons_self
  have htext' : source = before ++ c :: (further ++ after) := by
    rw [htext, List.append_assoc]
    rfl
  -- The first character of the lexeme is not blank, so something is found that holds it.
  obtain ⟨f, hf, before', after', inner, more, hsource, hstands, rfl, hmore⟩ :=
    h.exists_covering htext' (isBlank_eq_false hc)
  cases f with
  | skipped s =>
    have hmem : c ∈ [s.character] := by
      rw [show [s.character] = _ from hmore]
      exact List.mem_append_right inner List.mem_cons_self
    rw [List.mem_singleton.1 hmem, hstands.2.1] at hc
    cases hc
  | token t =>
    obtain ⟨hplace, hlexeme', -⟩ := hstands
    obtain rfl := hlexeme'.eq_nil_of_begins_within hlexeme hbefore hmore
    rw [List.append_nil, hsource, List.append_assoc, List.append_assoc] at htext
    obtain ⟨hkinds, hlexemes, -⟩ := hlexeme'.unique hlexeme (List.append_cancel_left htext)
    refine ⟨t, Finding.mem_tokens.2 hf, hkinds, hlexemes, ?_⟩
    rw [show t.location = _ from hplace, List.append_nil]
    rfl

/-- What is skipped is the noise of the text that is read, each character with its place. -/
theorem skips_eq_noise (h : Reading filename read found rest) :
    Finding.skips found = noise filename [] read := by
  induction h with
  | start source => rfl
  | @blank read rest found c h hc hblank ih =>
    have hnoise : ∀ d ∈ [c], isNoise d = false := by
      intro d hd
      rw [List.mem_singleton.1 hd, isNoise, hblank, Bool.not_true, Bool.and_false]
    rw [noise_append, noise_eq_nil hnoise, List.append_nil, ih]
  | @finding read rest found f h hf ih =>
    rw [Finding.skips_append, noise_append, ih, List.nil_append]
    congr 1
    cases f with
    | token t =>
      have hnoise : ∀ c ∈ t.lexeme.toList, isNoise c = false := by
        intro c hc
        rw [isNoise, hf.2.1.isTokenCharacter_of_mem c hc]
        rfl
      rw [Finding.text, noise_eq_nil hnoise]
      rfl
    | skipped s =>
      obtain ⟨hplace, hother, hblank⟩ := hf
      have hnoise : isNoise s.character = true := by rw [isNoise, hother, hblank]; rfl
      have hs : s = ⟨s.character, .afterText filename read⟩ := by
        rw [← show s.location = _ from hplace]
      rw [Finding.text, noise, if_pos hnoise, noise, ← hs]
      rfl

/-- What is skipped is the noise of the text that is read. -/
theorem skips_eq_filter (h : Reading filename read found rest) :
    (Finding.skips found).map (fun s => (s.location.offset, s.character)) =
      (Text.offsets 0 read).filter fun p => isNoise p.2 := by
  rw [h.skips_eq_noise, map_offset_noise, Text.byteSize_nil]

theorem pairwise_tokens (h : Reading filename read found rest) :
    (Finding.tokens found).Pairwise fun t t' => t.location.offset < t'.location.offset := by
  rw [Finding.tokens, List.pairwise_filterMap]
  refine h.pairwise_start_lt.imp ?_
  intro f g hlt t ht t' ht'
  cases f with
  | skipped s => cases ht
  | token u =>
    cases g with
    | skipped s => cases ht'
    | token u' =>
      cases ht
      cases ht'
      exact hlt

end Reading

namespace Scanner

/-- Draining a scanner reads the whole source. -/
theorem exists_reading_drain (source : String) (filename : Option String) :
    ∃ found, Reading filename source.toList found [] ∧
      Finding.tokens found = (ofString source filename).drain.1 := by
  obtain ⟨found, hread, htokens⟩ := exists_hasRead_drain source filename
  have hreading := hread.reading
  rw [rest_drain] at hreading
  exact ⟨found, hreading, htokens⟩

/-- Draining a scanner skips the noise of the source. -/
theorem skipped_drain (source : String) (filename : Option String) :
    (ofString source filename).drain.2.skipped = noise filename [] source.toList := by
  obtain ⟨found, hread, -⟩ := exists_hasRead_drain source filename
  rw [hread.skipped_eq, hread.reading.skips_eq_noise]

/-- Draining a scanner gives the tokens that the grammar has in the source, in the order of their
offsets and each of them once. It skips the characters that are neither blank nor part of a token,
in the order of their offsets and each of them once. -/
theorem drain_iff_occurs (source : String) (filename : Option String) :
    let tokens := (ofString source filename).drain.1
    let skipped := (ofString source filename).drain.2.skipped
    (∀ kind lexeme offset, Occurs source.toList kind lexeme offset ↔
      ∃ t ∈ tokens, t.kind = kind ∧ t.lexeme.toList = lexeme ∧ t.location.offset = offset) ∧
    tokens.Pairwise (fun t t' => t.location.offset < t'.location.offset) ∧
    skipped.map (fun s => (s.location.offset, s.character)) =
      (Text.offsets 0 source.toList).filter (fun p => isNoise p.2) ∧
    tokenize source = (ofString source none).drain.1 := by
  intro tokens skipped
  obtain ⟨found, hread, htokens⟩ := exists_hasRead_drain source filename
  have hreading : Reading filename source.toList found [] := by
    have := hread.reading
    rwa [rest_drain] at this
  refine ⟨?_, ?_, ?_, rfl⟩
  · intro kind lexeme offset
    show _ ↔ ∃ t ∈ (ofString source filename).drain.1, _
    rw [← htokens]
    constructor
    · exact hreading.exists_mem_of_occurs
    · rintro ⟨t, ht, rfl, rfl, rfl⟩
      have := hreading.occurs_of_mem ht
      rwa [List.append_nil] at this
  · show (ofString source filename).drain.1.Pairwise _
    rw [← htokens]
    exact hreading.pairwise_tokens
  · show (ofString source filename).drain.2.skipped.map _ = _
    rw [hread.skipped_eq]
    exact hreading.skips_eq_filter

end Scanner

end SexprLexer
