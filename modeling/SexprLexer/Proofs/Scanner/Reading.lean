import SexprLexer.Proofs.Lexemes
import SexprLexer.Proofs.Text.LineColumn
import SexprLexer.Proofs.Text.Slices
import SexprLexer.Skipped

/-!
# Readings of a text

A reading goes over a text from its beginning, one blank character, one skipped character or one
lexeme at a time, and keeps what it finds with its place. It is the rule that every scan follows,
said without cursors and counters: a place is what the text before it determines. Main statements
about what a reading has found: it lies in order and apart (`Reading.pairwise`), each finding
stands where its place says (`Reading.exists_eq_append`), and nothing but blank characters lies
between them (`Reading.interleaves`).
-/

namespace SexprLexer

/-- What a scan finds in a text: a token, or a character that it skips. -/
inductive Finding where
  | token (token : Token)
  | skipped (skipped : Skipped)
  deriving DecidableEq

namespace Finding

/-- Where a finding stands. -/
def location : Finding → Location
  | token t => t.location
  | skipped s => s.location

/-- The characters of a finding. -/
def text : Finding → List Char
  | token t => t.lexeme.toList
  | skipped s => [s.character]

/-- The offset at which a finding begins. -/
def start (f : Finding) : Nat := f.location.offset

/-- The offset at which a finding ends. -/
def stop (f : Finding) : Nat := f.start + Text.byteSize f.text

/-- The token that a finding is, if it is one. -/
def token? : Finding → Option Token
  | token t => some t
  | skipped _ => none

/-- The skipped character that a finding is, if it is one. -/
def skipped? : Finding → Option Skipped
  | token _ => none
  | skipped s => some s

/-- The tokens among some findings. -/
def tokens (found : List Finding) : List Token := found.filterMap token?

/-- The skipped characters among some findings. -/
def skips (found : List Finding) : List Skipped := found.filterMap skipped?

@[simp]
theorem tokens_append (found more : List Finding) :
    tokens (found ++ more) = tokens found ++ tokens more :=
  List.filterMap_append

@[simp]
theorem skips_append (found more : List Finding) :
    skips (found ++ more) = skips found ++ skips more :=
  List.filterMap_append

theorem mem_tokens {found : List Finding} {t : Token} : t ∈ tokens found ↔ .token t ∈ found := by
  rw [tokens, List.mem_filterMap]
  constructor
  · rintro ⟨f, hf, htoken⟩
    cases f with
    | token t' =>
      cases htoken
      exact hf
    | skipped s => cases htoken
  · intro h
    exact ⟨_, h, rfl⟩

theorem mem_skips {found : List Finding} {s : Skipped} : s ∈ skips found ↔ .skipped s ∈ found := by
  rw [skips, List.mem_filterMap]
  constructor
  · rintro ⟨f, hf, hskipped⟩
    cases f with
    | token t => cases hskipped
    | skipped s' =>
      cases hskipped
      exact hf
  · intro h
    exact ⟨_, h, rfl⟩

/-- The text of some findings, in order, with a gap before each of them. -/
def interleave (gaps : List (List Char)) (found : List Finding) : List Char :=
  (List.zipWith (fun gap f => gap ++ f.text) gaps found).flatten

theorem interleave_concat {gaps : List (List Char)} {found : List Finding}
    (h : gaps.length = found.length) (gap : List Char) (f : Finding) :
    interleave (gaps ++ [gap]) (found ++ [f]) = interleave gaps found ++ (gap ++ f.text) := by
  rw [interleave, List.zipWith_append h, List.flatten_append, List.zipWith_cons_cons,
    List.zipWith_nil_left, List.flatten_cons, List.flatten_nil, List.append_nil]
  rfl

/-- Whether the finding belongs where `before` comes before it and `after` comes after it in the
source called `filename`. The text before it determines its place. A token is a lexeme there, and
does not go on with an identifier that comes before it. -/
def Stands (filename : Option String) (before after : List Char) (f : Finding) : Prop :=
  f.location = .afterText filename before ∧
    match f with
    | token t =>
      IsLexeme t.kind t.lexeme.toList after ∧
        (t.kind = .identifier → ∀ c ∈ before.getLast?, isIdentifierSubsequent c = false)
    | skipped s => isTokenCharacter s.character = false ∧ Text.isBlank s.character = false

/-- Whether the finding belongs somewhere in `source`. -/
def StandsIn (filename : Option String) (source : List Char) (f : Finding) : Prop :=
  ∃ before after, source = before ++ f.text ++ after ∧ f.Stands filename before after

namespace Stands

variable {filename : Option String} {before after : List Char} {f : Finding}

theorem start_eq (h : f.Stands filename before after) : f.start = Text.byteSize before := by
  rw [start, h.1]
  rfl

theorem text_ne_nil (h : f.Stands filename before after) : f.text ≠ [] := by
  cases f with
  | token t => exact h.2.1.ne_nil
  | skipped s => exact List.cons_ne_nil _ _

/-- Nothing goes on with an identifier after a finding that holds an identifier character. -/
theorem not_goesOn (h : f.Stands filename before after) :
    ∀ c ∈ f.text, isIdentifierSubsequent c = true → ¬ GoesOn after := by
  intro c hc hsubsequent
  cases f with
  | token t => exact h.2.1.not_goesOn c hc hsubsequent
  | skipped s =>
    have hother := isIdentifierSubsequent_eq_false h.2.1
    rw [← List.mem_singleton.1 hc, hsubsequent] at hother
    cases hother

end Stands

namespace StandsIn

variable {filename : Option String} {source : List Char} {f : Finding}

/-- A finding is not empty. -/
theorem start_lt_stop (h : f.StandsIn filename source) : f.start < f.stop := by
  obtain ⟨before, after, -, hstands⟩ := h
  have hpos : 0 < Text.byteSize f.text := by
    refine Nat.pos_of_ne_zero fun hzero => ?_
    exact hstands.text_ne_nil (Text.byteSize_eq_zero.1 hzero)
  rw [stop]
  omega

/-- A finding is a slice of the source. -/
theorem slice?_eq (h : f.StandsIn filename source) :
    Text.slice? source f.start f.stop = some f.text := by
  obtain ⟨before, after, hsource, hstands⟩ := h
  exact Text.slice?_eq_some_iff.2 ⟨before, after, hsource, hstands.start_eq.symm, rfl⟩

/-- The offset of a finding tells what comes before it, and with it the whole place. -/
theorem location_unique {g : Finding} (h : f.StandsIn filename source)
    (h' : g.StandsIn filename source) (hstart : f.start = g.start) : f.location = g.location := by
  obtain ⟨before, after, hsource, hstands⟩ := h
  obtain ⟨before', after', hsource', hstands'⟩ := h'
  have hsize : Text.byteSize before = Text.byteSize before' := by
    rw [← hstands.start_eq, ← hstands'.start_eq, hstart]
  rw [List.append_assoc] at hsource hsource'
  have hcut := Text.cut?_append before (f.text ++ after)
  rw [← hsource, hsource', hsize, Text.cut?_append, Option.some.injEq, Prod.mk.injEq] at hcut
  rw [hstands.1, hstands'.1, hcut.1]

end StandsIn

end Finding

/-- `Reading filename read found rest` says that a reader of the text `read ++ rest`, called
`filename`, who has gone over `read` has found `found` there. -/
inductive Reading (filename : Option String) :
    (read : List Char) → (found : List Finding) → (rest : List Char) → Prop
  | start (source : List Char) : Reading filename [] [] source
  | blank {read rest : List Char} {found : List Finding} {c : Char}
      (h : Reading filename read found (c :: rest)) (hc : isTokenCharacter c = false)
      (hblank : Text.isBlank c = true) : Reading filename (read ++ [c]) found rest
  | finding {read rest : List Char} {found : List Finding} {f : Finding}
      (h : Reading filename read found (f.text ++ rest)) (hf : f.Stands filename read rest) :
      Reading filename (read ++ f.text) (found ++ [f]) rest

namespace Reading

variable {filename : Option String} {read rest : List Char} {found : List Finding}

/-- An identifier is never left in its middle. -/
theorem not_goesOn (h : Reading filename read found rest) :
    ∀ c ∈ read.getLast?, isIdentifierSubsequent c = true → ¬ GoesOn rest := by
  cases h with
  | start source =>
    intro c hc
    cases hc
  | blank h hc hblank =>
    intro d hd hsubsequent
    rw [List.getLast?_concat, Option.mem_def, Option.some.injEq] at hd
    rw [← hd, isIdentifierSubsequent_eq_false hc] at hsubsequent
    cases hsubsequent
  | @finding read rest found f h hf =>
    intro d hd hsubsequent
    -- A finding is not empty, so what is read ends with its last character.
    have hlast : f.text.getLast? = some d := by
      have hor := Option.mem_def.1 hd
      rwa [List.getLast?_append, List.getLast?_eq_some_getLast hf.text_ne_nil, Option.some_or,
        ← List.getLast?_eq_some_getLast hf.text_ne_nil] at hor
    exact hf.not_goesOn d (List.mem_of_getLast? hlast) hsubsequent

/-- A reader finds the lexeme that comes next. -/
theorem lexeme {kind : Token.Kind} {lexeme : List Char}
    (h : Reading filename read found (lexeme ++ rest)) (hlexeme : IsLexeme kind lexeme rest) :
    Reading filename (read ++ lexeme)
      (found ++ [.token ⟨kind, String.ofList lexeme, .afterText filename read⟩]) rest := by
  have htext : (String.ofList lexeme).toList = lexeme := String.toList_ofList
  have hstands : Finding.Stands filename read rest
      (.token ⟨kind, String.ofList lexeme, .afterText filename read⟩) := by
    refine ⟨rfl, by rwa [htext], ?_⟩
    -- An identifier right after an identifier character would have been read as its rest.
    rintro rfl c hc
    rw [← Bool.not_eq_true]
    intro hsubsequent
    apply h.not_goesOn c hc hsubsequent
    obtain ⟨d, further, rfl, hkind, -⟩ := hlexeme.exists_span
    exact ⟨d, rfl, Token.Kind.begunBy?_eq_identifier_iff.1 hkind⟩
  have hnext := Reading.finding (f := .token _) (by rwa [Finding.text, htext]) hstands
  rwa [Finding.text, htext] at hnext

/-- Each finding stands in the text that is read where the grammar allows it. -/
theorem standsIn (h : Reading filename read found rest) :
    ∀ f ∈ found, f.StandsIn filename (read ++ rest) := by
  induction h with
  | start source =>
    intro f hf
    cases hf
  | blank h hc hblank ih => rwa [List.append_assoc]
  | @finding read rest found f h hf ih =>
    rw [List.append_assoc]
    intro g hg
    rcases List.mem_append.1 hg with hg | hg
    · exact ih g hg
    · rw [List.mem_singleton.1 hg]
      exact ⟨read, rest, (List.append_assoc _ _ _).symm, hf⟩

/-- What is found lies within what is read. -/
theorem stop_le (h : Reading filename read found rest) :
    ∀ f ∈ found, f.stop ≤ Text.byteSize read := by
  induction h with
  | start source =>
    intro f hf
    cases hf
  | blank h hc hblank ih =>
    intro f hf
    have := ih f hf
    rw [Text.byteSize_append]
    omega
  | @finding read rest found f h hf ih =>
    intro g hg
    rw [Text.byteSize_append]
    rcases List.mem_append.1 hg with hg | hg
    · have := ih g hg
      omega
    · have hstop : f.stop = Text.byteSize read + Text.byteSize f.text := by
        rw [Finding.stop, hf.start_eq]
      rw [List.mem_singleton.1 hg]
      omega

/-- Findings lie in order and apart. -/
theorem pairwise (h : Reading filename read found rest) :
    found.Pairwise fun f g => f.stop ≤ g.start := by
  induction h with
  | start source => exact List.Pairwise.nil
  | blank h hc hblank ih => exact ih
  | finding h hf ih =>
    rw [List.pairwise_append]
    refine ⟨ih, List.pairwise_singleton _ _, ?_⟩
    intro g hg g' hg'
    rw [List.mem_singleton.1 hg', hf.start_eq]
    exact h.stop_le g hg

/-- Findings are found in the order of their offsets, each at an offset of its own. -/
theorem pairwise_start_lt (h : Reading filename read found rest) :
    found.Pairwise fun f g => f.start < g.start := by
  refine h.pairwise.imp_of_mem fun {f g} hf _ hle => ?_
  exact Nat.lt_of_lt_of_le (h.standsIn f hf).start_lt_stop hle

/-- Nothing but blank characters is read without being found. -/
theorem isBlank_of_outside (h : Reading filename read found rest) {before after : List Char}
    {c : Char} (hread : read = before ++ c :: after)
    (houtside : ∀ f ∈ found,
      ¬ (f.start ≤ Text.byteSize before ∧ Text.byteSize before < f.stop)) :
    Text.isBlank c = true := by
  -- In each step `c` was read before, or it is in the last piece; then only a blank is outside.
  induction h generalizing after with
  | start source => exact absurd hread.symm (List.append_ne_nil_of_right_ne_nil _ (by simp))
  | blank h hc hblank ih =>
    rcases Text.append_eq_append_cons hread with ⟨later, hread⟩ | ⟨inner, -, hpiece⟩
    · exact ih hread houtside
    · have hmem := List.mem_append_right inner (List.mem_cons_self (a := c) (l := after))
      rw [← hpiece] at hmem
      rwa [List.mem_singleton.1 hmem]
  | @finding read rest found f h hf ih =>
    rcases Text.append_eq_append_cons hread with ⟨later, hread⟩ | ⟨inner, hbefore, hpiece⟩
    · exact ih hread fun g hg => houtside g (List.mem_append_left _ hg)
    · have hcovers : f.start ≤ Text.byteSize before ∧ Text.byteSize before < f.stop := by
        have hpos := c.utf8Size_pos
        rw [Finding.stop, hf.start_eq, hpiece, hbefore]
        simp only [Text.byteSize_append, Text.byteSize_cons]
        omega
      exact absurd hcovers (houtside f (List.mem_append_right found List.mem_cons_self))

/-- Where all of a text is read, a character that is not blank belongs to something that is
found. -/
theorem exists_covering {source before after : List Char} {c : Char}
    (h : Reading filename source found []) (hsource : source = before ++ c :: after)
    (hc : Text.isBlank c = false) :
    ∃ f ∈ found, ∃ before' after' inner more, source = before' ++ f.text ++ after' ∧
      f.Stands filename before' after' ∧ before = before' ++ inner ∧
      f.text = inner ++ c :: more := by
  -- A character outside of all that is found would be blank.
  obtain ⟨f, hf, hstart, hstop⟩ : ∃ f ∈ found,
      f.start ≤ Text.byteSize before ∧ Text.byteSize before < f.stop := by
    refine Classical.byContradiction fun hnone => ?_
    have hblank := h.isBlank_of_outside hsource fun f hf hcovers => hnone ⟨f, hf, hcovers⟩
    rw [hc] at hblank
    cases hblank
  obtain ⟨before', after', htext, hstands⟩ := h.standsIn f hf
  rw [List.append_nil] at htext
  rw [Finding.stop, hstands.start_eq] at hstop
  rw [hstands.start_eq] at hstart
  have hboth : before' ++ (f.text ++ after') = before ++ c :: after := by
    rw [← hsource, htext, List.append_assoc]
  obtain ⟨inner, rfl, hinner⟩ := Text.append_eq_append_of_byteSize_le hboth hstart
  rw [Text.byteSize_append] at hstop
  rcases Text.append_eq_append_cons hinner with ⟨more, hmore⟩ | ⟨beyond, rfl, -⟩
  · exact ⟨f, hf, before', after', inner, more, htext, hstands, rfl, hmore⟩
  · rw [Text.byteSize_append] at hstop
    omega

/-- The text that is read is made up of what is found, in order, and of blank characters. -/
theorem interleaves (h : Reading filename read found rest) :
    ∃ gaps last, gaps.length = found.length ∧ (∀ gap ∈ gaps, ∀ c ∈ gap, Text.isBlank c = true) ∧
      (∀ c ∈ last, Text.isBlank c = true) ∧ read = Finding.interleave gaps found ++ last := by
  induction h with
  | start source => exact ⟨[], [], rfl, by simp, by simp, rfl⟩
  | @blank read rest found c h hc hblank ih =>
    obtain ⟨gaps, last, hlength, hgaps, hlast, hread⟩ := ih
    refine ⟨gaps, last ++ [c], hlength, hgaps, ?_, ?_⟩
    · intro d hd
      rcases List.mem_append.1 hd with hd | hd
      · exact hlast d hd
      · rwa [List.mem_singleton.1 hd]
    · rw [hread, List.append_assoc]
  | @finding read rest found f h hf ih =>
    -- What was at the end so far is now the gap before the new finding.
    obtain ⟨gaps, last, hlength, hgaps, hlast, hread⟩ := ih
    refine ⟨gaps ++ [last], [], by simp [hlength], ?_, by simp, ?_⟩
    · intro gap hgap
      rcases List.mem_append.1 hgap with hgap | hgap
      · exact hgaps gap hgap
      · rwa [List.mem_singleton.1 hgap]
    · rw [Finding.interleave_concat hlength, hread, List.append_nil, List.append_assoc]

end Reading

end SexprLexer
