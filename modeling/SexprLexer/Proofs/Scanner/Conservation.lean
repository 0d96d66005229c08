import SexprLexer.Proofs.Scanner.Run

/-!
# Nothing lost, nothing twice

At every moment of a run the tokens given so far, the characters skipped so far and the blank
characters between them make up what is read of the source, each character of it once. Main
statement: after any number of pulls the run has conserved what it has read
(`exists_conserves_afterPulls`).
-/

namespace SexprLexer

namespace Finding

/-- Some tokens and some skipped characters in the order of their offsets. -/
def merge (tokens : List Token) (skipped : List Skipped) : List Finding :=
  (tokens.map .token).merge (skipped.map .skipped) fun f g => f.start ≤ g.start

/-- Findings in order are what merging their tokens and their skipped characters gives. -/
theorem merge_tokens_skips {found : List Finding}
    (h : found.Pairwise fun f g => f.start < g.start) :
    merge (tokens found) (skips found) = found := by
  induction found with
  | nil => exact List.nil_merge _
  | cons f found ih =>
    obtain ⟨hfirst, hlater⟩ := List.pairwise_cons.1 h
    have ih := ih hlater
    rw [merge] at ih ⊢
    -- Whatever kind of finding comes first, the first one of the other kind stands after it.
    cases f with
    | token t =>
      show List.merge (token t :: (tokens found).map token) ((skips found).map skipped) _ = _
      cases hskips : skips found with
      | nil =>
        rw [hskips, List.map_nil, List.merge_right] at ih
        rw [List.map_nil, List.merge_right, ih]
      | cons s rest =>
        have hlt : t.location.offset < s.location.offset :=
          hfirst (.skipped s) (mem_skips.1 (by rw [hskips]; exact List.mem_cons_self))
        rw [hskips] at ih
        rw [List.map_cons] at ih ⊢
        rw [List.cons_merge_cons_pos, ih]
        exact decide_eq_true (Nat.le_of_lt hlt)
    | skipped s =>
      show List.merge ((tokens found).map token) (skipped s :: (skips found).map skipped) _ = _
      cases htokens : tokens found with
      | nil =>
        rw [htokens, List.map_nil, List.nil_merge] at ih
        rw [List.map_nil, List.nil_merge, ih]
      | cons t rest =>
        have hlt : s.location.offset < t.location.offset :=
          hfirst (.token t) (mem_tokens.1 (by rw [htokens]; exact List.mem_cons_self))
        rw [htokens] at ih
        rw [List.map_cons] at ih ⊢
        rw [List.cons_merge_cons_neg, ih]
        intro hle
        have := of_decide_eq_true hle
        exact absurd hlt (Nat.not_lt.2 this)

end Finding

/-- What a run has read of a source when its cursor is at the offset `position` and `remaining` is
left, `found` being the tokens and skipped characters so far in the order of their offsets. -/
structure Conserves (source : List Char) (position : Nat) (remaining read : List Char)
    (found : List Finding) : Prop where
  /-- What is read is the source up to the cursor. -/
  read_eq : Text.slice? source 0 position = some read
  /-- What is left is the source from the cursor on. -/
  append_remaining : read ++ remaining = source
  /-- No two findings share a byte. -/
  apart : found.Pairwise fun f g => f.stop ≤ g.start
  /-- Each finding has bytes, and all of them lie before the cursor. -/
  before_cursor : ∀ f ∈ found, f.start < f.stop ∧ f.stop ≤ position
  /-- Each finding holds the characters that the source has there. -/
  slices : ∀ f ∈ found, Text.slice? source f.start f.stop = some f.text
  /-- All that is read outside the findings is blank. -/
  blank_outside : ∀ before c after, read = before ++ c :: after →
    (∀ f ∈ found, ¬ (f.start ≤ Text.byteSize before ∧ Text.byteSize before < f.stop)) →
    Text.isBlank c = true
  /-- The findings, and blank characters before, between and after them, are all that is read. -/
  rebuilt : ∃ gaps last, gaps.length = found.length ∧
    (∀ gap ∈ gaps, ∀ c ∈ gap, Text.isBlank c = true) ∧ (∀ c ∈ last, Text.isBlank c = true) ∧
    read = Finding.interleave gaps found ++ last

/-- A reading conserves what is read. -/
theorem Reading.conserves {filename : Option String} {read rest : List Char}
    {found : List Finding} (h : Reading filename read found rest) :
    Conserves (read ++ rest) (Text.byteSize read) rest read found where
  read_eq := Text.slice?_zero_eq_some rfl
  append_remaining := rfl
  apart := h.pairwise
  before_cursor := fun f hf => ⟨(h.standsIn f hf).start_lt_stop, h.stop_le f hf⟩
  slices := fun f hf => (h.standsIn f hf).slice?_eq
  blank_outside := fun _ _ _ hread houtside => h.isBlank_of_outside hread houtside
  rebuilt := h.interleaves

namespace Scanner

/-- After any number of pulls, the tokens given so far and the characters skipped so far account
for all of the source up to the cursor, and further pulls only append to both. -/
theorem exists_conserves_afterPulls (source : String) (filename : Option String) (k : Nat) :
    let fresh := ofString source filename
    let s := fresh.afterPulls k
    (∃ read, String.ofList read ++ s.remaining = source ∧
      Conserves source.toList s.position s.remaining.toList read
        (Finding.merge (fresh.given k) s.skipped)) ∧
    ∀ n, fresh.given k <+: fresh.given (k + n) ∧
      s.skipped <+: (fresh.afterPulls (k + n)).skipped := by
  intro fresh s
  obtain ⟨read, found, hread, htokens⟩ := exists_hasRead source filename k
  have hmerge : Finding.merge (fresh.given k) s.skipped = found := by
    rw [← htokens, hread.skipped_eq]
    exact Finding.merge_tokens_skips hread.reading.pairwise_start_lt
  refine ⟨⟨read, ?_, ?_⟩, ?_⟩
  · rw [remaining, ← String.ofList_append, ← hread.source_eq, String.ofList_toList]
  · rw [hmerge, hread.position_eq, hread.source_eq, remaining, String.toList_ofList]
    exact hread.reading.conserves
  · intro n
    refine ⟨?_, ?_⟩
    · rw [given_add]
      exact List.prefix_append _ _
    · rw [afterPulls_add]
      exact skipped_isPrefix_afterPulls s n

end Scanner

end SexprLexer
