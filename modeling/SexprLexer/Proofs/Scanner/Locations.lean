import SexprLexer.Proofs.Scanner.Run

/-!
# Locations are functions of the text before them

A scanner counts lines and columns as it goes, in one way when it passes over a character and in
another when it hands out a token. Main statement: at every moment of a run its counters, and the
locations of all that it has found, are what the text before the place alone determines
(`locates_afterPulls`).
-/

namespace SexprLexer

/-- Whether a location is that of the characters `text` in `source`: they stand at its offset, and
its line and its column are those of a reader who has come there. -/
def Location.Locates (source : List Char) (here : Location) (text : List Char) : Prop :=
  Text.slice? source here.offset (here.offset + Text.byteSize text) = some text ∧
    ∃ before, Text.slice? source 0 here.offset = some before ∧
      here.line = Text.lineAfter before ∧ here.column = Text.columnAfter before

/-- A finding that belongs in a source carries the location of its characters. -/
theorem Finding.StandsIn.locates {filename : Option String} {source : List Char} {f : Finding}
    (h : f.StandsIn filename source) : f.location.Locates source f.text := by
  obtain ⟨before, after, hsource, hstands⟩ := h
  refine ⟨Finding.StandsIn.slice?_eq ⟨before, after, hsource, hstands⟩, before, ?_, ?_⟩
  · rw [hstands.1]
    exact Text.slice?_zero_eq_some (by rw [hsource, List.append_assoc])
  · rw [hstands.1]
    exact ⟨rfl, rfl⟩

namespace Scanner

/-- After any number of pulls the line and the column of the cursor are functions of the source up
to the cursor, and so are those of every token and every skipped character of the source up to
where it stands. In these functions only a line feed begins a line, and every other character,
whatever its size, is one column wide. -/
theorem locates_afterPulls (source : String) (filename : Option String) (k : Nat) :
    let fresh := ofString source filename
    let s := fresh.afterPulls k
    (∃ read, Text.slice? source.toList 0 s.position = some read ∧
      s.here.line = Text.lineAfter read ∧ s.here.column = Text.columnAfter read) ∧
    (∀ t ∈ fresh.given k, t.location.Locates source.toList t.lexeme.toList) ∧
    (∀ x ∈ s.skipped, x.location.Locates source.toList [x.character]) ∧
    ∀ text c, Text.lineAfter (text ++ [c]) =
        (if c = '\n' then Text.lineAfter text + 1 else Text.lineAfter text) ∧
      Text.columnAfter (text ++ [c]) = if c = '\n' then 1 else Text.columnAfter text + 1 := by
  intro fresh s
  obtain ⟨read, found, hread, htokens⟩ := exists_hasRead source filename k
  have hlocates : ∀ f ∈ found, f.location.Locates source.toList f.text := by
    intro f hf
    rw [hread.source_eq]
    exact (hread.reading.standsIn f hf).locates
  refine ⟨⟨read, ?_, ?_⟩, ?_, ?_, ?_⟩
  · rw [hread.position_eq]
    exact Text.slice?_zero_eq_some hread.source_eq
  · rw [hread.here_eq]
    exact ⟨rfl, rfl⟩
  · intro t ht
    rw [← htokens] at ht
    exact hlocates _ (Finding.mem_tokens.1 ht)
  · intro x hx
    rw [hread.skipped_eq] at hx
    exact hlocates _ (Finding.mem_skips.1 hx)
  · intro text c
    by_cases hc : c = '\n'
    · rw [if_pos hc, if_pos hc, hc]
      exact ⟨Text.lineAfter_newline text, Text.columnAfter_newline text⟩
    · rw [if_neg hc, if_neg hc]
      exact ⟨Text.lineAfter_other hc text, Text.columnAfter_other hc text⟩

end Scanner

end SexprLexer
