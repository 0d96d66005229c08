import SexprLexer.Proofs.Scanner.Conservation

/-!
# Lines and columns tell places apart

A record of a scan carries its place twice, as an offset for programs and as a line and a column
for readers. The two say the same: lines and columns are in the order of the offsets, and the
offset can be found again from the line and the column by walking over the lines of the text.
Main statements: both for any two places of a text (`Location.offset_lt_iff_precedes`) and any one
(`Text.offsetOf?_after`), and both for all that one scan records (`Scanner.ordered_records`).
-/

namespace SexprLexer

/-! ### The order of places -/

namespace Location

/-- Whether a reader who goes from line to line, and along each line, comes to the first place
before the second. -/
def Precedes (here there : Location) : Prop :=
  here.line < there.line ∨ here.line = there.line ∧ here.column < there.column

instance (here there : Location) : Decidable (here.Precedes there) :=
  inferInstanceAs (Decidable (_ ∨ _))

theorem not_precedes_self (here : Location) : ¬ here.Precedes here := by
  unfold Precedes
  omega

theorem Precedes.not_precedes {here there : Location} (h : here.Precedes there) :
    ¬ there.Precedes here := by
  unfold Precedes at h ⊢
  omega

/-- Reading on leads to a later place: to a later line if a line ends on the way, and else to a
later column. -/
theorem precedes_afterText_append (filename : Option String) (text : List Char)
    {more : List Char} (h : more ≠ []) :
    (afterText filename text).Precedes (afterText filename (text ++ more)) := by
  show Text.lineAfter text < Text.lineAfter (text ++ more) ∨
    Text.lineAfter text = Text.lineAfter (text ++ more) ∧
      Text.columnAfter text < Text.columnAfter (text ++ more)
  have hline : Text.lineAfter (text ++ more) = Text.lineAfter text + more.count '\n' := by
    rw [Text.lineAfter, Text.lineAfter, List.count_append]
    omega
  by_cases hfeed : '\n' ∈ more
  · have hcount := List.count_pos_iff.2 hfeed
    omega
  · have hcount := List.count_eq_zero.2 hfeed
    have hcolumn : Text.columnAfter (text ++ more) = Text.columnAfter text + more.length := by
      rw [Text.columnAfter_eq, Text.columnAfter_eq, Text.lastLine_append, if_neg hfeed,
        List.length_append]
      omega
    have hlength := List.length_pos_iff.2 h
    omega

/-- The places of one text are in the same order by their offsets as by their lines and
columns. -/
theorem offset_lt_iff_precedes {filename : Option String} {before after before' after' : List Char}
    (h : before ++ after = before' ++ after') :
    (afterText filename before).offset < (afterText filename before').offset ↔
      (afterText filename before).Precedes (afterText filename before') := by
  show Text.byteSize before < Text.byteSize before' ↔ _
  rcases Nat.lt_or_ge (Text.byteSize before) (Text.byteSize before') with hlt | hge
  · obtain ⟨more, rfl, -⟩ := Text.append_eq_append_of_byteSize_le h (Nat.le_of_lt hlt)
    have hmore : more ≠ [] := by
      rintro rfl
      rw [List.append_nil] at hlt
      exact absurd hlt (Nat.lt_irrefl _)
    exact iff_of_true hlt (precedes_afterText_append filename before hmore)
  · obtain ⟨more, rfl, -⟩ := Text.append_eq_append_of_byteSize_le h.symm hge
    refine iff_of_false (Nat.not_lt.2 hge) ?_
    by_cases hmore : more = []
    · rw [hmore, List.append_nil]
      exact not_precedes_self _
    · exact (precedes_afterText_append filename before' hmore).not_precedes

end Location

/-! ### Walking to a line and a column -/

namespace Text

/-- The bytes of some lines of a text, each with the line feed that ends it. -/
def feedEndedSize : List (List Char) → Nat
  | [] => 0
  | line :: lines => byteSize line + 1 + feedEndedSize lines

/-- The offset to which one comes in a text by walking over the lines before the one with the
number `line`, and on that line over the characters before the one with the number `column`. Lines
are what line feeds divide. -/
def offsetOf? (text : List Char) : (line column : Nat) → Option Nat
  | line + 1, column + 1 =>
    match (text.splitOn '\n')[line]? with
    | none => none
    | some segment =>
      if column ≤ segment.length then
        some (feedEndedSize ((text.splitOn '\n').take line) + byteSize (segment.take column))
      else none
  | _, _ => none

/-- Each line feed of a text divides two of its lines. -/
theorem length_splitOn_feed (text : List Char) :
    (text.splitOn '\n').length = text.count '\n' + 1 := by
  induction text with
  | nil => simp [List.splitOn_nil]
  | cons c text ih =>
    rw [List.splitOn_cons_eq_if_modifyHead]
    by_cases hc : c = '\n'
    · simp [hc, ih]
    · simp [hc, ih]

/-- All the lines of a text with one line feed for each have one line feed more than the text. -/
theorem feedEndedSize_splitOn (text : List Char) :
    feedEndedSize (text.splitOn '\n') = byteSize text + 1 := by
  induction text with
  | nil => simp [feedEndedSize, List.splitOn_nil]
  | cons c text ih =>
    rw [List.splitOn_cons_eq_if_modifyHead, byteSize_cons]
    by_cases hc : c = '\n'
    · have hsize : '\n'.utf8Size = 1 := rfl
      simp [feedEndedSize, hc, ih, hsize]
      omega
    · -- The character goes to the front of the first line.
      cases hlines : text.splitOn '\n' with
      | nil => exact absurd hlines (List.splitOn_ne_nil _ _)
      | cons first lines =>
        rw [hlines, feedEndedSize] at ih
        simp [feedEndedSize, hc] at ih ⊢
        omega

/-- Nothing on the last line is a line feed. -/
theorem newline_not_mem_lastLine (text : List Char) : '\n' ∉ lastLine text := by
  intro hmem
  have := List.mem_rtakeWhile_imp hmem
  simp at this

/-- Before the last line stands the line feed that ends the line before it, unless the last line is
all of the text. -/
theorem eq_lastLine_or_exists (text : List Char) :
    text = lastLine text ∨ ∃ earlier, text = earlier ++ '\n' :: lastLine text := by
  induction text using List.reverseRecOn with
  | nil => exact .inl rfl
  | append_singleton text c ih =>
    by_cases hc : c = '\n'
    · rw [hc, lastLine_newline]
      exact .inr ⟨text, rfl⟩
    · rw [lastLine_other hc]
      rcases ih with htext | ⟨earlier, htext⟩
      · exact .inl (congrArg (· ++ [c]) htext)
      · refine .inr ⟨earlier, ?_⟩
        rw [← List.cons_append, ← List.append_assoc, ← htext]

/-- Where no line ends, the first line of a text goes on. -/
theorem exists_splitOn_append {line : List Char} (h : '\n' ∉ line) (after : List Char) :
    ∃ rest later, (line ++ after).splitOn '\n' = (line ++ rest) :: later := by
  induction line with
  | nil =>
    obtain ⟨rest, later, hlines⟩ := List.exists_cons_of_ne_nil (List.splitOn_ne_nil '\n' after)
    exact ⟨rest, later, hlines⟩
  | cons c line ih =>
    rw [List.mem_cons, not_or] at h
    obtain ⟨rest, later, hlines⟩ := ih h.2
    refine ⟨rest, later, ?_⟩
    rw [List.cons_append, List.splitOn_cons_eq_if_modifyHead, hlines,
      if_neg (by simpa using Ne.symm h.1), List.modifyHead_cons]
    rfl

/-- A place stands on the line after all that have ended before it, and before it on this line
stands the last line of what comes before it. -/
theorem exists_lines_append (before after : List Char) :
    ∃ earlier rest later,
      (before ++ after).splitOn '\n' = earlier ++ (lastLine before ++ rest) :: later ∧
      earlier.length = before.count '\n' ∧
      feedEndedSize earlier + byteSize (lastLine before) = byteSize before := by
  have hlast := newline_not_mem_lastLine before
  obtain ⟨rest, later, hlines⟩ := exists_splitOn_append hlast after
  rcases eq_lastLine_or_exists before with hbefore | ⟨earlier, hbefore⟩
  · refine ⟨[], rest, later, ?_, ?_, ?_⟩
    · rw [List.nil_append, ← hlines, ← hbefore]
    · rw [hbefore, List.count_eq_zero.2 hlast, List.length_nil]
    · rw [← hbefore, feedEndedSize, Nat.zero_add]
  · refine ⟨earlier.splitOn '\n', rest, later, ?_, ?_, ?_⟩
    · rw [← hlines, ← List.splitOn_append_cons_self, ← List.cons_append, ← List.append_assoc,
        ← hbefore]
    · have hcount := congrArg (List.count '\n') hbefore
      rw [List.count_append, List.count_cons_self, List.count_eq_zero.2 hlast] at hcount
      rw [length_splitOn_feed, hcount]
    · have hsize := congrArg byteSize hbefore
      rw [byteSize_append, byteSize_cons, show '\n'.utf8Size = 1 from rfl] at hsize
      rw [feedEndedSize_splitOn]
      omega

/-- The line and the column of a place lead to its offset. -/
theorem offsetOf?_after (before after : List Char) :
    offsetOf? (before ++ after) (lineAfter before) (columnAfter before) =
      some (byteSize before) := by
  obtain ⟨earlier, rest, later, hlines, hlength, hsize⟩ := exists_lines_append before after
  have hline : ((before ++ after).splitOn '\n')[before.count '\n']? =
      some (lastLine before ++ rest) := by
    rw [hlines, ← hlength, List.getElem?_append_right (Nat.le_refl _), Nat.sub_self,
      List.getElem?_cons_zero]
  rw [lineAfter, columnAfter_eq, Nat.add_comm, Nat.add_comm 1 (lastLine before).length]
  simp only [offsetOf?, hline]
  rw [if_pos, hlines, ← hlength, List.take_left, List.take_left, hsize]
  rw [List.length_append]
  omega

/-- The second character of the second line. -/
example : offsetOf? ['a', '\n', 'λ', '(', '\n'] 2 2 = some 4 := by decide

/-- A line has no places behind its end. -/
example : offsetOf? ['a', '\n', 'λ', '(', '\n'] 1 3 = none := by decide

end Text

/-! ### Everything that a scan records -/

namespace Finding.StandsIn

variable {filename : Option String} {source : List Char} {f g : Finding}

/-- Of two findings in one source the one with the smaller offset is the one that a reader comes to
first. -/
theorem offset_lt_iff_precedes (hf : f.StandsIn filename source) (hg : g.StandsIn filename source) :
    f.location.offset < g.location.offset ↔ f.location.Precedes g.location := by
  obtain ⟨before, after, hsource, hstands⟩ := hf
  obtain ⟨before', after', hsource', hstands'⟩ := hg
  rw [List.append_assoc] at hsource hsource'
  rw [hstands.1, hstands'.1]
  exact Location.offset_lt_iff_precedes (hsource.symm.trans hsource')

/-- The line and the column of a finding lead to its offset. -/
theorem offsetOf?_eq (hf : f.StandsIn filename source) :
    Text.offsetOf? source f.location.line f.location.column = some f.location.offset := by
  obtain ⟨before, after, hsource, hstands⟩ := hf
  rw [hstands.1, hsource, List.append_assoc]
  exact Text.offsetOf?_after before (f.text ++ after)

end Finding.StandsIn

namespace Scanner

/-- What one complete scan records: the tokens that it gives, and then the characters that it
skips. -/
def records (source : String) (filename : Option String) : List Finding :=
  let (tokens, last) := (ofString source filename).drain
  tokens.map .token ++ last.skipped.map .skipped

theorem token_mem_records {source : String} {filename : Option String} {t : Token}
    (h : t ∈ (ofString source filename).drain.1) : .token t ∈ records source filename :=
  List.mem_append_left _ (List.mem_map_of_mem h)

theorem skipped_mem_records {source : String} {filename : Option String} {s : Skipped}
    (h : s ∈ (ofString source filename).drain.2.skipped) : .skipped s ∈ records source filename :=
  List.mem_append_right _ (List.mem_map_of_mem h)

/-- The records of a scan are what a reading of the source finds, first the tokens of it. -/
theorem exists_reading_records (source : String) (filename : Option String) :
    ∃ found, Reading filename source.toList found [] ∧ (records source filename).Perm found := by
  obtain ⟨found, hread, htokens⟩ := exists_hasRead_drain source filename
  have hreading := hread.reading
  rw [rest_drain] at hreading
  refine ⟨found, hreading, ?_⟩
  have hmerge := Finding.merge_tokens_skips hreading.pairwise_start_lt
  rw [htokens, ← hread.skipped_eq] at hmerge
  have hperm : (Finding.merge (ofString source filename).drain.1
      (ofString source filename).drain.2.skipped).Perm (records source filename) :=
    List.merge_perm_append _
  rw [hmerge] at hperm
  exact hperm.symm

/-- Every record stands in the source. -/
theorem standsIn_of_mem_records {source : String} {filename : Option String} {f : Finding}
    (h : f ∈ records source filename) : f.StandsIn filename source.toList := by
  obtain ⟨found, hreading, hperm⟩ := exists_reading_records source filename
  have hstands := hreading.standsIn f (hperm.mem_iff.1 h)
  rwa [List.append_nil] at hstands

/-- The offsets of the records of one scan, tokens and skipped characters in any mix, are in the
order of their lines and columns. So no two records share a line and a column, and walking there
over the lines of the source leads back to the offset. -/
theorem ordered_records (source : String) (filename : Option String) :
    let records := records source filename
    (∀ a ∈ records, ∀ b ∈ records,
      a.location.offset < b.location.offset ↔ a.location.Precedes b.location) ∧
    (records.map fun a => (a.location.line, a.location.column)).Nodup ∧
    ∀ a ∈ records,
      Text.offsetOf? source.toList a.location.line a.location.column = some a.location.offset := by
  intro records
  have horder : ∀ a ∈ records, ∀ b ∈ records,
      a.location.offset < b.location.offset ↔ a.location.Precedes b.location := by
    intro a ha b hb
    exact (standsIn_of_mem_records ha).offset_lt_iff_precedes (standsIn_of_mem_records hb)
  refine ⟨horder, ?_, ?_⟩
  · -- In the order of a reading each record has a greater offset than those before it.
    obtain ⟨found, hreading, hperm⟩ := exists_reading_records source filename
    rw [(hperm.map _).nodup_iff, List.Nodup, List.pairwise_map]
    refine hreading.pairwise_start_lt.imp_of_mem fun {a b} ha hb hlt heq => ?_
    have hprecedes := (horder a (hperm.mem_iff.2 ha) b (hperm.mem_iff.2 hb)).1 hlt
    rw [Prod.mk.injEq] at heq
    unfold Location.Precedes at hprecedes
    omega
  · intro a ha
    exact (standsIn_of_mem_records ha).offsetOf?_eq

end Scanner

end SexprLexer
