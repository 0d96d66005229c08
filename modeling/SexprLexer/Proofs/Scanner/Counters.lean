import Mathlib.Algebra.Group.Nat.Defs
import SexprLexer.Proofs.Diagnostic.Alignment
import SexprLexer.Proofs.Scanner.Machine

/-!
# Counters that fit into words

The counters of a scanner grow at different rates: the offset with each byte, the column with each
character, and the line with each line feed, which sets the column back. One inequality bounds them
all: the lines that are ended and the characters of the line that is not are no more than the bytes
that are read. Main statements: every step of a scan keeps this inequality (`Location.Bounded`,
`Machine.Ends.bounded`); in a source of less than `2 ^ 63` bytes no addition of a scan leaves the
range of machine words (`stepChecked_eq`), and no counter that it keeps or records does
(`counters_fit`).
-/

namespace SexprLexer

open Diagnostic (add?)

namespace Location

/-! ### One inequality for all counters -/

/-- The counters of a place in a source of `size` bytes: both are counted from one, and the lines
before the place and the characters before it on its line are no more than the bytes before it. -/
structure Bounded (size : Nat) (here : Location) : Prop where
  line_pos : 1 ≤ here.line
  column_pos : 1 ≤ here.column
  sum_le : (here.line - 1) + (here.column - 1) ≤ here.offset
  offset_le : here.offset ≤ size

namespace Bounded

variable {size : Nat} {here : Location}

/-- A source begins with nothing before it. -/
theorem start (size : Nat) (filename : Option String) : (Location.start filename).Bounded size :=
  ⟨Nat.le_refl 1, Nat.le_refl 1, Nat.le_refl 0, Nat.zero_le size⟩

/-- A character is one more line or one more column, and has at least one byte. -/
theorem advance (h : here.Bounded size) {c : Char} (hc : here.offset + c.utf8Size ≤ size) :
    (here.advance c).Bounded size := by
  have hpos := c.utf8Size_pos
  have hline := h.line_pos
  have hcolumn := h.column_pos
  have hsum := h.sum_le
  unfold Location.advance
  split
  · constructor <;> simp only <;> omega
  · constructor <;> simp only <;> omega

/-- So it is after any text. -/
theorem after (h : here.Bounded size) {text : List Char}
    (htext : here.offset + Text.byteSize text ≤ size) : (here.after text).Bounded size := by
  induction text generalizing here with
  | nil => exact h
  | cons c text ih =>
    rw [Text.byteSize_cons] at htext
    rw [after_cons]
    apply ih (h.advance (by omega))
    rw [advance_offset]
    omega

/-- The places of a source are bounded by its size. -/
theorem afterText (filename : Option String) (before after : List Char) :
    (Location.afterText filename before).Bounded (Text.byteSize (before ++ after)) := by
  rw [← after_start]
  apply (start _ filename).after
  rw [Text.byteSize_append, Location.start, Nat.zero_add]
  exact Nat.le_add_right _ _

end Bounded

/-- The counters of a place fit into machine words. -/
def Fits (here : Location) : Prop :=
  here.line < UInt64.size ∧ here.column < UInt64.size ∧ here.offset < UInt64.size

/-- Half of what a word can count is enough for any source that memory can hold. -/
theorem Bounded.fits {size : Nat} {here : Location} (h : here.Bounded size)
    (hsize : size < 2 ^ 63) : here.Fits := by
  have hword : UInt64.size = 2 ^ 63 + 2 ^ 63 := by decide
  have hline := h.line_pos
  have hcolumn := h.column_pos
  have hsum := h.sum_le
  have hoffset := h.offset_le
  refine ⟨?_, ?_, ?_⟩ <;> omega

/-- The place right after a character, by additions that can fail. -/
def advanceChecked (here : Location) (c : Char) : Option Location := do
  let offset ← add? here.offset c.utf8Size
  if c = '\n' then
    let line ← add? here.line 1
    some { here with line, column := 1, offset }
  else
    let column ← add? here.column 1
    some { here with column, offset }

end Location

namespace Scanner.Machine

variable {source : List Char} {m last : Machine} {visited : List Machine} {token : Option Token}

/-! ### The bounds of a scan -/

/-- A character that the machine sees ends within the source. -/
theorem add_utf8Size_le_of_charAt? {offset : Nat} {c : Char}
    (h : Text.charAt? source offset = some (some c)) :
    offset + c.utf8Size ≤ Text.byteSize source := by
  obtain ⟨⟨before, after⟩, hcut, hhead⟩ := Option.map_eq_some_iff.1 h
  obtain ⟨hsource, hsize⟩ := Text.cut?_eq_some_iff.1 hcut
  obtain ⟨rest, rfl⟩ := List.head?_eq_some_iff.1 hhead
  rw [hsource, Text.byteSize_append, Text.byteSize_cons]
  omega

/-- A lexeme that the machine takes ends within the source. -/
theorem add_byteSize_eq_of_slice? {start stop : Nat} {lexeme : List Char}
    (h : Text.slice? source start stop = some lexeme) :
    start + Text.byteSize lexeme = stop ∧ stop ≤ Text.byteSize source := by
  obtain ⟨before, after, hsource, hstart, hstop⟩ := Text.slice?_eq_some_iff.1 h
  refine ⟨hstop, ?_⟩
  rw [hsource, Text.byteSize_append, Text.byteSize_append]
  omega

/-- A step keeps the counters of the cursor bounded. -/
theorem bounded_step {next : Machine} (hm : m.here.Bounded (Text.byteSize source))
    (h : m.step source = .goesOn next) : next.here.Bounded (Text.byteSize source) := by
  unfold step at h
  cases hstate : m.state with
  | initial =>
    simp only [hstate] at h
    split at h
    · cases h
    · cases h
    · next c hc =>
      split at h
      · cases h
        exact hm.advance (add_utf8Size_le_of_charAt? hc)
      · cases h
        exact hm
      · cases h
        exact hm
  | identifier ahead =>
    simp only [hstate] at h
    split at h
    · cases h
    · cases h
      exact hm
    · split at h
      · cases h
        exact hm
      · cases h
        exact hm
  | emit kind stop =>
    simp only [hstate] at h
    split at h <;> cases h

/-- So it is along a whole run. -/
theorem Ends.bounded (h : Ends source m visited token last)
    (hm : m.here.Bounded (Text.byteSize source)) :
    ∀ m' ∈ visited, m'.here.Bounded (Text.byteSize source) := by
  induction h with
  | now h => simpa using hm
  | later h hnext ih => simpa [hm] using ih (bounded_step hm h)

/-! ### Steps in machine words -/

/-- One step, by additions that can fail. -/
def stepChecked (source : List Char) (m : Machine) : Option Result :=
  match m.state with
  | .initial =>
    match Text.charAt? source m.here.offset with
    | none => some .stuck
    | some none => some (.ends none m)
    | some (some c) => do
      let ahead ← add? m.here.offset c.utf8Size
      match Token.Kind.begunBy? c with
      | none =>
        let here ← m.here.advanceChecked c
        some (.goesOn { m with
          start := m.here.offset, here, skipped := m.skipped ++ Pull.recordOf m.here c })
      | some .identifier =>
        some (.goesOn { m with state := .identifier ahead, start := m.here.offset })
      | some kind => some (.goesOn { m with state := .emit kind ahead, start := m.here.offset })
  | .identifier ahead =>
    match Text.charAt? source ahead with
    | none => some .stuck
    | some none => some (.goesOn { m with state := .emit .identifier ahead })
    | some (some c) =>
      if isIdentifierSubsequent c then do
        let further ← add? ahead c.utf8Size
        some (.goesOn { m with state := .identifier further })
      else some (.goesOn { m with state := .emit .identifier ahead })
  | .emit kind stop =>
    match Text.slice? source m.start stop with
    | none => some .stuck
    | some lexeme => do
      let column ← add? m.here.column lexeme.length
      some (.ends (some ⟨kind, String.ofList lexeme, m.here⟩)
        { m with state := .initial, here := { m.here with column, offset := stop } })

/-- A sum that is no greater than the size of a source, and one, fits into a word. -/
theorem add?_eq {size i j : Nat} (hsize : size < 2 ^ 63) (h : i + j ≤ size + 1) :
    add? i j = some (i + j) := by
  have hword : UInt64.size = 2 ^ 63 + 2 ^ 63 := by decide
  exact if_pos (by omega)

/-- Passing over a character of the source does not leave the words. -/
theorem advanceChecked_eq {size : Nat} (hsize : size < 2 ^ 63) {here : Location} {c : Char}
    (h : here.Bounded size) (hc : here.offset + c.utf8Size ≤ size) :
    here.advanceChecked c = some (here.advance c) := by
  have hline := h.line_pos
  have hcolumn := h.column_pos
  have hsum := h.sum_le
  have hpos := c.utf8Size_pos
  have hoffset : add? here.offset c.utf8Size = some (here.offset + c.utf8Size) :=
    add?_eq hsize (by omega)
  have hnextLine : add? here.line 1 = some (here.line + 1) := add?_eq hsize (by omega)
  have hnextColumn : add? here.column 1 = some (here.column + 1) := add?_eq hsize (by omega)
  unfold Location.advanceChecked Location.advance
  simp only [hoffset, hnextLine, hnextColumn, Option.bind_eq_bind, Option.bind_some]
  split <;> rfl

/-- No step of the machine leaves the words, if the counters of its cursor are bounded and its
lexeme begins at the cursor. -/
theorem stepChecked_eq (hsize : Text.byteSize source < 2 ^ 63)
    (hm : m.here.Bounded (Text.byteSize source)) (hanchored : m.Anchored) :
    m.stepChecked source = some (m.step source) := by
  unfold stepChecked step
  cases hstate : m.state with
  | initial =>
    cases hchar : Text.charAt? source m.here.offset with
    | none => rfl
    | some next =>
      cases next with
      | none => rfl
      | some c =>
        have hend := add_utf8Size_le_of_charAt? hchar
        have hahead : add? m.here.offset c.utf8Size = some (m.here.offset + c.utf8Size) :=
          add?_eq hsize (by omega)
        have hadvance := advanceChecked_eq hsize hm hend
        simp only [hahead, hadvance, Option.bind_eq_bind, Option.bind_some]
        cases hkind : Token.Kind.begunBy? c with
        | none => rfl
        | some kind => cases kind <;> rfl
  | identifier ahead =>
    cases hchar : Text.charAt? source ahead with
    | none => simp only [hchar]
    | some next =>
      cases next with
      | none => simp only [hchar]
      | some c =>
        have hend := add_utf8Size_le_of_charAt? hchar
        have hfurther : add? ahead c.utf8Size = some (ahead + c.utf8Size) :=
          add?_eq hsize (by omega)
        simp only [hchar, hfurther, Option.bind_eq_bind, Option.bind_some]
        by_cases hc : isIdentifierSubsequent c = true
        · rw [if_pos hc, if_pos hc]
        · rw [if_neg hc, if_neg hc]
  | emit kind stop =>
    cases hslice : Text.slice? source m.start stop with
    | none => simp only [hslice]
    | some lexeme =>
      -- The characters before the lexeme on its line are before it in the source, and those of the
      -- lexeme are behind its beginning.
      have hstart : m.start = m.here.offset := hanchored (by simp [hstate])
      obtain ⟨hstop, hend⟩ := add_byteSize_eq_of_slice? hslice
      have hlength := Text.length_le_byteSize lexeme
      have hline := hm.line_pos
      have hcolumn := hm.column_pos
      have hsum := hm.sum_le
      have hadd : add? m.here.column lexeme.length = some (m.here.column + lexeme.length) :=
        add?_eq hsize (by omega)
      simp only [hslice, hadd, Option.bind_eq_bind, Option.bind_some]

end Scanner.Machine

/-- What is found where it stands in a source has a bounded place. -/
theorem Finding.StandsIn.bounded {filename : Option String} {source : List Char} {f : Finding}
    (h : f.StandsIn filename source) : f.location.Bounded (Text.byteSize source) := by
  obtain ⟨before, after, hsource, hstands⟩ := h
  rw [hstands.1, hsource, List.append_assoc]
  exact .afterText filename before (f.text ++ after)

namespace Scanner

/-- After any number of pulls the lines that are ended, and the characters of the line that is not,
are no more than the bytes that are read, and these are no more than those of the source; so it is
with the place of every token and every skipped character so far. It stays so while the next pull
goes through its states, and no offset at which it looks lies beyond the source. If the source has
less than `2 ^ 63` bytes, no addition in these states leaves the range of machine words, and no
counter does. -/
theorem counters_fit (source : String) (filename : Option String) (k : Nat) :
    let fresh := ofString source filename
    let s := fresh.afterPulls k
    let size := source.utf8ByteSize
    let places := s.here :: (fresh.given k).map (·.location) ++ s.skipped.map (·.location)
    (∀ here ∈ places, here.Bounded size) ∧
    (size < 2 ^ 63 → ∀ here ∈ places, here.Fits) ∧
    ∃ visited, Machine.Ends source.toList (.ofScanner s) visited s.next.1 (.ofScanner s.next.2) ∧
      (∀ m ∈ visited, m.here.Bounded size ∧ ∀ offset ∈ m.looksAt, offset ≤ size) ∧
      (size < 2 ^ 63 →
        ∀ m ∈ visited, m.stepChecked source.toList = some (m.step source.toList)) := by
  intro fresh s size places
  obtain ⟨read, found, hread, htokens⟩ := exists_hasRead source filename k
  have hsize : Text.byteSize source.toList = size := by
    rw [← Text.utf8ByteSize_ofList, String.ofList_toList]
  have hhere : s.here.Bounded size := by
    rw [← hsize, hread.source_eq, hread.here_eq]
    exact .afterText filename read s.rest
  have hfound : ∀ f ∈ found, f.location.Bounded size := by
    intro f hf
    rw [← hsize, hread.source_eq]
    exact (hread.reading.standsIn f hf).bounded
  have hplaces : ∀ here ∈ places, here.Bounded size := by
    intro here hmem
    rcases List.mem_append.1 hmem with hmem | hmem
    · rcases List.mem_cons.1 hmem with rfl | hmem
      · exact hhere
      · obtain ⟨t, ht, rfl⟩ := List.mem_map.1 hmem
        rw [← htokens] at ht
        exact hfound _ (Finding.mem_tokens.1 ht)
    · obtain ⟨x, hx, rfl⟩ := List.mem_map.1 hmem
      rw [hread.skipped_eq] at hx
      exact hfound _ (Finding.mem_skips.1 hx)
  refine ⟨hplaces, fun hlt here hmem => (hplaces here hmem).fits hlt, ?_⟩
  obtain ⟨visited, hends, -⟩ := Machine.exists_ends_ofText (m := .ofScanner s) hread.source_eq rfl
    hread.position_eq
  have hbounded : ∀ m ∈ visited, m.here.Bounded (Text.byteSize source.toList) :=
    hends.bounded (by rw [hsize]; exact hhere)
  have hanchored : ∀ m ∈ visited, m.Anchored := hends.anchored fun h => absurd rfl h
  refine ⟨visited, hends, fun m hm => ⟨hsize ▸ hbounded m hm, fun offset hoffset => ?_⟩, ?_⟩
  · have hstep := hends.step_ne_stuck m hm
    exact (Text.isValid_of_cut? (Machine.isSome_cut?_of_step hstep offset hoffset)).1
  · intro hlt m hm
    exact Machine.stepChecked_eq (hsize.symm ▸ hlt) (hbounded m hm) (hanchored m hm)

/-- A source with a line feed, a skipped character of two bytes and two tokens. -/
theorem counters_fit_lambda :
    "a\nλ(".utf8ByteSize < 2 ^ 63 ∧
    (⟨2, 1, 2, none⟩ : Location) ∈
      ((ofString "a\nλ(" none).afterPulls 2).skipped.map (·.location) ∧
    (⟨2, 1, 2, none⟩ : Location).Bounded 5 ∧ (⟨2, 1, 2, none⟩ : Location).Fits := by
  have hsize : "a\nλ(".utf8ByteSize < 2 ^ 63 := by decide
  have hmem : (⟨2, 1, 2, none⟩ : Location) ∈
      ((ofString "a\nλ(" none).afterPulls 2).skipped.map (·.location) := by decide +kernel
  obtain ⟨hbounded, hfits, -⟩ := counters_fit "a\nλ(" none 2
  exact ⟨hsize, hmem, hbounded _ (List.mem_append_right _ hmem),
    hfits hsize _ (List.mem_append_right _ hmem)⟩

end Scanner

end SexprLexer
