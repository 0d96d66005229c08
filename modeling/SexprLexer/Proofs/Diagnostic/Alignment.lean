import SexprLexer.Proofs.Diagnostic.Excerpt
import SexprLexer.Proofs.Scanner.Logging

/-!
# Carets under their characters

The line of an excerpt and the caret under it are two rows that are made in different ways: one of
the line's number and the line itself, the other of spaces and of the tabs that the line has. Main
statements: for any location, whether it belongs to the source or not, writing the diagnostic never
leaves the numbers and the lines that there are (`Diagnostic.renderChecked_eq`), an excerpt is shown
just for the lines that the source has, and its caret then stands in the cell of the character in
question, however wide tabs are (`Diagnostic.excerpt_aligned`).
-/

namespace SexprLexer

/-! ### Cells of a terminal -/

namespace Text

/-- The cell after `text` on a terminal that has a tab stop every `tab` cells, if `text` begins in
the cell `start`. A tab goes on to the next tab stop, and every other character takes one cell. -/
def cellAfter (tab : Nat) (start : Nat) (text : List Char) : Nat :=
  text.foldl (fun cell c => if c = '\t' then (cell / tab + 1) * tab else cell + 1) start

/-- The cell of the character with the number `index` in a row, both counted from zero. For the
length of the row this is the cell right after it. -/
def cellAt (tab : Nat) (row : List Char) (index : Nat) : Nat := cellAfter tab 0 (row.take index)

variable (tab start : Nat)

theorem cellAfter_append (text more : List Char) :
    cellAfter tab start (text ++ more) = cellAfter tab (cellAfter tab start text) more :=
  List.foldl_append

/-- Without tabs there is one cell for each character. -/
theorem cellAfter_of_not_mem {text : List Char} (h : '\t' ∉ text) :
    cellAfter tab start text = start + text.length := by
  induction text generalizing start with
  | nil => rfl
  | cons c text ih =>
    rw [List.mem_cons, not_or] at h
    have hstep : cellAfter tab start (c :: text) = cellAfter tab (start + 1) text := by
      rw [cellAfter, List.foldl_cons, if_neg (Ne.symm h.1)]
      rfl
    rw [hstep, ih _ h.2, List.length_cons]
    omega

/-- The padding under some characters takes the cells that they take. -/
theorem cellAfter_caretPadding (before : List Char) :
    cellAfter tab start (Diagnostic.caretPadding before) = cellAfter tab start before := by
  rw [cellAfter, Diagnostic.caretPadding, List.foldl_map, cellAfter]
  congr 1
  funext cell c
  by_cases hc : c = '\t'
  · simp [hc]
  · simp [hc]

example : cellAt 8 ['(', 'a', '\t', 'λ', ')'] 3 = 8 := by decide

end Text

namespace Diagnostic

open Text (Row plain styled)

/-! ### The rows in machine arithmetic -/

/-- Subtraction of machine words, which fails below zero. -/
def sub? (m n : Nat) : Option Nat := if n ≤ m then some (m - n) else none

/-- Addition of machine words, which fails where the sum does not fit into a word. -/
def add? (m n : Nat) : Option Nat := if m + n < UInt64.size then some (m + n) else none

/-- The rows that show the source at `location`, made by arithmetic and lookups that can fail. Only
the subtraction in the column is one that stops at zero. -/
def contextRowsChecked (d : Diagnostic) (location : Location) : Option (List Row) :=
  match d.source with
  | none => some []
  | some source =>
    let lines := Text.lines source.toList
    if location.line = 0 ∨ lines.length < location.line then some []
    else do
      let index ← sub? location.line 1
      let line ← lines[index]?
      let width ← add? (toString location.line).length 3
      let padding := List.replicate width ' ' ++ caretPadding (line.take (location.column - 1))
      some [excerptRow location.line line,
        [plain (String.ofList padding), styled d.severity.style "^"]]

/-- A diagnostic as it is written, by arithmetic and lookups that can fail. -/
def renderChecked (d : Diagnostic) (color : Bool) : Option String :=
  match d.location with
  | none => some (Text.render color (Text.ofRows [d.headingRow]))
  | some location => do
    let context ← d.contextRowsChecked location
    some (Text.render color (Text.ofRows (d.headingRow :: locationRow location :: context)))

/-- The number of a line that a word holds is at most twenty digits long. -/
theorem length_toString_le {n : Nat} (h : n < UInt64.size) : (toString n).length ≤ 20 :=
  (Nat.length_repr_le_iff (by decide)).2 (Nat.lt_trans h (by decide))

/-- A source has a line for the numbers from one up to the number of its lines. -/
theorem lineAt?_eq_none_iff {source : String} {location : Location} :
    lineAt? source location = none ↔
      location.line = 0 ∨ (Text.lines source.toList).length < location.line := by
  rw [lineAt?]
  by_cases hzero : location.line = 0
  · rw [if_pos hzero]
    exact iff_of_true rfl (.inl hzero)
  · rw [if_neg hzero, List.getElem?_eq_none_iff]
    omega

/-- The line at a location is one of the lines of the source. -/
theorem lineAt?_eq_some {source : String} {location : Location} {line : List Char}
    (h : lineAt? source location = some line) :
    1 ≤ location.line ∧ location.line ≤ (Text.lines source.toList).length ∧
      (Text.lines source.toList)[location.line - 1]? = some line := by
  rw [lineAt?] at h
  by_cases hzero : location.line = 0
  · rw [if_pos hzero] at h
    cases h
  · rw [if_neg hzero] at h
    have hlt := (List.getElem?_eq_some_iff.1 h).1
    exact ⟨by omega, by omega, h⟩

/-- No step of making the rows fails, wherever the location points. -/
theorem contextRowsChecked_eq (d : Diagnostic) {location : Location}
    (h : location.line < UInt64.size) :
    d.contextRowsChecked location = some (d.contextRows location) := by
  cases hsource : d.source with
  | none => simp only [contextRowsChecked, contextRows, hsource, Option.bind_none]
  | some source =>
    simp only [contextRowsChecked, contextRows, hsource, Option.bind_some]
    cases hline : lineAt? source location with
    | none => rw [if_pos (lineAt?_eq_none_iff.1 hline)]
    | some line =>
      obtain ⟨hpos, hle, hindex⟩ := lineAt?_eq_some hline
      have hsub : sub? location.line 1 = some (location.line - 1) := if_pos hpos
      have hadd : add? (toString location.line).length 3 =
          some ((toString location.line).length + 3) := by
        have hdigits := length_toString_le h
        have hsize : 23 < UInt64.size := by decide
        exact if_pos (by omega)
      rw [if_neg (by omega)]
      simp only [hsub, hindex, hadd, Option.bind_eq_bind, Option.bind_some]
      rfl

/-- Writing a diagnostic never fails. -/
theorem renderChecked_eq (d : Diagnostic) (color : Bool)
    (h : ∀ location, d.location = some location → location.line < UInt64.size) :
    d.renderChecked color = some (d.render color) := by
  rw [renderChecked, render, rows]
  cases hlocation : d.location with
  | none => rfl
  | some location =>
    simp only [contextRowsChecked_eq d (h location hlocation), Option.bind_eq_bind,
      Option.bind_some]

/-! ### The caret and the excerpt -/

/-- What stands before the line in an excerpt: its number, set off by spaces. -/
def gutter (number : Nat) : String := "  " ++ toString number ++ " "

theorem length_gutter (number : Nat) :
    (gutter number).toList.length = (toString number).length + 3 := by
  have hleft : "  ".toList.length = 2 := rfl
  have hright : " ".toList.length = 1 := rfl
  rw [gutter, String.toList_append, String.toList_append, List.length_append, List.length_append,
    hleft, hright, String.length_toList]
  omega

theorem tab_not_mem_gutter (number : Nat) : '\t' ∉ (gutter number).toList := by
  intro hmem
  rw [gutter, String.toList_append, String.toList_append] at hmem
  rcases List.mem_append.1 hmem with hmem | hmem
  · rcases List.mem_append.1 hmem with hmem | hmem
    · revert hmem
      decide
    · exact absurd (Text.isDigit_of_mem_toString hmem) (by decide)
  · revert hmem
    decide

/-- The row with the line, without color. -/
theorem render_excerptRow (number : Nat) (line : List Char) :
    Text.render false (excerptRow number line) = gutter number ++ String.ofList line := by
  simp [excerptRow, Text.Span.render, plain, styled, gutter, String.append_assoc]

/-- The row with the caret, without color. -/
theorem toList_render_caretRow (severity : Severity) (number column : Nat) (line : List Char) :
    (Text.render false (caretRow severity number column line)).toList =
      List.replicate (gutter number).toList.length ' ' ++
        caretPadding (line.take (column - 1)) ++ ['^'] := by
  rw [length_gutter]
  simp [caretRow, Text.Span.render, plain, styled]

/-- No caret is among what stands before the caret. -/
theorem caret_not_mem_padding (width : Nat) (before : List Char) :
    '^' ∉ List.replicate width ' ' ++ caretPadding before := by
  intro hmem
  rcases List.mem_append.1 hmem with hmem | hmem
  · have := List.eq_of_mem_replicate hmem
    revert this
    decide
  · obtain ⟨c, -, hc⟩ := List.mem_map.1 hmem
    by_cases htab : c = '\t'
    · simp [htab] at hc
    · simp [htab] at hc

/-- Where the characters of the line stand in the row that shows it. -/
theorem cellAt_gutter_append (tab number : Nat) (line : List Char) (n : Nat) :
    Text.cellAt tab ((gutter number).toList ++ line) ((gutter number).toList.length + n) =
      Text.cellAfter tab (gutter number).toList.length (line.take n) := by
  rw [Text.cellAt, List.take_length_add_append, Text.cellAfter_append,
    Text.cellAfter_of_not_mem tab 0 (tab_not_mem_gutter number), Nat.zero_add]

/-- The rows `excerpt` and `caret` show the line with the number `number` and point at the
character in the column `column` of it, or at the first character for the column zero. -/
structure PointsAt (number column : Nat) (line excerpt caret : List Char) : Prop where
  /-- The line comes after its number. -/
  excerpt_eq : excerpt = (gutter number).toList ++ line
  /-- There is one caret, and nothing comes after it. -/
  caret_eq : ∃ padding, caret = padding ++ ['^'] ∧ '^' ∉ padding
  /-- The caret is in the cell of the character, or right after a line that is too short. -/
  cell_eq : ∀ tab, Text.cellAt tab caret (caret.idxOf '^') =
    if max column 1 ≤ line.length then
      Text.cellAt tab excerpt ((gutter number).toList.length + (max column 1 - 1))
    else Text.cellAt tab excerpt excerpt.length

/-- The rows of an excerpt point at the column that they are made for. -/
theorem pointsAt_rows (severity : Severity) (number column : Nat) (line : List Char) :
    PointsAt number column line (Text.render false (excerptRow number line)).toList
      (Text.render false (caretRow severity number column line)).toList := by
  have hexcerpt : (Text.render false (excerptRow number line)).toList =
      (gutter number).toList ++ line := by
    rw [render_excerptRow, String.toList_append, String.toList_ofList]
  have hcaret := toList_render_caretRow severity number column line
  have hunique := caret_not_mem_padding (gutter number).toList.length (line.take (column - 1))
  refine ⟨hexcerpt, ⟨_, hcaret, hunique⟩, fun tab => ?_⟩
  -- Spaces take the cells of the number, and the padding those of the characters before the column.
  have hcell : Text.cellAt tab (Text.render false (caretRow severity number column line)).toList
      ((Text.render false (caretRow severity number column line)).toList.idxOf '^') =
      Text.cellAfter tab (gutter number).toList.length (line.take (column - 1)) := by
    have hspaces : '\t' ∉ List.replicate (gutter number).toList.length ' ' := by
      intro hmem
      exact absurd (List.eq_of_mem_replicate hmem) (by decide)
    rw [hcaret, List.idxOf_append_of_notMem hunique, List.idxOf_cons_self, Nat.add_zero,
      Text.cellAt, List.take_left, Text.cellAfter_append, Text.cellAfter_of_not_mem tab 0 hspaces,
      List.length_replicate, Nat.zero_add, Text.cellAfter_caretPadding]
  rw [hcell, hexcerpt]
  split
  · next hle =>
    rw [cellAt_gutter_append, show max column 1 - 1 = column - 1 by omega]
  · next hlt =>
    rw [List.length_append, cellAt_gutter_append, List.take_length,
      List.take_of_length_le (by omega)]

/-- A tab before the caret stays a tab. -/
example : Text.render false (caretRow .warning 1 4 ['(', 'a', '\t', '#', ')']) = "      \t^" := by
  cbv

/-- Whatever the words that hold its line and its column, and whatever the source, a diagnostic is
written without leaving the range of the words or the lines of the source. It shows an excerpt just
if the source has the line, and then the caret points at the column. -/
theorem excerpt_aligned (d : Diagnostic) (line column : UInt64) (offset : Nat)
    (filename : Option String) (source : String) :
    let location : Location := ⟨line.toNat, column.toNat, offset, filename⟩
    let placed := { d with location := some location }.withSource source
    let lines := Text.lines source.toList
    let opening := [d.headingRow, locationRow location]
    let context := placed.contextRows location
    (∀ color, placed.renderChecked color = some (placed.render color)) ∧
    (∀ color, placed.render color = Text.render color (Text.ofRows (opening ++ context))) ∧
    (context ≠ [] ↔ 1 ≤ line.toNat ∧ line.toNat ≤ lines.length) ∧
    (context ≠ [] → ∃ text excerpt caret, lines[line.toNat - 1]? = some text ∧
      placed.render false =
        Text.render false (Text.ofRows opening) ++ excerpt ++ "\n" ++ caret ++ "\n" ∧
      PointsAt line.toNat column.toNat text excerpt.toList caret.toList) := by
  intro location placed lines opening context
  have hchecked : ∀ color, placed.renderChecked color = some (placed.render color) := by
    intro color
    refine placed.renderChecked_eq color fun there hthere => ?_
    rw [← Option.some.inj hthere]
    exact line.toNat_lt_size
  refine ⟨hchecked, fun color => rfl, ?_⟩
  cases hline : lineAt? source location with
  | none =>
    have hcontext : context = [] := by
      show placed.contextRows location = []
      unfold contextRows
      rw [show placed.source = some source from rfl, Option.bind_some, hline]
    have houtside : line.toNat = 0 ∨ lines.length < line.toNat := lineAt?_eq_none_iff.1 hline
    exact ⟨iff_of_false (fun hne => hne hcontext) (by omega), fun hne => absurd hcontext hne⟩
  | some text =>
    have hcontext : context =
        [excerptRow line.toNat text, caretRow d.severity line.toNat column.toNat text] :=
      contextRows_withSource { d with location := some location } hline
    obtain ⟨hpos, hle, hnumber⟩ := lineAt?_eq_some hline
    have hne : context ≠ [] := by
      rw [hcontext]
      exact List.cons_ne_nil _ _
    have hrender : placed.render false = Text.render false (Text.ofRows (opening ++ context)) := rfl
    refine ⟨iff_of_true hne ⟨hpos, hle⟩, fun _ => ⟨text, _, _, hnumber, ?_,
      pointsAt_rows d.severity line.toNat column.toNat text⟩⟩
    rw [hrender, hcontext]
    simp [Text.ofRows, opening, Text.Span.render, plain, String.append_assoc]

end Diagnostic

end SexprLexer
