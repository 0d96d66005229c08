import SexprLexer.Text.Styled

/-!
# Texts row by row

What is written for a terminal consists of rows, and each of them is ended by a line feed. Main
statements: a text is made of rows without line feeds in one way only (`AreRows.unique`); spans
without line feeds are written as such rows, with and without color (`areRows_ofRows`).
-/

namespace SexprLexer.Text

/-- What stands before and after the first place of a character is told from the whole. -/
theorem append_cons_inj {α : Type} {x : α} {first first' rest rest' : List α} (h : x ∉ first)
    (h' : x ∉ first') :
    first ++ x :: rest = first' ++ x :: rest' ↔ first = first' ∧ rest = rest' := by
  refine ⟨fun heq => ?_, fun ⟨hfirst, hrest⟩ => by rw [hfirst, hrest]⟩
  induction first generalizing first' with
  | nil =>
    cases first' with
    | nil => exact ⟨rfl, (List.cons.inj heq).2⟩
    | cons y first' =>
      obtain ⟨rfl, -⟩ := List.cons.inj heq
      exact absurd List.mem_cons_self h'
  | cons y first ih =>
    cases first' with
    | nil =>
      obtain ⟨rfl, -⟩ := List.cons.inj heq
      exact absurd List.mem_cons_self h
    | cons z first' =>
      obtain ⟨rfl, htail⟩ := List.cons.inj heq
      rw [List.mem_cons, not_or] at h h'
      obtain ⟨rfl, hrest⟩ := ih h.2 h'.2 htail
      exact ⟨rfl, hrest⟩

/-! ### Rows -/

/-- The rows of a text: each is ended by a line feed, and holds no other. -/
structure AreRows (text : String) (rows : List String) : Prop where
  text_eq : text = String.join (rows.map (· ++ "\n"))
  newline_not_mem : ∀ row ∈ rows, '\n' ∉ row.toList

/-- The rows of a text are determined by the text. -/
theorem AreRows.unique {text : String} {rows rows' : List String} (h : AreRows text rows)
    (h' : AreRows text rows') : rows = rows' := by
  obtain ⟨htext, hrows⟩ := h
  obtain ⟨htext', hrows'⟩ := h'
  rw [htext] at htext'
  clear htext
  -- The first row ends at the first line feed.
  have hsplit : ∀ (row : String) (more : List String),
      (String.join ((row :: more).map (· ++ "\n"))).toList =
        row.toList ++ '\n' :: (String.join (more.map (· ++ "\n"))).toList := by
    intro row more
    simp [String.join_cons, String.toList_append]
  induction rows generalizing rows' with
  | nil =>
    cases rows' with
    | nil => rfl
    | cons row' rows' =>
      have hnil := congrArg String.toList htext'
      rw [hsplit] at hnil
      simp at hnil
  | cons row rows ih =>
    cases rows' with
    | nil =>
      have hnil := congrArg String.toList htext'
      rw [hsplit] at hnil
      simp at hnil
    | cons row' rows' =>
      rw [List.forall_mem_cons] at hrows hrows'
      have heq := congrArg String.toList htext'
      rw [hsplit, hsplit] at heq
      obtain ⟨hfirst, hrest⟩ := (append_cons_inj hrows.1 hrows'.1).1 heq
      rw [String.toList_injective hfirst,
        ih hrows.2 (String.toList_injective hrest) hrows'.2]

/-! ### Spans in rows -/

/-- A text that does not stand out is written as it is. -/
theorem render_plain (color : Bool) (text : String) : render color [plain text] = text := by
  cases color <;> simp [Span.render, plain]

/-- The control sequences of a style hold no line feed. -/
theorem newline_not_mem_sequences (style : Style) :
    '\n' ∉ (String.join (style.parameters.map controlSequence)).toList := by
  cases style <;> decide

/-- A span is written on one row if its text is. -/
theorem newline_not_mem_span {span : Span} (h : '\n' ∉ span.text.toList) (color : Bool) :
    '\n' ∉ (span.render color).toList := by
  obtain ⟨style, text⟩ := span
  cases color with
  | false => exact h
  | true =>
    cases style with
    | none => exact h
    | some style =>
      intro hmem
      have hrender : Span.render true ⟨some style, text⟩ =
          String.join (style.parameters.map controlSequence) ++ text ++ controlSequence "0" := rfl
      rw [hrender, String.toList_append, String.toList_append, List.mem_append,
        List.mem_append] at hmem
      rcases hmem with (hmem | hmem) | hmem
      · exact newline_not_mem_sequences style hmem
      · exact h hmem
      · revert hmem
        decide

/-- Spans are written on one row if their texts are. -/
theorem newline_not_mem_render {row : Row} (h : ∀ span ∈ row, '\n' ∉ span.text.toList)
    (color : Bool) : '\n' ∉ (render color row).toList := by
  induction row with
  | nil => exact List.not_mem_nil
  | cons span row ih =>
    rw [List.forall_mem_cons] at h
    rw [render_cons, String.toList_append, List.mem_append, not_or]
    exact ⟨newline_not_mem_span h.1 color, ih h.2⟩

/-- Rows are written one after the other, each with its end. -/
theorem render_ofRows (color : Bool) (rows : List Row) :
    render color (ofRows rows) = String.join ((rows.map (render color)).map (· ++ "\n")) := by
  induction rows with
  | nil => rfl
  | cons row rows ih =>
    have hrows : ofRows (row :: rows) = row ++ [plain "\n"] ++ ofRows rows := rfl
    rw [hrows, render_append, render_append, render_plain, ih, List.map_cons, List.map_cons,
      String.join_cons]

/-- Rows of spans without line feeds are the rows of what is written. -/
theorem areRows_ofRows {rows : List Row} (h : ∀ row ∈ rows, ∀ span ∈ row, '\n' ∉ span.text.toList)
    (color : Bool) : AreRows (render color (ofRows rows)) (rows.map (render color)) := by
  refine ⟨render_ofRows color rows, fun text htext => ?_⟩
  obtain ⟨row, hrow, rfl⟩ := List.mem_map.1 htext
  exact newline_not_mem_render (h row hrow) color

end SexprLexer.Text
