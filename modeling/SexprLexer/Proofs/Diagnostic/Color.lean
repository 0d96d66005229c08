import SexprLexer.Diagnostic
import SexprLexer.Proofs.Text.ControlSequences

/-!
# Diagnostics with and without color

A diagnostic shows texts that come from elsewhere: a message, the name of a source and a line of
it. Main statement: where the escape character is in none of them, all spans of the diagnostic are
sound, so that color is decoration of it (`Diagnostic.decorates_render`).
-/

namespace SexprLexer

namespace Text

/-- A character that is put before some lines is put before one of them, or makes one. -/
theorem mem_consLine {α : Type} {x : α} {line : List α} {lines : List (List α)}
    (h : line ∈ consLine x lines) :
    line ∈ lines ∨ ∃ rest, line = x :: rest ∧ (rest = [] ∨ rest ∈ lines) := by
  cases lines with
  | nil => exact .inr ⟨[], List.mem_singleton.1 h, .inl rfl⟩
  | cons first lines =>
    rcases List.mem_cons.1 h with rfl | h
    · exact .inr ⟨first, rfl, .inr List.mem_cons_self⟩
    · exact .inl (List.mem_cons_of_mem first h)

/-- The lines of a text hold nothing but its characters. -/
theorem mem_of_mem_lines {text line : List Char} (hline : line ∈ lines text) {c : Char}
    (hc : c ∈ line) : c ∈ text := by
  induction text using lines.induct generalizing line with
  | case1 => cases hline
  | case2 text ih =>
    rcases List.mem_cons.1 hline with rfl | hline
    · cases hc
    · exact List.mem_cons_of_mem _ (List.mem_cons_of_mem _ (ih hline hc))
  | case3 text ih =>
    rcases List.mem_cons.1 hline with rfl | hline
    · cases hc
    · exact List.mem_cons_of_mem _ (ih hline hc)
  | case4 d text hcrlf hnewline ih =>
    rw [lines] at hline
    · rcases mem_consLine hline with hline | ⟨rest, rfl, hrest⟩
      · exact List.mem_cons_of_mem d (ih hline hc)
      · rcases List.mem_cons.1 hc with rfl | hc
        · exact List.mem_cons_self
        · rcases hrest with rfl | hrest
          · cases hc
          · exact List.mem_cons_of_mem d (ih hrest hc)
    · exact hcrlf
    · exact hnewline

end Text

/-- A place is shown with the name of its source, and else with digits. -/
theorem Location.escapeFree_display {here : Location}
    (h : ∀ name, here.filename = some name → Text.EscapeFree name) :
    Text.EscapeFree here.display := by
  have hplace : Text.EscapeFree (toString here.line ++ ":" ++ toString here.column) :=
    ((Text.EscapeFree.toString _).append (by decide)).append (.toString _)
  unfold display
  cases hname : here.filename with
  | none => exact hplace
  | some name => exact ((h name hname).append (by decide)).append hplace

namespace Diagnostic

open Text (plain styled)

/-- The diagnostics that there are: those of errors and of skipped characters, with any source or
none at hand. -/
inductive Made : Diagnostic → Prop
  | ofError (e : LexError) : Made (ofError e)
  | ofSkipped (s : Skipped) : Made (ofSkipped s)
  | withSource {d : Diagnostic} (h : Made d) (source : String) : Made (d.withSource source)

/-- Whether the escape character is in nothing that a diagnostic shows of what it is told: its
message, the name of the source at its place and the source at hand. -/
structure EscapeFree (d : Diagnostic) : Prop where
  message : Text.EscapeFree d.message
  filename : ∀ location, d.location = some location →
    ∀ name, location.filename = some name → Text.EscapeFree name
  source : ∀ source, d.source = some source → Text.EscapeFree source

/-- There are three headings. -/
theorem Made.heading_mem {d : Diagnostic} (h : d.Made) :
    d.heading ∈ ["Lexer Error", "I/O Error", "Warning"] := by
  induction h with
  | ofError e =>
    cases e with
    | unexpectedCharacter c location => exact List.mem_cons_self
    | unreadable path message => exact List.mem_cons_of_mem _ List.mem_cons_self
  | ofSkipped s => exact List.mem_cons_of_mem _ (List.mem_cons_of_mem _ List.mem_cons_self)
  | withSource h source ih => exact ih

variable {d : Diagnostic}

theorem isSound_headingRow (hmade : d.Made) (h : d.EscapeFree) :
    ∀ span ∈ d.headingRow, span.IsSound := by
  have htable : ∀ heading ∈ ["Lexer Error", "I/O Error", "Warning"],
      Text.EscapeFree heading ∧ '\n' ∉ heading.toList := by decide
  obtain ⟨hfree, hrow⟩ := htable _ hmade.heading_mem
  rw [headingRow, List.forall_mem_cons, List.forall_mem_singleton]
  have hcolon : Text.EscapeFree ": " := by decide
  exact ⟨Text.isSound_styled _ hfree hrow, Text.isSound_plain (hcolon.append h.message)⟩

theorem isSound_locationRow {location : Location}
    (h : ∀ name, location.filename = some name → Text.EscapeFree name) :
    ∀ span ∈ locationRow location, span.IsSound := by
  have hblank : Text.EscapeFree " " := by decide
  rw [locationRow, List.forall_mem_cons, List.forall_mem_cons, List.forall_mem_singleton]
  exact ⟨Text.isSound_plain (by decide), Text.isSound_styled _ (by decide) (by decide),
    Text.isSound_plain (hblank.append (Location.escapeFree_display h))⟩

theorem isSound_excerptRow (number : Nat) {line : List Char}
    (h : Text.escapeCharacter ∉ line) : ∀ span ∈ excerptRow number line, span.IsSound := by
  have hblank : Text.EscapeFree " " := by decide
  have hline : Text.EscapeFree (String.ofList line) := by
    rwa [Text.EscapeFree, String.toList_ofList]
  have hdigits : '\n' ∉ (toString number).toList :=
    fun hmem => absurd (Text.isDigit_of_mem_toString hmem) (by decide)
  rw [excerptRow, List.forall_mem_cons, List.forall_mem_cons, List.forall_mem_singleton]
  exact ⟨Text.isSound_plain (by decide), Text.isSound_styled _ (.toString number) hdigits,
    Text.isSound_plain (hblank.append hline)⟩

/-- The padding before a caret is made of spaces and tabs. -/
theorem isSound_caretRow (severity : Severity) (number column : Nat) (line : List Char) :
    ∀ span ∈ caretRow severity number column line, span.IsSound := by
  have hpadding : ∀ width before,
      Text.EscapeFree (String.ofList (List.replicate width ' ' ++ caretPadding before)) := by
    intro width before
    apply Text.EscapeFree.of_isShown
    intro c hc
    rw [String.toList_ofList] at hc
    rcases List.mem_append.1 hc with hc | hc
    · rw [List.eq_of_mem_replicate hc]
      decide
    · obtain ⟨d, -, rfl⟩ := List.mem_map.1 hc
      by_cases hd : d = '\t'
      · rw [if_pos hd]
        decide
      · rw [if_neg hd]
        decide
  rw [caretRow, List.forall_mem_cons, List.forall_mem_singleton]
  exact ⟨Text.isSound_plain (hpadding _ _), Text.isSound_styled _ (by decide) (by decide)⟩

theorem isSound_contextRows (h : d.EscapeFree) (location : Location) :
    ∀ row ∈ d.contextRows location, ∀ span ∈ row, span.IsSound := by
  unfold contextRows
  cases hline : d.source.bind (lineAt? · location) with
  | none => exact List.forall_mem_nil _
  | some line =>
    obtain ⟨source, hsource, hline⟩ := Option.bind_eq_some_iff.1 hline
    have hmem : line ∈ Text.lines source.toList := by
      rw [lineAt?] at hline
      split at hline
      · cases hline
      · exact List.mem_of_getElem? hline
    have hfree : Text.escapeCharacter ∉ line :=
      fun hescape => h.source source hsource (Text.mem_of_mem_lines hmem hescape)
    rw [List.forall_mem_cons, List.forall_mem_singleton]
    exact ⟨isSound_excerptRow _ hfree, isSound_caretRow _ _ _ _⟩

/-- All rows of a diagnostic are sound if the escape character is in nothing that it is told. -/
theorem isSound_rows (hmade : d.Made) (h : d.EscapeFree) :
    ∀ row ∈ d.rows, ∀ span ∈ row, span.IsSound := by
  unfold rows
  rw [List.forall_mem_cons]
  refine ⟨isSound_headingRow hmade h, ?_⟩
  cases hlocation : d.location with
  | none => exact List.forall_mem_nil _
  | some location =>
    rw [List.forall_mem_cons]
    exact ⟨isSound_locationRow (h.filename location hlocation), isSound_contextRows h location⟩

/-- Color is decoration of a diagnostic. -/
theorem decorates_render (hmade : d.Made) (h : d.EscapeFree) :
    Text.Decorates (d.render true) (d.render false) :=
  Text.decorates_render (Text.isSound_ofRows (isSound_rows hmade h))

end Diagnostic

end SexprLexer
