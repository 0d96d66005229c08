import SexprLexer.Proofs.Diagnostic.Color
import SexprLexer.Proofs.Diagnostic.Excerpt
import SexprLexer.Proofs.Text.Quotation

/-!
# Messages about tokens and characters

Tokens and characters are shown in messages whatever they hold, and a lexeme may be any text there.
Main statements: a token is told from its display but for its place (`Token.display_eq_iff`); the
diagnostic of a skipped character takes four rows (`Scanner.areRows_of_mem_skipped`); both, and that
no message goes on to another line (`messages_unambiguous`).
-/

namespace SexprLexer

/-! ### Tokens -/

namespace Token

/-- The name of a kind holds no parenthesis. -/
theorem Kind.paren_not_mem_name (kind : Kind) : '(' ∉ kind.name.toList := by
  cases kind <;> decide

/-- Kinds have names of their own. -/
theorem Kind.name_inj {kind kind' : Kind} : kind.name = kind'.name ↔ kind = kind' := by
  refine ⟨fun h => ?_, fun h => by rw [h]⟩
  revert h
  cases kind <;> cases kind' <;> decide

/-- The characters of a display. -/
theorem toList_display (t : Token) :
    t.display.toList =
      t.kind.name.toList ++ '(' :: ((Text.quoteText t.lexeme).toList ++ [')']) := by
  simp [display]

/-- A display tells the kind and the lexeme of a token, whatever the lexeme holds. -/
theorem display_eq_iff {t u : Token} :
    t.display = u.display ↔ t.kind = u.kind ∧ t.lexeme = u.lexeme := by
  rw [← String.toList_inj, toList_display, toList_display,
    Text.append_cons_inj t.kind.paren_not_mem_name u.kind.paren_not_mem_name, String.toList_inj,
    Kind.name_inj, Text.quoteText_append_inj]
  simp

/-- A display is one line. -/
theorem staysOnLine_display (t : Token) : Text.StaysOnLine t.display := by
  have hname : Text.StaysOnLine t.kind.name := by cases t.kind <;> decide
  have hopen : Text.StaysOnLine "(" := by decide
  have hclose : Text.StaysOnLine ")" := by decide
  exact ((hname.append hopen).append (.quoteText t.lexeme)).append hclose

end Token

/-! ### Diagnostics -/

/-- A line of a text holds no line feed. -/
theorem Text.newline_not_mem_of_mem_lines {text line : List Char} (h : line ∈ lines text) :
    '\n' ∉ line := by
  induction text using lines.induct generalizing line with
  | case1 => cases h
  | case2 text ih =>
    rcases List.mem_cons.1 h with rfl | h
    · exact List.not_mem_nil
    · exact ih h
  | case3 text ih =>
    rcases List.mem_cons.1 h with rfl | h
    · exact List.not_mem_nil
    · exact ih h
  | case4 c text hcrlf hnewline ih =>
    rw [lines] at h
    · rcases mem_consLine h with h | ⟨rest, rfl, hrest⟩
      · exact ih h
      · rw [List.mem_cons, not_or]
        refine ⟨fun hc => hnewline hc.symm, ?_⟩
        rcases hrest with rfl | hrest
        · exact List.not_mem_nil
        · exact ih hrest
    · exact hcrlf
    · exact hnewline

/-- A place is shown on one line if the name of its source is. -/
theorem Location.newline_not_mem_display {here : Location}
    (h : ∀ name, here.filename = some name → '\n' ∉ name.toList) : '\n' ∉ here.display.toList := by
  have hcolon : Text.StaysOnLine ":" := by decide
  have hplace : '\n' ∉ (toString here.line ++ ":" ++ toString here.column).toList :=
    (((Text.StaysOnLine.toString here.line).append hcolon).append
      (.toString here.column)).newline_not_mem
  unfold display
  cases hname : here.filename with
  | none => exact hplace
  | some name =>
    simp only [String.toList_append, List.mem_append, not_or] at hplace ⊢
    exact ⟨⟨h name hname, hcolon.newline_not_mem⟩, hplace⟩

namespace Diagnostic

open Text (plain styled)

/-- Nothing under a line goes on to another one. -/
theorem newline_not_mem_caretRow (severity : Severity) (number column : Nat) (line : List Char) :
    ∀ span ∈ caretRow severity number column line, '\n' ∉ span.text.toList := by
  have hpadding : '\n' ∉ List.replicate ((toString number).length + 3) ' ' ++
      caretPadding (line.take (column - 1)) := by
    intro hmem
    rcases List.mem_append.1 hmem with hmem | hmem
    · exact absurd (List.eq_of_mem_replicate hmem) (by decide)
    · obtain ⟨c, -, hc⟩ := List.mem_map.1 hmem
      by_cases htab : c = '\t'
      · simp [htab] at hc
      · simp [htab] at hc
  have hcaret : '\n' ∉ "^".toList := by decide
  simp only [caretRow, List.mem_cons, List.not_mem_nil, or_false, forall_eq_or_imp, forall_eq,
    plain, styled, String.toList_ofList]
  exact ⟨hpadding, hcaret⟩

/-- A diagnostic that has a line of its source to show takes four rows, if its heading, its message
and the name of the source are on one line. -/
theorem exists_areRows {d : Diagnostic} {source : String} {location : Location} {line : List Char}
    (hlocation : d.location = some location) (hline : lineAt? source location = some line)
    (hheading : '\n' ∉ d.heading.toList) (hmessage : '\n' ∉ d.message.toList)
    (hname : ∀ name, location.filename = some name → '\n' ∉ name.toList) (color : Bool) :
    ∃ rows, rows.length = 4 ∧ Text.AreRows ((d.withSource source).render color) rows := by
  have hshown : '\n' ∉ line := by
    rw [lineAt?] at hline
    split at hline
    · cases hline
    · exact Text.newline_not_mem_of_mem_lines (List.mem_of_getElem? hline)
  have hcolon : '\n' ∉ ": ".toList := by decide
  have hblank : '\n' ∉ " ".toList := by decide
  have hblanks : '\n' ∉ "  ".toList := by decide
  have harrow : '\n' ∉ "-->".toList := by decide
  have hplace := Location.newline_not_mem_display hname
  have hnumber := (Text.StaysOnLine.toString location.line).newline_not_mem
  have hcaret := newline_not_mem_caretRow d.severity location.line location.column line
  have hrows : ∀ row ∈ [d.headingRow, locationRow location, excerptRow location.line line,
      caretRow d.severity location.line location.column line],
      ∀ span ∈ row, '\n' ∉ span.text.toList := by
    simp only [List.mem_cons, List.not_mem_nil, or_false, forall_eq_or_imp, forall_eq, headingRow,
      locationRow, excerptRow, plain, styled, String.toList_append, String.toList_ofList,
      List.mem_append, not_or]
    exact ⟨⟨hheading, hcolon, hmessage⟩, ⟨hblanks, harrow, hblank, hplace⟩,
      ⟨hblanks, hnumber, hblank, hshown⟩, hcaret⟩
  have hare := Text.areRows_ofRows hrows color
  rw [← rows_withSource hlocation hline] at hare
  refine ⟨_, ?_, hare⟩
  rw [List.length_map, rows_withSource hlocation hline]
  rfl

end Diagnostic

namespace Scanner

/-- The source has a line to show for every character that a scanner has skipped. -/
theorem exists_lineAt?_of_mem_skipped {source : String} {filename : Option String} {k : Nat}
    {x : Skipped} (h : x ∈ ((ofString source filename).afterPulls k).skipped) :
    x.location.filename = filename ∧
      ∃ line, Diagnostic.lineAt? source x.location = some line := by
  obtain ⟨read, found, hread, -⟩ := exists_hasRead source filename k
  rw [hread.skipped_eq] at h
  obtain ⟨before, after, hsource, hplace, -, hblank⟩ :=
    hread.reading.standsIn _ (Finding.mem_skips.1 h)
  have hplace : x.location = .afterText filename before := hplace
  rw [← hread.source_eq, List.append_assoc] at hsource
  -- Both characters of a line end are blank, and no blank character is skipped.
  have hne : ∀ d, Text.isBlank d = true → x.character ≠ d := by
    rintro d hd rfl
    rw [hblank] at hd
    cases hd
  obtain ⟨more, hshows⟩ :=
    Diagnostic.exists_shows hsource hplace (hne '\n' (by decide)) (hne '\r' (by decide))
  obtain ⟨hpos, -, hline, -⟩ := hshows (.ofSkipped x) rfl
  refine ⟨by rw [hplace]; rfl, Text.lastLine before ++ x.character :: more, ?_⟩
  rw [Diagnostic.lineAt?, if_neg (by omega)]
  exact hline

/-- The warning and the error about a character that a scanner has skipped take four rows. -/
theorem areRows_of_mem_skipped {source : String} {filename : Option String} {k : Nat} {x : Skipped}
    (h : x ∈ ((ofString source filename).afterPulls k).skipped)
    (hname : ∀ name, filename = some name → '\n' ∉ name.toList) (color : Bool) :
    (∃ rows, rows.length = 4 ∧
      Text.AreRows (((Diagnostic.ofSkipped x).withSource source).render color) rows) ∧
    ∃ rows, rows.length = 4 ∧
      Text.AreRows (((Diagnostic.ofError x.toError).withSource source).render color) rows := by
  obtain ⟨hfilename, line, hline⟩ := exists_lineAt?_of_mem_skipped h
  rw [← hfilename] at hname
  have hskipped : Text.StaysOnLine "skipped character " := by decide
  have hunexpected : Text.StaysOnLine "unexpected character " := by decide
  have hwarning : '\n' ∉ (Diagnostic.ofSkipped x).message.toList :=
    (hskipped.append (.quoteChar x.character)).newline_not_mem
  have herror : '\n' ∉ (Diagnostic.ofError x.toError).message.toList :=
    (hunexpected.append (.quoteChar x.character)).newline_not_mem
  have hwarningHeading : '\n' ∉ (Diagnostic.ofSkipped x).heading.toList := by
    show '\n' ∉ "Warning".toList
    decide
  have herrorHeading : '\n' ∉ (Diagnostic.ofError x.toError).heading.toList := by
    show '\n' ∉ "Lexer Error".toList
    decide
  exact ⟨Diagnostic.exists_areRows rfl hline hwarningHeading hwarning hname color,
    Diagnostic.exists_areRows rfl hline herrorHeading herror hname color⟩

end Scanner

/-! ### Messages -/

/-- Whatever the lexemes of two tokens are, their displays are the same only if their kinds and
lexemes are. The messages about two unexpected characters, and those about two skipped ones, are the
same only if the characters are. None of these texts holds a control character, or a separator of
lines or paragraphs. So the warning and the error about any character that a scanner has skipped
take four rows with their source at hand, if the name of the source is on one line. -/
theorem messages_unambiguous :
    (∀ t u : Token, t.display = u.display ↔ t.kind = u.kind ∧ t.lexeme = u.lexeme) ∧
    (∀ (c d : Char) (here there : Location),
      (LexError.unexpectedCharacter c here).message =
        (LexError.unexpectedCharacter d there).message ↔ c = d) ∧
    (∀ x y : Skipped,
      (Diagnostic.ofSkipped x).message = (Diagnostic.ofSkipped y).message ↔
        x.character = y.character) ∧
    (∀ t : Token, Text.StaysOnLine t.display) ∧
    (∀ (c : Char) (here : Location),
      Text.StaysOnLine (LexError.unexpectedCharacter c here).message) ∧
    (∀ x : Skipped, Text.StaysOnLine (Diagnostic.ofSkipped x).message) ∧
    ∀ (source : String) (filename : Option String) (k : Nat) (color : Bool),
      (∀ name, filename = some name → '\n' ∉ name.toList) →
      ∀ x ∈ ((Scanner.ofString source filename).afterPulls k).skipped,
        ∀ d ∈ [Diagnostic.ofSkipped x, Diagnostic.ofError x.toError],
          ∃ rows, rows.length = 4 ∧ Text.AreRows ((d.withSource source).render color) rows := by
  have hskipped : Text.StaysOnLine "skipped character " := by decide
  have hunexpected : Text.StaysOnLine "unexpected character " := by decide
  refine ⟨fun t u => Token.display_eq_iff, fun c d here there => ?_, fun x y => ?_,
    Token.staysOnLine_display, fun c here => hunexpected.append (.quoteChar c),
    fun x => hskipped.append (.quoteChar x.character),
    fun source filename k color hname x hx => ?_⟩
  · show "unexpected character " ++ Text.quoteChar c =
      "unexpected character " ++ Text.quoteChar d ↔ _
    rw [String.append_right_inj, Text.quoteChar_inj]
  · show "skipped character " ++ Text.quoteChar x.character =
      "skipped character " ++ Text.quoteChar y.character ↔ _
    rw [String.append_right_inj, Text.quoteChar_inj]
  · obtain ⟨hwarning, herror⟩ := Scanner.areRows_of_mem_skipped hx hname color
    exact List.forall_mem_cons.2 ⟨hwarning, List.forall_mem_singleton.2 herror⟩

/-- A character that does not show, in a source whose name holds one that does not show either. -/
theorem messages_unambiguous_invisible :
    let x : Skipped := ⟨'\u200b', ⟨1, 2, 1, some "a\u200b"⟩⟩
    (∀ name, some "a\u200b" = some name → '\n' ∉ name.toList) ∧
    x ∈ ((Scanner.ofString "(\u200b" (some "a\u200b")).afterPulls 2).skipped ∧
    Diagnostic.ofSkipped x ∈ [Diagnostic.ofSkipped x, Diagnostic.ofError x.toError] ∧
    ∃ rows, rows.length = 4 ∧
      Text.AreRows (((Diagnostic.ofSkipped x).withSource "(\u200b").render true) rows := by
  intro x
  have hname : ∀ name, some "a\u200b" = some name → '\n' ∉ name.toList := by
    rintro name ⟨⟩
    decide
  have hmem : x ∈ ((Scanner.ofString "(\u200b" (some "a\u200b")).afterPulls 2).skipped := by
    decide +kernel
  obtain ⟨-, -, -, -, -, -, hrows⟩ := messages_unambiguous
  exact ⟨hname, hmem, List.mem_cons_self,
    hrows "(\u200b" (some "a\u200b") 2 true hname x hmem _ List.mem_cons_self⟩

end SexprLexer
