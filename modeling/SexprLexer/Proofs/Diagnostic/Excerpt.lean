import SexprLexer.Diagnostic
import SexprLexer.Proofs.Scanner.Run

/-!
# Excerpts at recorded places

A scanner counts lines by their line feeds. A diagnostic divides the source anew, and there a
carriage return may belong to the line end. Main statements: a character that is no part of a line
end stands, after the characters that come before it on its line, in the line of the number that
the scanner has counted (`Text.exists_getElem?_lines`); the diagnostic of a skipped character shows
this line, with the caret under the character (`Scanner.shows_of_mem_skipped`).
-/

namespace SexprLexer

namespace Text

/-- A character that is put before some lines goes to the first of them. -/
theorem getElem?_consLine_zero {α : Type} (x : α) (lines : List (List α)) :
    (consLine x lines)[0]? = some (x :: lines[0]?.getD []) := by
  cases lines with
  | nil => rfl
  | cons line lines => rfl

/-- A character that is put before some lines leaves the others as they are. -/
theorem getElem?_consLine_succ {α : Type} (x : α) (lines : List (List α)) (n : Nat) :
    (consLine x lines)[n + 1]? = lines[n + 1]? := by
  cases lines with
  | nil => rfl
  | cons line lines => rfl

/-- A character that is no part of a line end stands in the line that the line feeds before it
tell, right after what comes before it there. -/
theorem exists_getElem?_lines {c : Char} (hfeed : c ≠ '\n') (hreturn : c ≠ '\r')
    (before after : List Char) :
    ∃ more, (lines (before ++ c :: after))[before.count '\n']? =
      some (lastLine before ++ c :: more) := by
  induction before using lines.induct with
  | case1 =>
    rw [List.nil_append, lines_cons hfeed fun h => absurd h hreturn]
    exact ⟨_, getElem?_consLine_zero c _⟩
  | case2 text ih =>
    obtain ⟨more, hmore⟩ := ih
    refine ⟨more, ?_⟩
    have hlast : lastLine ('\r' :: '\n' :: text) = lastLine text :=
      lastLine_after_newline ['\r'] text
    rw [List.count_cons_of_ne (by decide), List.count_cons_self, hlast, ← hmore]
    rfl
  | case3 text ih =>
    obtain ⟨more, hmore⟩ := ih
    refine ⟨more, ?_⟩
    have hlast : lastLine ('\n' :: text) = lastLine text := lastLine_after_newline [] text
    rw [List.count_cons_self, hlast, ← hmore]
    rfl
  | case4 d text hcrlf hnewline ih =>
    obtain ⟨more, hmore⟩ := ih
    have hd : d ≠ '\n' := hnewline
    have hnext : d = '\r' → (text ++ c :: after).head? ≠ some '\n' := by
      rintro rfl hhead
      cases text with
      | nil => exact hfeed (Option.some.inj hhead)
      | cons e text =>
        rw [List.cons_append, List.head?_cons, Option.some.injEq] at hhead
        exact hcrlf text rfl (by rw [hhead])
    rw [List.cons_append, lines_cons hd hnext, List.count_cons_of_ne hd]
    have hlast := lastLine_append [d] text
    rw [List.singleton_append] at hlast
    cases hcount : text.count '\n' with
    | zero =>
      -- The line goes on before `d`, which is its first character.
      have hmem : '\n' ∉ text := List.count_eq_zero.1 hcount
      have hfirst : lastLine [d] = [d] :=
        lastLine_of_not_mem fun h => hd (List.mem_singleton.1 h).symm
      rw [hcount] at hmore
      rw [lastLine_of_not_mem hmem] at hmore
      rw [if_neg hmem, hfirst, List.singleton_append] at hlast
      rw [getElem?_consLine_zero, hmore, hlast]
      exact ⟨more, rfl⟩
    | succ n =>
      have hmem : '\n' ∈ text := List.count_pos_iff.1 (by omega)
      rw [hcount] at hmore
      rw [if_pos hmem] at hlast
      rw [getElem?_consLine_succ, hmore, hlast]
      exact ⟨more, rfl⟩

end Text

/-- The name of the source stands first in what is shown of a place, if there is a name. -/
theorem Location.display_eq_append (here : Location) :
    here.display = (match here.filename with | none => "" | some name => name ++ ":") ++
      toString here.line ++ ":" ++ toString here.column := by
  unfold display
  cases here.filename with
  | none => simp only [String.empty_append]
  | some name => simp only [String.append_assoc]

namespace Diagnostic

open Text (plain styled)

/-- The diagnostic `d` shows, out of `source`, the line on which the character of a record stands,
and a caret under this character: `before` and `more` are what the line holds around it. -/
structure Shows (d : Diagnostic) (source : String) (record : Skipped) (before more : List Char) :
    Prop where
  /-- Lines are counted from one. -/
  line_pos : 1 ≤ record.location.line
  /-- The line is one of those that the source is divided into. -/
  line_le : record.location.line ≤ (Text.lines source.toList).length
  /-- The character stands in this line. -/
  line_eq : (Text.lines source.toList)[record.location.line - 1]? =
    some (before ++ record.character :: more)
  /-- Its column counts the characters before it and itself. -/
  column_eq : record.location.column = before.length + 1
  /-- There is one padding character for each of those before it. -/
  length_padding : (caretPadding before).length = record.location.column - 1
  /-- The diagnostic is written with the line and the caret. -/
  render_eq : ∀ color, (d.withSource source).render color = Text.render color (Text.ofRows
    [d.headingRow, locationRow record.location,
      [plain "  ", styled .boldBlue (toString record.location.line),
        plain (" " ++ String.ofList (before ++ record.character :: more))],
      [plain (String.ofList (List.replicate ((toString record.location.line).length + 3) ' ' ++
        caretPadding before)), styled d.severity.style "^"]])
  /-- Without color these are four rows of text: the heading, the place, the line with its number,
  and the caret. -/
  text_eq : (d.withSource source).render false =
    d.heading ++ ": " ++ d.message ++ "\n" ++
    "  --> " ++ (match record.location.filename with | none => "" | some name => name ++ ":") ++
      toString record.location.line ++ ":" ++ toString record.location.column ++ "\n" ++
    "  " ++ toString record.location.line ++ " " ++
      String.ofList (before ++ record.character :: more) ++ "\n" ++
    String.ofList (List.replicate ((toString record.location.line).length + 3) ' ' ++
      before.map fun c => if c = '\t' then '\t' else ' ') ++ "^\n"

/-- The excerpt of a diagnostic that has a line of the source to show. -/
theorem contextRows_withSource (d : Diagnostic) {source : String} {location : Location}
    {line : List Char} (h : lineAt? source location = some line) :
    (d.withSource source).contextRows location =
      [excerptRow location.line line,
        caretRow d.severity location.line location.column line] := by
  rw [contextRows, withSource, Option.bind_some, h]

/-- The rows of a diagnostic that has a line of the source to show. -/
theorem rows_withSource {d : Diagnostic} {source : String} {location : Location}
    {line : List Char} (hlocation : d.location = some location)
    (hline : lineAt? source location = some line) :
    (d.withSource source).rows =
      [d.headingRow, locationRow location, excerptRow location.line line,
        caretRow d.severity location.line location.column line] := by
  have hrows : (d.withSource source).rows =
      d.headingRow :: locationRow location :: (d.withSource source).contextRows location := by
    rw [rows, withSource, hlocation]
    rfl
  rw [hrows, contextRows_withSource d hline]

/-- A diagnostic at the place that the text before a character determines shows this character, if
it is no part of a line end. -/
theorem exists_shows {source : String} {before after : List Char} {record : Skipped}
    {filename : Option String} (hsource : source.toList = before ++ record.character :: after)
    (hplace : record.location = .afterText filename before) (hfeed : record.character ≠ '\n')
    (hreturn : record.character ≠ '\r') :
    ∃ more, ∀ d : Diagnostic, d.location = some record.location →
      d.Shows source record (Text.lastLine before) more := by
  obtain ⟨more, hline⟩ := Text.exists_getElem?_lines hfeed hreturn before after
  have hcolumn : record.location.column = (Text.lastLine before).length + 1 := by
    rw [hplace, Nat.add_comm]
    exact Text.columnAfter_eq before
  have hnumber : record.location.line = before.count '\n' + 1 := by
    rw [hplace, Nat.add_comm]
    rfl
  rw [← hsource] at hline
  refine ⟨more, fun d hlocation => ?_⟩
  have hrows : (d.withSource source).rows = [d.headingRow, locationRow record.location,
      [plain "  ", styled .boldBlue (toString record.location.line),
        plain (" " ++ String.ofList (Text.lastLine before ++ record.character :: more))],
      [plain (String.ofList (List.replicate ((toString record.location.line).length + 3) ' ' ++
        caretPadding (Text.lastLine before))), styled d.severity.style "^"]] := by
    have hat : lineAt? source record.location =
        some (Text.lastLine before ++ record.character :: more) := by
      rw [lineAt?, if_neg (by omega), hnumber, Nat.add_sub_cancel]
      exact hline
    have hbefore : (Text.lastLine before ++ record.character :: more).take
        (record.location.column - 1) = Text.lastLine before := by
      rw [hcolumn, Nat.add_sub_cancel, List.take_left]
    rw [rows_withSource hlocation hat, caretRow, hbefore]
    rfl
  refine ⟨by omega, ?_, ?_, hcolumn, ?_, fun color => by rw [render, hrows], ?_⟩
  · have hlt := (List.getElem?_eq_some_iff.1 hline).1
    omega
  · rw [hnumber, Nat.add_sub_cancel]
    exact hline
  · rw [caretPadding, List.length_map, hcolumn, Nat.add_sub_cancel]
  · have harrow : "  --> " = "  " ++ "-->" ++ " " := by decide
    have hcaret : "^\n" = "^" ++ "\n" := by decide
    rw [render, hrows, headingRow, locationRow, Location.display_eq_append, caretPadding, harrow,
      hcaret]
    simp only [Text.ofRows, List.flatMap_cons, List.flatMap_nil, Text.render_append,
      Text.render_cons, Text.render_nil, Text.Span.render, plain, styled, String.append_assoc,
      String.append_empty]

end Diagnostic

namespace Scanner

/-- Every character that a scanner has skipped so far, whatever the source and its name, can be
shown: the warning about it and the error about it have the line of the source in which it stands,
with the caret under it. -/
theorem shows_of_mem_skipped (source : String) (filename : Option String) (k : Nat)
    (record : Skipped) (h : record ∈ ((ofString source filename).afterPulls k).skipped) :
    ∃ before more,
      (Diagnostic.ofSkipped record).Shows source record before more ∧
      (Diagnostic.ofError (.unexpectedCharacter record.character record.location)).Shows source
        record before more := by
  obtain ⟨read, found, hread, -⟩ := exists_hasRead source filename k
  rw [hread.skipped_eq] at h
  obtain ⟨before, after, hsource, hplace, -, hblank⟩ :=
    hread.reading.standsIn _ (Finding.mem_skips.1 h)
  rw [← hread.source_eq, List.append_assoc] at hsource
  -- Both characters of a line end are blank, and no blank character is skipped.
  have hne : ∀ d, Text.isBlank d = true → record.character ≠ d := by
    rintro d hd rfl
    rw [hblank] at hd
    cases hd
  obtain ⟨more, hshows⟩ :=
    Diagnostic.exists_shows hsource hplace (hne '\n' (by decide)) (hne '\r' (by decide))
  exact ⟨_, more, hshows _ rfl, hshows _ rfl⟩

/-- A character after a tab, on a line that follows a carriage return with a line feed. -/
theorem shows_of_mem_skipped_tab :
    ⟨'λ', ⟨2, 2, 4, none⟩⟩ ∈ ((ofString "x\r\n\tλ" none).afterPulls 2).skipped ∧
    ∃ before more,
      (Diagnostic.ofSkipped ⟨'λ', ⟨2, 2, 4, none⟩⟩).Shows "x\r\n\tλ" ⟨'λ', ⟨2, 2, 4, none⟩⟩
        before more ∧
      (Diagnostic.ofError (.unexpectedCharacter 'λ' ⟨2, 2, 4, none⟩)).Shows "x\r\n\tλ"
        ⟨'λ', ⟨2, 2, 4, none⟩⟩ before more := by
  have hskipped : ⟨'λ', ⟨2, 2, 4, none⟩⟩ ∈ ((ofString "x\r\n\tλ" none).afterPulls 2).skipped := by
    decide +kernel
  exact ⟨hskipped, shows_of_mem_skipped "x\r\n\tλ" none 2 _ hskipped⟩

end Scanner

end SexprLexer
