import Mathlib.Data.List.DropRight
import Mathlib.Data.List.Induction
import SexprLexer.Location

/-!
# Lines and columns

The line and the column of a place are functions of the text before it: the line feeds in this
text are counted, and so are the characters after the last of them. Main statements: reading a text
from its beginning leads to the place that these two functions and the size of the text give
(`Location.after_start`); where one text is put behind another, its places move by what the first
text alone determines (`Location.shift_afterText`).
-/

namespace SexprLexer

/-- The line that a reader of `text` has come to at its end. -/
def Text.lineAfter (text : List Char) : Nat := 1 + text.count '\n'

/-- The column that a reader of `text` has come to at its end: the characters since the last line
feed, or since the beginning if there is none, and one. -/
def Text.columnAfter (text : List Char) : Nat :=
  1 + (text.reverse.takeWhile fun c => c != '\n').length

namespace Text

/-- A line feed begins a new line. -/
theorem lineAfter_newline (text : List Char) : lineAfter (text ++ ['\n']) = lineAfter text + 1 := by
  rw [lineAfter, lineAfter, List.count_append, List.count_singleton_self]
  omega

/-- After a line feed a reader is at the first column again. -/
theorem columnAfter_newline (text : List Char) : columnAfter (text ++ ['\n']) = 1 := by
  rw [columnAfter, List.reverse_append]
  rfl

/-- No other character begins a line. -/
theorem lineAfter_other {c : Char} (h : c ≠ '\n') (text : List Char) :
    lineAfter (text ++ [c]) = lineAfter text := by
  have hcount : List.count '\n' [c] = 0 := by
    apply List.count_eq_zero_of_not_mem
    intro hmem
    exact h (List.mem_singleton.1 hmem).symm
  rw [lineAfter, lineAfter, List.count_append, hcount, Nat.add_zero]

/-- Every other character is one column wide. -/
theorem columnAfter_other {c : Char} (h : c ≠ '\n') (text : List Char) :
    columnAfter (text ++ [c]) = columnAfter text + 1 := by
  have hc : (c != '\n') = true := bne_iff_ne.2 h
  rw [columnAfter, columnAfter, List.reverse_append, List.reverse_singleton, List.singleton_append,
    List.takeWhile_cons, if_pos hc, List.length_cons]
  omega

/-! ### The last line -/

/-- What a text holds after its last line feed, or all of it if there is none. -/
def lastLine (text : List Char) : List Char := text.rtakeWhile fun c => c != '\n'

/-- The column of a place is one more than the characters before it on its line. -/
theorem columnAfter_eq (text : List Char) : columnAfter text = 1 + (lastLine text).length := by
  rw [columnAfter, lastLine, List.rtakeWhile, List.length_reverse]

/-- A line feed leaves an empty last line. -/
theorem lastLine_newline (text : List Char) : lastLine (text ++ ['\n']) = [] := by
  rw [lastLine, List.rtakeWhile_concat]
  rfl

/-- Every other character goes on with the last line. -/
theorem lastLine_other {c : Char} (h : c ≠ '\n') (text : List Char) :
    lastLine (text ++ [c]) = lastLine text ++ [c] := by
  have hc : (c != '\n') = true := bne_iff_ne.2 h
  rw [lastLine, lastLine, List.rtakeWhile_concat, if_pos hc]

/-- The last line of two texts put together lies in the second one if a line ends there. -/
theorem lastLine_append (text more : List Char) :
    lastLine (text ++ more) = if '\n' ∈ more then lastLine more else lastLine text ++ more := by
  induction more using List.reverseRecOn with
  | nil => rw [if_neg List.not_mem_nil, List.append_nil, List.append_nil]
  | append_singleton more c ih =>
    rw [← List.append_assoc]
    by_cases hc : c = '\n'
    · subst hc
      rw [if_pos (List.mem_append_right more (List.mem_singleton_self _)), lastLine_newline,
        lastLine_newline]
    · have hmem : '\n' ∈ more ++ [c] ↔ '\n' ∈ more := by
        rw [List.mem_append, List.mem_singleton, or_iff_left (Ne.symm hc)]
      rw [lastLine_other hc, lastLine_other hc, ih, if_congr hmem rfl rfl]
      split
      · rfl
      · rw [List.append_assoc]

/-- A text without line feeds is its own last line. -/
theorem lastLine_of_not_mem {text : List Char} (h : '\n' ∉ text) : lastLine text = text := by
  have happend := lastLine_append [] text
  rwa [if_neg h] at happend

/-- After a line feed the last line is that of the text that follows. -/
theorem lastLine_after_newline (text more : List Char) :
    lastLine (text ++ ['\n'] ++ more) = lastLine more := by
  rw [lastLine_append, lastLine_newline]
  split
  · rfl
  · next h => rw [lastLine_of_not_mem h, List.nil_append]

/-- The line feeds of two texts put together are those of both. -/
theorem lineAfter_append (text more : List Char) :
    lineAfter (text ++ more) = lineAfter more + text.count '\n' := by
  rw [lineAfter, lineAfter, List.count_append]
  omega

/-- A text without line feeds is read on the first line. -/
theorem lineAfter_eq_one_iff {text : List Char} : lineAfter text = 1 ↔ '\n' ∉ text := by
  rw [lineAfter, ← List.count_eq_zero]
  omega

end Text

namespace Location

/-- The place at the end of `text`, read from its beginning as the source called `filename`. -/
def afterText (filename : Option String) (text : List Char) : Location :=
  ⟨Text.lineAfter text, Text.columnAfter text, Text.byteSize text, filename⟩

/-- Reading a text from its beginning leads to the place that the text alone determines. -/
theorem after_start (filename : Option String) (text : List Char) :
    (start filename).after text = afterText filename text := by
  -- A line feed at the end is seen at once, so the text is taken apart there.
  induction text using List.reverseRecOn with
  | nil => rfl
  | append_singleton text c ih =>
    rw [after_append, ih, after_cons, after_nil, advance]
    split
    · next h =>
      subst h
      simp only [afterText, Text.lineAfter_newline, Text.columnAfter_newline, Text.byteSize_append,
        Text.byteSize_cons, Text.byteSize_nil, Nat.add_zero]
    · next h =>
      simp only [afterText, Text.lineAfter_other h, Text.columnAfter_other h, Text.byteSize_append,
        Text.byteSize_cons, Text.byteSize_nil, Nat.add_zero]

/-- Passing over more of a text from where a reader of it stands. -/
theorem after_afterText (filename : Option String) (text more : List Char) :
    (afterText filename text).after more = afterText filename (text ++ more) := by
  rw [← after_start, ← after_start, after_append]

/-! ### A text behind another one -/

/-- Where a place of a text comes to lie when `before` is put in front of this text. The lines and
the bytes of `before` come before it, and on the first line also the characters on the last line of
`before`. -/
def shift (before : List Char) (here : Location) : Location :=
  { here with
    line := here.line + before.count '\n'
    column :=
      if here.line = 1 then here.column + (Text.lastLine before).length else here.column
    offset := here.offset + Text.byteSize before }

/-- The place at the end of a text moves to the end of the two texts put together. -/
theorem shift_afterText (filename : Option String) (before text : List Char) :
    (afterText filename text).shift before = afterText filename (before ++ text) := by
  have hcolumn : Text.columnAfter (before ++ text) =
      if Text.lineAfter text = 1 then Text.columnAfter text + (Text.lastLine before).length
      else Text.columnAfter text := by
    rw [Text.columnAfter_eq, Text.columnAfter_eq, Text.lastLine_append]
    by_cases hfeed : '\n' ∈ text
    · rw [if_pos hfeed, if_neg (fun h => Text.lineAfter_eq_one_iff.1 h hfeed)]
    · rw [if_neg hfeed, if_pos (Text.lineAfter_eq_one_iff.2 hfeed), List.length_append,
        Text.lastLine_of_not_mem hfeed]
      omega
  rw [shift, afterText, afterText, Text.lineAfter_append, hcolumn, Text.byteSize_append,
    Nat.add_comm (Text.byteSize before)]

/-- On the first line of the text a place moves down and to the right. -/
example : shift ['a', '\n', 'λ'] ⟨1, 2, 1, none⟩ = ⟨2, 3, 5, none⟩ := by decide

/-- On any later line its column stays. -/
example : shift ['a', '\n', 'λ'] ⟨2, 2, 4, none⟩ = ⟨3, 2, 8, none⟩ := by decide

end Location

end SexprLexer
