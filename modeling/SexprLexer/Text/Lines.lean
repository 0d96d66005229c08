/-!
# Lines

A text is a sequence of lines, each ended by a line feed, which the last one may lack. For display
a carriage return right before the line feed belongs to the line end; anywhere else it belongs to
the line. For input a line is what one read takes from the stream: all bytes up to and including
the next line feed.
-/

namespace SexprLexer.Text

/-- Puts `x` at the beginning of the first line, which it opens if there is none. -/
def consLine {α : Type} (x : α) : List (List α) → List (List α)
  | [] => [[x]]
  | line :: lines => (x :: line) :: lines

/-- The lines of a text, without their ends. -/
def lines : List Char → List (List Char)
  | [] => []
  | '\r' :: '\n' :: text => [] :: lines text
  | '\n' :: text => [] :: lines text
  | c :: text => consLine c (lines text)

/-- A character that does not end a line belongs to the first one. -/
theorem lines_cons {c : Char} {text : List Char} (hfeed : c ≠ '\n')
    (hreturn : c = '\r' → text.head? ≠ some '\n') :
    lines (c :: text) = consLine c (lines text) := by
  rw [lines]
  · rintro text' rfl rfl
    exact hreturn rfl rfl
  · exact hfeed

/-- The line feed as a byte. -/
def lineFeed : UInt8 := 0x0a

/-- The lines of a stream of bytes, with their ends. -/
def byteLines : List UInt8 → List (List UInt8)
  | [] => []
  | b :: bytes => if b = lineFeed then [b] :: byteLines bytes else consLine b (byteLines bytes)

end SexprLexer.Text
