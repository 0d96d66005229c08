import SexprLexer.Pattern.Fault
import SexprLexer.Text.Blank

/-!
# Cursors in patterns

The text of a pattern is read from left to right. Each character is read together with its place,
so that what is left of the text also says where the reading stands. In the spaced form blank
characters between the items of a pattern do not count, nor does what follows a `#` in its line.
-/

namespace SexprLexer.Pattern

/-- A character of a text and its place. -/
abbrev Placed := Location × Char

/-- The characters of a text that stands at `here`, each with its place. -/
def placed (here : Location) : List Char → List Placed
  | [] => []
  | c :: text => (here, c) :: placed (here.advance c) text

/-- Drops blank characters and remarks from the beginning of a text, which begins within a remark
if `inRemark` says so. -/
def dropSpace (inRemark : Bool) : List Placed → List Placed
  | [] => []
  | (here, c) :: text =>
    if inRemark then dropSpace (c != '\n') text
    else if Text.isBlank c then dropSpace false text
    else if c = '#' then dropSpace true text
    else (here, c) :: text

theorem length_dropSpace_le (inRemark : Bool) (text : List Placed) :
    (dropSpace inRemark text).length ≤ text.length := by
  fun_induction dropSpace inRemark text <;> simp_all <;> omega

/-- A text without the space at its beginning, if it is in the spaced form. -/
def skip (spaced : Bool) (text : List Placed) : List Placed :=
  if spaced then dropSpace false text else text

theorem length_skip_le (spaced : Bool) (text : List Placed) :
    (skip spaced text).length ≤ text.length := by
  unfold skip
  split
  · exact length_dropSpace_le false text
  · exact Nat.le_refl _

/-- The longest run of characters with the property `p` at the beginning of a text, and what is
left after it. Space within and after the run does not count. -/
def takeRun (spaced : Bool) (p : Char → Bool) : List Placed → List Char × List Placed
  | [] => ([], [])
  | (here, c) :: text =>
    if p c then
      let (run, rest) := takeRun spaced p (skip spaced text)
      (c :: run, rest)
    else ([], (here, c) :: text)
termination_by text => text.length
decreasing_by
  have := length_skip_le spaced text
  simp only [List.length_cons]
  omega

/-- What is left of a pattern. -/
structure Cursor where
  rest : List Placed
  /-- The place at the end of the pattern. -/
  bound : Location
  /-- Whether the pattern is in the spaced form from here on. -/
  spaced : Bool

namespace Cursor

/-- The beginning of a pattern. -/
def ofString (pattern : String) : Cursor :=
  let start := Location.start none
  ⟨placed start pattern.toList, start.after pattern.toList, false⟩

/-- The next character. -/
def next? (c : Cursor) : Option Char := c.rest.head?.map (·.2)

/-- The place of the next character. -/
def here (c : Cursor) : Location := (c.rest.head?.map (·.1)).getD c.bound

/-- The cursor after the next character. -/
def advance (c : Cursor) : Cursor := { c with rest := c.rest.tail }

/-- The cursor after the space that does not count. -/
def skipSpace (c : Cursor) : Cursor := { c with rest := skip c.spaced c.rest }

/-- The cursor after the next character and the space that follows it. -/
def advanceSkipping (c : Cursor) : Cursor := c.advance.skipSpace

/-- The cursor after the longest run of characters with the property `p`, and that run. -/
def takeRun (c : Cursor) (p : Char → Bool) : List Char × Cursor :=
  let (run, rest) := Pattern.takeRun c.spaced p c.rest
  (run, { c with rest })

/-- The character that counts after the next one. In the spaced form it is looked for behind blank
characters and behind one `#`, whatever follows that. -/
def beyond? (c : Cursor) : Option Char :=
  let rest := c.rest.tail.map (·.2)
  if c.spaced then
    match rest.dropWhile Text.isBlank with
    | '#' :: remark => (remark.dropWhile Text.isBlank).head?
    | rest => rest.head?
  else rest.head?

/-- As `takeRun`, where space counts like any other character. -/
def takeRunExactly (c : Cursor) (p : Char → Bool) : List Char × Cursor :=
  let (run, rest) := c.rest.span fun (_, d) => p d
  (run.map (·.2), { c with rest })

/-- The cursor after some given characters, if these are the next ones. -/
def after? (c : Cursor) (chars : List Char) : Option Cursor :=
  if chars.isPrefixOf (c.rest.map (·.2)) then
    some { c with rest := c.rest.drop chars.length }
  else none

/-- The stretch from a place to the cursor. -/
def since (c : Cursor) (first : Location) : Extent := ⟨first, c.here⟩

/-- The stretch of the next character. -/
def extent (c : Cursor) : Extent := ⟨c.here, c.advance.here⟩

/-- The empty stretch at the cursor. -/
def point (c : Cursor) : Extent := ⟨c.here, c.here⟩

end Cursor

end SexprLexer.Pattern
