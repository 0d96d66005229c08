import SexprLexer.Location
import SexprLexer.Text.Lines
import SexprLexer.Text.Padded

/-!
# Faults in patterns

What can be wrong with the text of a pattern. A fault lies in a stretch of the text, and its
message shows the pattern with marks under that stretch.
-/

namespace SexprLexer.Pattern

/-- A stretch of the text of a pattern. -/
structure Extent where
  first : Location
  /-- The place right after the stretch. -/
  past : Location
  deriving DecidableEq

/-- What is wrong with a stretch of the text of a pattern. -/
inductive Cause where
  | backreference
  | lookAround
  | missingOperand
  | unclosedCount
  | emptyCount
  | invalidCount
  | reversedCount
  | unclosedGroup
  | unopenedGroup
  | endInFlags
  | unrecognizedFlag
  | repeatedFlag
  | repeatedNegation
  | danglingNegation
  | endInName
  | emptyName
  | invalidNameCharacter
  | repeatedName
  | unclosedClass
  | notInClass
  | notInRange
  | reversedRange
  | endInEscape
  | unrecognizedEscape
  | emptyCode
  | invalidDigit
  | invalidCode
  | invalidProperty
  | endInBoundary
  | unclosedBoundary
  | unrecognizedBoundary
  /-- A class that depends on the tables of Unicode. -/
  | unknownClass
  | unknownProperty
  | unknownPropertyValue
  /-- Letters of all scripts regardless of case. -/
  | unknownCase
  /-- A character from beyond ASCII where bytes are meant. -/
  | notAByte
  /-- Bytes that are not a character by themselves. -/
  | notACharacter
  /-- Too many constructs within each other. -/
  | nestedTooDeeply
  deriving DecidableEq

/-- How many constructs may stand within each other. -/
def depthLimit : Nat := 250

/-- How many bytes the automaton of a pattern may take. -/
def sizeLimit : Nat := 10485760

/-- A cause in words. -/
def Cause.message : Cause → String
  | backreference => "backreferences are not supported"
  | lookAround => "look-around, including look-ahead and look-behind, is not supported"
  | missingOperand => "repetition operator missing expression"
  | unclosedCount => "unclosed counted repetition"
  | emptyCount => "repetition quantifier expects a valid decimal"
  | invalidCount => "decimal literal invalid"
  | reversedCount => "invalid repetition count range, the start must be <= the end"
  | unclosedGroup => "unclosed group"
  | unopenedGroup => "unopened group"
  | endInFlags => "expected flag but got end of regex"
  | unrecognizedFlag => "unrecognized flag"
  | repeatedFlag => "duplicate flag"
  | repeatedNegation => "flag negation operator repeated"
  | danglingNegation => "dangling flag negation operator"
  | endInName => "unclosed capture group name"
  | emptyName => "empty capture group name"
  | invalidNameCharacter => "invalid capture group character"
  | repeatedName => "duplicate capture group name"
  | unclosedClass => "unclosed character class"
  | notInClass => "invalid escape sequence found in character class"
  | notInRange => "invalid range boundary, must be a literal"
  | reversedRange => "invalid character class range, the start must be <= the end"
  | endInEscape => "incomplete escape sequence, reached end of pattern prematurely"
  | unrecognizedEscape => "unrecognized escape sequence"
  | emptyCode => "hexadecimal literal empty"
  | invalidDigit => "invalid hexadecimal digit"
  | invalidCode => "hexadecimal literal is not a Unicode scalar value"
  | invalidProperty => "invalid Unicode character class"
  | endInBoundary =>
    "found either the beginning of a special word boundary or a bounded repetition on a \\b " ++
      "with an opening brace, but no closing brace"
  | unclosedBoundary =>
    "special word boundary assertion is either unclosed or contains an invalid character"
  | unrecognizedBoundary =>
    "unrecognized special word boundary assertion, valid choices are: " ++
      "start, end, start-half or end-half"
  | unknownClass =>
    "Unicode-aware Perl class not found (make sure the unicode-perl feature is enabled)"
  | unknownProperty => "Unicode property not found"
  | unknownPropertyValue => "Unicode property value not found"
  | unknownCase =>
    "Unicode-aware case insensitivity matching is not available " ++
      "(make sure the unicode-case feature is enabled)"
  | notAByte => "Unicode not allowed here"
  | notACharacter => "pattern can match invalid UTF-8"
  | nestedTooDeeply =>
    "exceed the maximum number of nested parentheses/brackets (" ++ toString depthLimit ++ ")"

/-- A cause, where it shows, and where the same was said before if it is a repetition. -/
structure Slip where
  cause : Cause
  extent : Extent
  earlier : Option Extent
  deriving DecidableEq

/-- Why a text is no pattern that can be looked for. -/
inductive Fault where
  | slip (pattern : String) (slip : Slip)
  /-- The words of all scripts cannot be told apart. -/
  | unknownWords
  /-- The automaton that looks for the pattern is too large. -/
  | tooLarge
  deriving DecidableEq

/-! ### Marks -/

namespace Slip

/-- Whether an extent lies within one line. -/
def isOneLine (extent : Extent) : Bool := extent.first.line == extent.past.line

/-- The extents of a slip in the order of the text. -/
def extents (s : Slip) : List Extent :=
  match s.earlier with
  | none => [s.extent]
  | some earlier =>
    if earlier.first.offset ≤ s.extent.first.offset then [earlier, s.extent]
    else [s.extent, earlier]

/-- Puts marks under a stretch of a line, after the marks that are there already. An empty stretch
gets one mark. -/
def mark (marks : List Char) (extent : Extent) : List Char :=
  let blanks := extent.first.column - 1 - marks.length
  let width := max 1 (extent.past.column - extent.first.column)
  marks ++ List.replicate blanks ' ' ++ List.replicate width '^'

/-- The marks under the line with the given number, if there are any. -/
def marks? (s : Slip) (number : Nat) : Option (List Char) :=
  match s.extents.filter fun extent => isOneLine extent && extent.first.line == number with
  | [] => none
  | extents => some (extents.foldl mark [])

/-- The lines of a pattern, each with its marks under it. -/
def markedLines (s : Slip) (pattern : String) : List String :=
  let lines := Text.lines pattern.toList
  let count := lines.length + if pattern.toList.getLast? = some '\n' then 1 else 0
  let width := (toString count).length
  let margin (number : Nat) : String :=
    if count ≤ 1 then "    " else Text.alignRight width (toString number) ++ ": "
  let blank := String.ofList (List.replicate (margin count).length ' ')
  lines.zipIdx 1 |>.flatMap fun (line, number) =>
    (margin number ++ String.ofList line) ::
      match s.marks? number with
      | none => []
      | some marks => [blank ++ String.ofList marks]

/-- A note on an extent that goes over several lines. -/
def note (extent : Extent) : String :=
  "on line " ++ toString extent.first.line ++ " (column " ++ toString extent.first.column ++
    ") through line " ++ toString extent.past.line ++ " (column " ++
    toString (extent.past.column - 1) ++ ")"

/-- The lines of the message about a slip in a pattern. -/
def messageLines (s : Slip) (pattern : String) : List String :=
  let marked := s.markedLines pattern
  let error := "error: " ++ s.cause.message
  if pattern.toList.contains '\n' then
    let divider := String.ofList (List.replicate 79 '~')
    let notes := (s.extents.filter fun extent => !isOneLine extent).map note
    "regex parse error:" :: divider :: marked ++ divider :: notes ++ [error]
  else "regex parse error:" :: marked ++ [error]

end Slip

/-- A fault in words. -/
def Fault.message : Fault → String
  | slip pattern s => "\n".intercalate (s.messageLines pattern)
  | unknownWords => "error building NFA"
  | tooLarge => "Compiled regex exceeds size limit of " ++ toString sizeLimit ++ " bytes."

end SexprLexer.Pattern
