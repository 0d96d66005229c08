import SexprLexer.Pattern.Basic
import SexprLexer.Pattern.Cursor

/-!
# Escapes

A backslash in a pattern gives the characters after it a meaning of their own: a character by its
code, a class of characters, a place between two characters, or a character that would mean
something else without the backslash.
-/

namespace SexprLexer.Pattern

/-- Reading a part of a pattern, which moves the cursor. -/
abbrev Reading := StateT Cursor (Except Slip)

/-- Gives up because of a stretch of the pattern. -/
def stop {m : Type → Type} [MonadExcept Slip m] {α : Type} (cause : Cause) (extent : Extent) :
    m α :=
  throw ⟨cause, extent, none⟩

/-- What stands after a backslash. -/
inductive Escape where
  /-- A character. With `byte`, it is given by the two digits of a byte. -/
  | literal (c : Char) (byte : Bool)
  /-- The members of a class, or all characters besides them. -/
  | members (set : CharSet) (negated : Bool)
  /-- The characters with a property of Unicode. -/
  | property (name : List Char)
  | textStart
  | textEnd
  | word (boundary : Boundary)

/-! ### Characters by their codes -/

/-- Whether `c` is a hexadecimal digit. -/
def isHexDigit (c : Char) : Bool :=
  c.isDigit || decide ('a' ≤ c ∧ c ≤ 'f') || decide ('A' ≤ c ∧ c ≤ 'F')

/-- The value of a hexadecimal digit. -/
def hexDigitValue (c : Char) : Nat :=
  if c.isDigit then c.toNat - '0'.toNat else c.toLower.toNat - 'a'.toNat + 10

/-- The character whose code has the given hexadecimal digits. -/
def charOfHex? (digits : List Char) : Option Char :=
  let code := digits.foldl (fun n d => 16 * n + hexDigitValue d) 0
  if code.isValidChar then some (Char.ofNat code) else none

/-- Reads as many hexadecimal digits as are asked for. -/
def readHexDigits : Nat → Reading (List Char)
  | 0 => pure []
  | n + 1 => do
    let c ← get
    match c.next? with
    | none => stop .endInEscape c.point
    | some d =>
      if isHexDigit d then
        set c.advanceSkipping
        let more ← readHexDigits n
        pure (d :: more)
      else stop .invalidDigit c.extent

/-- Reads a code of `count` hexadecimal digits. -/
def readFixedCode (count : Nat) : Reading Char := do
  let start := (← get).here
  let digits ← readHexDigits count
  match charOfHex? digits with
  | none => stop .invalidCode ((← get).since start)
  | some c => pure c

/-- Reads a code between braces. -/
def readBracedCode : Reading Char := do
  let brace ← get
  let (digits, c) := brace.advanceSkipping.takeRun isHexDigit
  match c.next? with
  | none => stop .endInEscape (c.since brace.here)
  | some '}' =>
    set c.advanceSkipping
    if digits.isEmpty then stop .emptyCode (c.advanceSkipping.since brace.here)
    else
      match charOfHex? digits with
      | none => stop .invalidCode (c.since brace.advance.here)
      | some d => pure d
  | some _ => stop .invalidDigit c.extent

/-- Reads the code of a character, of `count` digits unless it stands between braces. -/
def readCode (count : Nat) : Reading Escape := do
  modify Cursor.advanceSkipping
  let c ← get
  match c.next? with
  | none => stop .endInEscape c.point
  | some '{' => return .literal (← readBracedCode) false
  | some _ => return .literal (← readFixedCode count) (count == 2)

/-! ### Classes and places -/

/-- The digits of ASCII. -/
def digitCharacters : CharSet := .between '0' '9'

/-- The white space of ASCII. -/
def spaceCharacters : CharSet := .between '\t' '\r' ∪ .singleton ' '

/-- The class that a letter stands for, and whether its complement is meant. -/
def classOfLetter? : Char → Option Escape
  | 'd' => some (.members digitCharacters false)
  | 'D' => some (.members digitCharacters true)
  | 's' => some (.members spaceCharacters false)
  | 'S' => some (.members spaceCharacters true)
  | 'w' => some (.members wordCharacters false)
  | 'W' => some (.members wordCharacters true)
  | _ => none

/-- Reads the name of a property: one character, or what stands between braces. -/
def readProperty : Reading Escape := do
  modify Cursor.advanceSkipping
  let c ← get
  match c.next? with
  | none => stop .endInEscape c.point
  | some '{' =>
    let (name, c) := c.advanceSkipping.takeRun (· != '}')
    if c.rest.isEmpty then stop .endInEscape c.point
    else
      set c.advance
      pure (.property name)
  | some '\\' => stop .invalidProperty c.extent
  | some d =>
    set c.advanceSkipping
    pure (.property [d])

/-- Why a property cannot be looked up. The names of three values are also those of properties. -/
def propertyCause (name : List Char) : Cause :=
  let name := name.map Char.toLower
  let name := if ['i', 's'].isPrefixOf name then name.drop 2 else name
  let name := name.filter fun c => c.toNat < 128 && !(c == ' ' || c == '_' || c == '-')
  if name = ['c', 'f'] ∨ name = ['s', 'c'] ∨ name = ['l', 'c'] then .unknownPropertyValue
  else .unknownProperty

/-- Whether `c` may be part of the name of a boundary. -/
def isBoundaryCharacter (c : Char) : Bool := c.isAlpha || c == '-'

/-- The boundary with a name. -/
def Boundary.named? : String → Option Boundary
  | "start" => some wordStart
  | "end" => some wordEnd
  | "start-half" => some halfStart
  | "end-half" => some halfEnd
  | _ => none

/-- Reads the name between braces that may follow the sign of a boundary, which begins at `start`.
Braces that cannot hold a name are left alone: they hold a count. -/
def readBoundary (start : Location) : Reading Escape := do
  let brace ← get
  if brace.next? != some '{' then return .word .edge
  let inner := brace.advanceSkipping
  match inner.next? with
  | none => stop .endInBoundary (inner.since start)
  | some d =>
    if !isBoundaryCharacter d then return .word .edge
    let (name, c) := inner.takeRun isBoundaryCharacter
    if c.next? != some '}' then stop .unclosedBoundary (c.since brace.here)
    set c.advance
    match Boundary.named? (String.ofList name) with
    | none => stop .unrecognizedBoundary (c.since inner.here)
    | some boundary => pure (.word boundary)

/-! ### All escapes -/

/-- Whether a backslash takes away the meaning of `c` or changes nothing about it. -/
def isEscapable (c : Char) : Bool :=
  c.toNat < 128 && !c.isAlphanum && c != '<' && c != '>'

/-- The character that a letter after a backslash stands for. -/
def charOfLetter? : Char → Option Char
  | 'a' => some '\x07'
  | 'f' => some '\x0c'
  | 't' => some '\t'
  | 'n' => some '\n'
  | 'r' => some '\r'
  | 'v' => some '\x0b'
  | _ => none

/-- Reads what stands after the backslash at `start` and begins with the character `c`. -/
def readEscapeBody (start : Location) (c : Char) : Reading Escape := do
  match c with
  | 'x' => readCode 2
  | 'u' => readCode 4
  | 'U' => readCode 8
  | 'p' | 'P' => readProperty
  | _ =>
    if c.isDigit then stop .backreference ⟨start, (← get).advance.here⟩
    modify Cursor.advance
    match classOfLetter? c, charOfLetter? c with
    | some escape, _ => pure escape
    | none, some d => pure (.literal d false)
    | none, none =>
      if isEscapable c then pure (.literal c false)
      else
        match c with
        | 'A' => pure .textStart
        | 'z' => pure .textEnd
        | 'b' => readBoundary start
        | 'B' => pure (.word .interior)
        | '<' => pure (.word .wordStart)
        | '>' => pure (.word .wordEnd)
        | _ => stop .unrecognizedEscape ((← get).since start)

/-- Reads an escape and says where it stands. -/
def readEscape : Reading (Escape × Extent) := do
  let start := (← get).here
  modify Cursor.advance
  let c ← get
  match c.next? with
  | none => stop .endInEscape (c.since start)
  | some d =>
    let escape ← readEscapeBody start d
    return (escape, (← get).since start)

end SexprLexer.Pattern
