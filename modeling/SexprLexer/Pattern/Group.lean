import SexprLexer.Pattern.Item
import SexprLexer.Text.Alphabetic
import SexprLexer.Text.Numeric

/-!
# Groups

A group is an item made of choices. It may have a name, and it may change the flags inside it.
-/

namespace SexprLexer.Pattern.Read

/-- Whether `c` may begin the name of a group. -/
def isNameInitial (c : Char) : Bool := c == '_' || Text.isAlphabetic c

/-- Whether `c` may be part of the name of a group. -/
def isNameCharacter (c : Char) : Bool :=
  isNameInitial c || Text.isNumeric c || c == '.' || c == '[' || c == ']'

/-- Reads the name of a group up to the angle bracket after it. -/
def readName : Read Unit := do
  let start ← cursor
  if start.next?.any fun c => c != '>' && !isNameInitial c then
    stop .invalidNameCharacter start.extent
  let (name, c) := start.takeRunExactly isNameCharacter
  let extent := c.since start.here
  let name := String.ofList name
  match c.next? with
  | none => stop .endInName c.point
  | some '>' =>
    if name = "" then stop .emptyName start.point
    match (← get).names.lookup name with
    | some earlier => throw ⟨.repeatedName, extent, some earlier⟩
    | none =>
      modify fun r => { r with cursor := c.advance, names := r.names ++ [(name, extent)] }
  | some _ => stop .invalidNameCharacter c.extent

/-- Begins a group inside of which the cursor stands. -/
def enterGroup (opening : Extent) (counted : Bool) : Read Unit :=
  modify fun r =>
    let groupCount := if counted then r.groupCount + 1 else r.groupCount
    let number := if counted then some groupCount else none
    { r with
      level := .start r.cursor.here
      groups := ⟨opening, number, r.level, r.flags⟩ :: r.groups
      groupCount }

/-- Reads a change of flags, for the rest of the group or for a group of its own. -/
def readFlags (opening : Extent) (inner : Extent) : Read Unit := do
  let c ← cursor
  if c.rest.isEmpty then stop .unclosedGroup opening
  let (signs, rest) ← (readSigns c.bound [] c.rest : Except Slip _)
  let flags := (← flags).changed true (signs.map (·.1))
  let c := { c with rest }
  moveTo c.advance
  if c.next? == some ')' then
    if signs.isEmpty then stop .missingOperand inner
    pushItem ⟨⟨.empty, []⟩, opening.first, false⟩
    setFlags flags
  else
    enterGroup opening false
    setFlags flags

/-- Reads the beginning of a group. -/
def openGroup : Read Unit := do
  let opening := (← cursor).extent
  let inner := (← cursor).advanceSkipping
  let lookArounds := [['?', '='], ['?', '!'], ['?', '<', '='], ['?', '<', '!']]
  match lookArounds.findSome? inner.after? with
  | some c => stop .lookAround (c.since opening.first)
  | none =>
    match inner.after? ['?', 'P', '<'] <|> inner.after? ['?', '<'], inner.after? ['?'] with
    | some c, _ => do
      moveTo c
      readName
      enterGroup opening true
    | none, some c => do
      moveTo c
      readFlags opening inner.point
    | none, none => do
      moveTo inner
      enterGroup opening true

/-- Reads the end of a group. -/
def closeGroup : Read Unit := do
  let r ← get
  match r.groups with
  | [] => stop .unopenedGroup r.cursor.extent
  | innermost :: groups =>
    let inner := r.level.toPart r.cursor.here
    let first := innermost.opening.first
    let pattern := innermost.number.elim inner.pattern (Pattern.group · inner.pattern)
    let nesting := inner.nesting.within (r.cursor.advance.since first)
    set { r with
      groups, cursor := r.cursor.advance
      level := innermost.outside.push ⟨⟨pattern, nesting⟩, first, true⟩ }
    setFlags innermost.flags

/-- Begins a new choice. -/
def branch : Read Unit :=
  modify fun r =>
    let cursor := r.cursor.advance
    { r with level := r.level.branch r.cursor.here cursor.here, cursor }

end SexprLexer.Pattern.Read
