import SexprLexer.Pattern.Item

/-!
# Repetitions

An operator or a count after an item says how often the item is repeated.
-/

namespace SexprLexer.Pattern.Read

/-- Makes sure that the last item can be repeated. -/
def checkOperand : Read Unit := do
  if !(← get).level.items.head?.any (·.repeatable) then
    stop .missingOperand (← cursor).point

/-- Repeats the last item. The repetition ends before the cursor. -/
def repeatLast (least : Nat) (most : Option Nat) (greedy : Bool) : Read Unit := do
  let r ← get
  match r.level.items with
  | [] => pure ()
  | item :: items =>
    let repeated : Item :=
      { pattern := ofRepetition item.pattern least most (greedy != r.flags.lazy)
        nesting := item.nesting.within (r.cursor.since item.first)
        first := item.first
        repeatable := true }
    set { r with level := { r.level with items := repeated :: items } }

/-- Moves past the `?` after an operator, which turns its greed around, if there is one. Tells
whether the operator stays as it is. -/
def readGreed (c : Cursor) : Read Bool := do
  if c.next? == some '?' then
    moveTo c.advance
    return false
  moveTo c
  return true

/-- Reads one of the operators `?`, `*` and `+`. -/
def readOperator (least : Nat) (most : Option Nat) : Read Unit := do
  checkOperand
  let greedy ← readGreed (← cursor).advance
  repeatLast least most greedy

/-- The largest number that a count may have. -/
def largestCount : Nat := 4294967295

/-- Reads a number with blank characters around it. -/
def readNumber : Reading (Except Slip Nat) := do
  let c := ((← get).takeRun Text.isBlank).2
  let (digits, after) := c.takeRun Char.isDigit
  set (after.takeRun Text.isBlank).2
  let extent := after.since c.here
  let number := digits.foldl (fun n d => 10 * n + (d.toNat - '0'.toNat)) 0
  if digits.isEmpty then pure (.error ⟨.emptyCount, extent, none⟩)
  else if largestCount < number then pure (.error ⟨.invalidCount, extent, none⟩)
  else pure (.ok number)

/-- Moves on within a count that begins at `start`, which must not end here. -/
def moveInCount (start : Location) (c : Cursor) : Reading Unit := do
  set c
  if c.rest.isEmpty then stop .unclosedCount (c.since start)

/-- Reads the inside of a count that begins at `start`. -/
def readBounds (start : Location) : Reading (Nat × Option Nat) := do
  moveInCount start (← get).advanceSkipping
  let first ← readNumber
  moveInCount start (← get)
  if (← get).next? != some ',' then
    let n ← (first : Except Slip Nat)
    return (n, some n)
  moveInCount start (← get).advanceSkipping
  if (← get).next? == some '}' then return (← (first : Except Slip Nat), none)
  let least ← (first : Except Slip Nat)
  let second ← readNumber
  return (least, some (← (second : Except Slip Nat)))

/-- Reads a count between braces. -/
def readCount : Read Unit := do
  let start := (← cursor).here
  checkOperand
  let (least, most) ← moving (readBounds start)
  let c ← cursor
  if c.next? != some '}' then stop .unclosedCount (c.since start)
  let greedy ← readGreed c.advanceSkipping
  if most.any (· < least) then stop .reversedCount ((← cursor).since start)
  repeatLast least most greedy

end SexprLexer.Pattern.Read
