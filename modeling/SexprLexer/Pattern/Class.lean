import SexprLexer.Pattern.Item

/-!
# Classes

A class lists the characters of a set: single ones, ranges, classes with names and other classes,
between which there may be operators. All operators bind alike, from left to right.
-/

namespace SexprLexer.Pattern.Read

/-- The class of ASCII characters with a name. -/
def asciiClass? : String → Option CharSet
  | "alnum" => some (.between '0' '9' ∪ .between 'A' 'Z' ∪ .between 'a' 'z')
  | "alpha" => some (.between 'A' 'Z' ∪ .between 'a' 'z')
  | "ascii" => some (.between '\x00' '\x7f')
  | "blank" => some (.ofList ['\t', ' '])
  | "cntrl" => some (.between '\x00' '\x1f' ∪ .singleton '\x7f')
  | "digit" => some digitCharacters
  | "graph" => some (.between '!' '~')
  | "lower" => some (.between 'a' 'z')
  | "print" => some (.between ' ' '~')
  | "punct" => some (.between '!' '/' ∪ .between ':' '@' ∪ .between '[' '\x60' ∪
      .between '\x7b' '~')
  | "space" => some spaceCharacters
  | "upper" => some (.between 'A' 'Z')
  | "word" => some wordCharacters
  | "xdigit" => some (.between '0' '9' ∪ .between 'A' 'F' ∪ .between 'a' 'f')
  | _ => none

/-- A named class such as `[:alpha:]` or `[:^alpha:]` at the cursor, and the cursor after it. -/
def namedAscii? (c : Cursor) : Option (CharSet × Bool × Cursor) := do
  let start ← c.after? ['[', ':']
  let negated := start.next? == some '^'
  let (name, c) := (if negated then start.advance else start).takeRunExactly (· != ':')
  let c ← c.after? [':', ']']
  let set ← asciiClass? (String.ofList name)
  pure (set, negated, c)

/-- Adds a class of ASCII characters to the innermost open class. -/
def pushNamedAscii (set : CharSet) (negated : Bool) (extent : Extent) : Read Unit := do
  let set ← foldCase set false extent
  let set ← if negated then complement set extent else pure set
  pushMembers set true extent []

/-- Moves on in the beginning of a class, which must not end there. -/
def moveInOpening (extent : Cursor → Extent) (c : Cursor) : Read Unit := do
  moveTo c
  if c.rest.isEmpty then stop .unclosedClass (extent c)

/-- Reads the hyphens that a class may begin with and that are its first members. There are at
most as many as `count`. -/
def readHyphens (start : Location) : Nat → Read Unit
  | 0 => pure ()
  | count + 1 => do
    let c ← cursor
    if c.next? == some '-' then
      pushMembers (.singleton '-') false c.extent []
      moveInOpening (fun _ => ⟨start, start⟩) c.advanceSkipping
      readHyphens start count

/-- Reads the beginning of a class. A bracket that closes it right away is its first member. -/
def openClass : Read Unit := do
  let start := (← cursor).here
  let outside := (← get).members
  moveInOpening (·.since start) (← cursor).advanceSkipping
  let negated := (← cursor).next? == some '^'
  if negated then moveInOpening (·.since start) (← cursor).advanceSkipping
  modify fun r => { r with members := .none r.cursor.here }
  readHyphens start (← cursor).rest.length
  let c ← cursor
  if (← get).members.count == 0 && c.next? == some ']' then
    pushMembers (.singleton ']') false c.extent []
    moveInOpening (·.since start) c.advanceSkipping
  let opening := (← cursor).since start
  modify fun r => { r with classes := ⟨opening, negated, outside, none⟩ :: r.classes }

/-- Gives up because the innermost open class does not end. -/
def refuseOpenClass {α : Type} (c : Cursor) : Read α := do
  match (← get).classes with
  | [] => stop .unclosedClass c.point
  | innermost :: _ => stop .unclosedClass innermost.opening

/-- The result of the operation that waits for its right side. Where case does not count, both
sides are folded before. -/
def finishOperation (left : Option (SetOperation × Members)) (right : Members) :
    Read Members := do
  let right := right.whole
  match left with
  | none => pure right
  | some (operation, left) =>
    let rightSet ← foldCase right.set right.folded right.extent
    let leftSet ← foldCase left.set left.folded left.extent
    let extent := ⟨left.extent.first, right.extent.past⟩
    let nesting := (left.nesting.beside right.nesting).within extent
    pure ⟨operation.apply leftSet rightSet, true, extent, 1, nesting⟩

/-- Reads an operator between two sets of members. -/
def readSetOperator (operation : SetOperation) : Read Unit := do
  let r ← get
  match r.classes with
  | [] => pure ()
  | innermost :: classes =>
    let left ← finishOperation innermost.left r.members
    let cursor := r.cursor.advance.advance
    modify fun r => { r with
      cursor
      members := .none cursor.here
      classes := { innermost with left := some (operation, left) } :: classes }

/-- Reads the end of a class. It is a member of the class around it, or an item. -/
def closeClass : Read Unit := do
  let r ← get
  match r.classes with
  | [] => pure ()
  | innermost :: classes =>
    let members ← finishOperation innermost.left r.members
    let cursor := r.cursor.advance
    let extent := cursor.since innermost.opening.first
    let set ← foldCase members.set members.folded extent
    let set ← if innermost.negated then complement set extent else pure set
    let nesting := members.nesting.within extent
    modify fun r => { r with cursor, members := innermost.outside, classes }
    if classes.isEmpty then pushItem ⟨⟨ofSet set, nesting⟩, extent.first, true⟩
    else pushMembers set true extent nesting

/-- Reads a character or an escape within a class. -/
def readMember : Read (Escape × Extent) := do
  let c ← cursor
  match c.next? with
  | none => refuseOpenClass c
  | some '\\' => moving readEscape
  | some d =>
    moveTo c.advance
    pure (.literal d false, c.extent)

/-- Adds what an escape stands for to the innermost open class. -/
def pushMember (escape : Escape) (extent : Extent) : Read Unit := do
  match escape with
  | .literal c byte =>
    checkByte c byte extent
    pushMembers (.singleton c) false extent []
  | .members set negated => pushMembers (← namedClass set negated extent) true extent []
  | .property name =>
    askForProperty name extent
    pushMembers ∅ true extent []
  | .textStart | .textEnd | .word _ => stop .notInClass extent

/-- Adds a range to the innermost open class. -/
def pushRange (first last : Escape × Extent) : Read Unit := do
  let extent : Extent := ⟨first.2.first, last.2.past⟩
  match first.1, last.1 with
  | .literal c byte, .literal d byte' =>
    if d < c then stop .reversedRange extent
    checkByte c byte first.2
    checkByte d byte' last.2
    pushMembers (.between c d) false extent []
  | .literal _ _, _ => stop .notInRange last.2
  | _, _ => stop .notInRange first.2

/-- Reads a member of a class or a range of members. A hyphen before a bracket or before another
hyphen makes no range. -/
def readMembers : Read Unit := do
  let first ← readMember
  let c := (← cursor).skipSpace
  moveTo c
  if c.rest.isEmpty then refuseOpenClass c
  if c.next? != some '-' || c.beyond? == some ']' || c.beyond? == some '-' then
    pushMember first.1 first.2
  else
    let beyond := c.advanceSkipping
    moveTo beyond
    if beyond.rest.isEmpty then refuseOpenClass beyond
    pushRange first (← readMember)

/-- Reads what the character `c` begins within a class. -/
def readInClass (c : Char) : Read Unit := do
  let here ← cursor
  match c with
  | '[' =>
    match namedAscii? here with
    | some (set, negated, after) =>
      moveTo after
      pushNamedAscii set negated (after.since here.here)
    | none => openClass
  | ']' => closeClass
  | _ =>
    match SetOperation.ofChar? c with
    | some operation =>
      if here.advance.next? == some c then readSetOperator operation else readMembers
    | none => readMembers

end SexprLexer.Pattern.Read
