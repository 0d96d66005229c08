import SexprLexer.Pattern.Escape
import SexprLexer.Pattern.Flags
import SexprLexer.Pattern.Nesting
import SexprLexer.Pattern.Simple

/-!
# Reading patterns

The text of a pattern is read item by item. What is open at a place, groups and classes within
each other, is kept on two stacks. A text that is no pattern at all is refused where that first
shows; one that is a pattern but asks for more than can be looked for is refused only when all of
it has been read, because of the first thing that it asks for in vain.
-/

namespace SexprLexer.Pattern

/-! ### Items -/

/-- A pattern that has been read, and the constructs that it is made of. -/
structure Part where
  pattern : Pattern
  nesting : Nesting

/-- A part that may be followed by a repetition operator. -/
structure Item extends Part where
  first : Location
  /-- Whether it can be repeated. A change of flags cannot. -/
  repeatable : Bool

/-- What has been read of the inside of a group, or of the whole pattern. -/
structure Level where
  first : Location
  /-- The choices that are complete. -/
  choices : List Part
  /-- Where the choice that is being read begins. -/
  choiceFirst : Location
  /-- The items of the choice that is being read; the latest comes first. -/
  items : List Item

namespace Level

/-- Nothing has been read from the place `first` on. -/
def start (first : Location) : Level := ⟨first, [], first, []⟩

/-- Adds an item. -/
def push (level : Level) (item : Item) : Level := { level with items := item :: level.items }

/-- The choice that is being read, if it ends before `past`. -/
def choice (level : Level) (past : Location) : Part :=
  let items := level.items.reverse
  let nesting := Nesting.ofParts (items.map (·.nesting))
  { pattern := ofSequence (items.map (·.pattern))
    nesting := if 2 ≤ items.length then nesting.within ⟨level.choiceFirst, past⟩ else nesting }

/-- Begins a new choice at the place `first`, after the one that ends before `past`. -/
def branch (level : Level) (past first : Location) : Level :=
  { level with choices := level.choices ++ [level.choice past], choiceFirst := first, items := [] }

/-- All that has been read, if it ends before `past`. -/
def toPart (level : Level) (past : Location) : Part :=
  match level.choices with
  | [] => level.choice past
  | choices =>
    let choices := choices ++ [level.choice past]
    { pattern := ofChoices (choices.map (·.pattern))
      nesting := (Nesting.ofParts (choices.map (·.nesting))).within ⟨level.first, past⟩ }

end Level

/-- A group that has not ended yet. -/
structure Group where
  opening : Extent
  /-- The number of the group, if it is one of those that are counted. -/
  number : Option Nat
  /-- What has been read before the group. -/
  outside : Level
  flags : Flags

/-! ### Classes -/

/-- The members of a class, or those on one side of an operator. -/
structure Members where
  set : CharSet
  /-- Whether it is known that the set holds both cases of its letters. -/
  folded : Bool
  /-- Where the members stand. -/
  extent : Extent
  count : Nat
  nesting : Nesting

namespace Members

/-- No members, at the place `here`. -/
def none (here : Location) : Members := ⟨∅, true, ⟨here, here⟩, 0, []⟩

/-- Adds the members that stand in a stretch. -/
def push (members : Members) (set : CharSet) (folded : Bool) (extent : Extent)
    (nesting : Nesting) : Members where
  set := members.set ∪ set
  folded := members.folded && folded
  extent := if members.count = 0 then extent else ⟨members.extent.first, extent.past⟩
  count := members.count + 1
  nesting := members.nesting.beside nesting

/-- The members as a whole. Several of them are a construct of their own. -/
def whole (members : Members) : Members :=
  if members.count < 2 then members
  else { members with count := 1, nesting := members.nesting.within members.extent }

end Members

/-- An operation on two sets of members. -/
inductive SetOperation where
  | intersection
  | difference
  | symmetricDifference

/-- The operation that a character stands for if it comes twice. -/
def SetOperation.ofChar? : Char → Option SetOperation
  | '&' => some intersection
  | '-' => some difference
  | '~' => some symmetricDifference
  | _ => none

/-- The result of an operation. -/
def SetOperation.apply (s t : CharSet) : SetOperation → CharSet
  | intersection => s ∩ t
  | difference => s \ t
  | symmetricDifference => s.symmetricDifference t

/-- A class that has not ended yet. -/
structure OpenClass where
  opening : Extent
  negated : Bool
  /-- The members of the class around it that have been read before. -/
  outside : Members
  /-- The operation that waits for its right side. -/
  left : Option (SetOperation × Members)

/-! ### Readers -/

/-- What is known of a pattern after a part of its text. -/
structure Reader where
  cursor : Cursor
  flags : Flags
  level : Level
  groups : List Group
  /-- The number of groups that are counted. -/
  groupCount : Nat
  /-- The members of the innermost open class. -/
  members : Members
  classes : List OpenClass
  /-- The names of groups, and where they stand. -/
  names : List (String × Extent)
  /-- The first thing that the pattern asks for in vain. -/
  vain : Option Slip

/-- A reader at the beginning of a pattern. -/
def Reader.start (pattern : String) : Reader where
  cursor := .ofString pattern
  flags := .initial
  level := .start (.start none)
  groups := []
  groupCount := 0
  members := .none (.start none)
  classes := []
  names := []
  vain := none

/-- Reading a part of a pattern with regard to what came before. -/
abbrev Read := StateT Reader (Except Slip)

namespace Read

/-- Reads a part of the pattern whose meaning does not depend on what came before. -/
def moving {α : Type} (reading : Reading α) : Read α := do
  let r ← get
  let (a, cursor) ← (reading.run r.cursor : Except Slip (α × Cursor))
  set { r with cursor }
  pure a

/-- The cursor. -/
def cursor : Read Cursor := return (← get).cursor

/-- Puts the cursor somewhere else. -/
def moveTo (cursor : Cursor) : Read Unit := modify fun r => { r with cursor }

/-- The flags. -/
def flags : Read Flags := return (← get).flags

/-- Changes the flags. -/
def setFlags (flags : Flags) : Read Unit :=
  modify fun r => { r with flags, cursor := { r.cursor with spaced := flags.spaced } }

/-- Takes note of something that the pattern asks for in vain. -/
def asksInVain (cause : Cause) (extent : Extent) : Read Unit :=
  modify fun r => { r with vain := r.vain <|> some ⟨cause, extent, none⟩ }

/-- Adds an item. -/
def pushItem (item : Item) : Read Unit := modify fun r => { r with level := r.level.push item }

/-- Adds an item that holds no other one. -/
def pushLeaf (pattern : Pattern) (extent : Extent) : Read Unit :=
  pushItem ⟨⟨pattern, []⟩, extent.first, true⟩

/-- Adds members to the innermost open class. -/
def pushMembers (set : CharSet) (folded : Bool) (extent : Extent) (nesting : Nesting) :
    Read Unit :=
  modify fun r => { r with members := r.members.push set folded extent nesting }

end Read

end SexprLexer.Pattern
