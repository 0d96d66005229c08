import SexprLexer.Pattern.Reader

/-!
# Items

An item of a pattern stands for one character of some set, or for a place between two characters.
Which one it is depends on the flags.
-/

namespace SexprLexer.Pattern.Read

/-! ### Sets -/

/-- A set as the flags want it as to case. A set that is `folded` stays as it is. -/
def foldCase (set : CharSet) (folded : Bool) (extent : Extent) : Read CharSet := do
  let flags ← flags
  if !flags.ignoresCase || folded then return set
  if flags.unicode then asksInVain .unknownCase extent
  return set.ignoringCase

/-- The complement of a set, which as a set of bytes would hold more than characters. -/
def complement (set : CharSet) (extent : Extent) : Read CharSet := do
  if !(← flags).unicode then asksInVain .notACharacter extent
  return set.complement

/-- Makes sure that a character is meant, or one byte where bytes are meant. -/
def checkByte (c : Char) (byte : Bool) (extent : Extent) : Read Unit := do
  if !(← flags).unicode && 128 ≤ c.toNat then
    asksInVain (if byte then .notACharacter else .notAByte) extent

/-- The members of a class that a backslash and a letter stand for. -/
def namedClass (set : CharSet) (negated : Bool) (extent : Extent) : Read CharSet := do
  if (← flags).unicode then asksInVain .unknownClass extent
  if negated then complement set extent else pure set

/-- Takes note of a property, all of which are unknown. -/
def askForProperty (name : List Char) (extent : Extent) : Read Unit := do
  asksInVain (if (← flags).unicode then propertyCause name else .notAByte) extent

/-! ### Items -/

/-- Adds a character as an item. -/
def pushLiteral (c : Char) (byte : Bool) (extent : Extent) : Read Unit := do
  let flags ← flags
  if byte then checkByte c byte extent
  let folds := flags.unicode || c.toNat < 128
  pushLeaf (ofSet (← foldCase (.singleton c) (!folds) extent)) extent

/-- Adds what an escape stands for as an item. -/
def pushEscape (escape : Escape) (extent : Extent) : Read Unit := do
  match escape with
  | .literal c byte => pushLiteral c byte extent
  | .members set negated => pushLeaf (ofSet (← namedClass set negated extent)) extent
  | .property name =>
    askForProperty name extent
    pushLeaf (ofSet ∅) extent
  | .textStart => pushLeaf (.anchor .textStart) extent
  | .textEnd => pushLeaf (.anchor .textEnd) extent
  | .word boundary => pushLeaf (.anchor (.word boundary (← flags).unicode)) extent

/-- What the dot stands for. -/
def dot (flags : Flags) : CharSet :=
  if flags.dotIsAll then .all
  else if flags.returns then (CharSet.ofList ['\n', '\r']).complement
  else (CharSet.singleton '\n').complement

/-- Reads an item that is not a group, a class or an operator. -/
def readSimple (c : Char) : Read Unit := do
  if c = '\\' then
    let (escape, extent) ← moving readEscape
    pushEscape escape extent
  else
    let here ← cursor
    let flags ← flags
    moveTo here.advance
    let extent := here.extent
    match c with
    | '.' =>
      if !flags.unicode then asksInVain .notACharacter extent
      pushLeaf (ofSet (dot flags)) extent
    | '^' =>
      pushLeaf (.anchor (if flags.multiLine then .lineStart flags.returns else .textStart)) extent
    | '$' =>
      pushLeaf (.anchor (if flags.multiLine then .lineEnd flags.returns else .textEnd)) extent
    | _ => pushLiteral c false extent

end SexprLexer.Pattern.Read
