import SexprLexer.Pattern.Automaton
import SexprLexer.Pattern.Class
import SexprLexer.Pattern.Group
import SexprLexer.Pattern.Repetition

/-!
# Patterns as texts

The text of a pattern is read part by part until nothing is left. Main definition:
`Pattern.ofString`, the pattern that a text describes, or the reason why there is none.
-/

namespace SexprLexer.Pattern

namespace Read

/-- Reads what the character `c` begins outside of all classes. -/
def readOutside (c : Char) : Read Unit :=
  match c with
  | '(' => openGroup
  | ')' => closeGroup
  | '|' => branch
  | '[' => openClass
  | '?' => readOperator 0 (some 1)
  | '*' => readOperator 0 none
  | '+' => readOperator 1 none
  | '\x7b' => readCount
  | _ => readSimple c

/-- Reads the next part of a pattern. -/
def readPart : Read Unit := do
  let r ← get
  match r.cursor.next? with
  | none => pure ()
  | some c => if r.classes.isEmpty then readOutside c else readInClass c

end Read

namespace Reader

/-- The reader after the space that does not count. -/
def skipSpace (r : Reader) : Reader := { r with cursor := r.cursor.skipSpace }

/-- The reader at the end of the pattern. Each part that is read makes the rest shorter. -/
def advance (r : Reader) : Except Slip Reader := do
  let here := r.skipSpace
  if here.cursor.rest.isEmpty then return here
  let ((), next) ← Read.readPart.run here
  if next.cursor.rest.length < r.cursor.rest.length then next.advance else return next
termination_by r.cursor.rest.length

/-- The pattern that has been read, if nothing is left open, nothing is nested too deep and
nothing is asked for in vain. -/
def finish (r : Reader) : Except Slip Pattern :=
  match r.classes, r.groups with
  | innermost :: _, _ => stop .unclosedClass innermost.opening
  | [], innermost :: _ => stop .unclosedGroup innermost.opening
  | [], [] =>
    let whole := r.level.toPart r.cursor.here
    match whole.nesting.firstBeyond? depthLimit, r.vain with
    | some extent, _ => stop .nestedTooDeeply extent
    | none, some slip => throw slip
    | none, none => .ok whole.pattern

end Reader

/-- The pattern that a text describes. -/
def ofString (text : String) : Except Fault Pattern :=
  match (Reader.start text).advance.bind Reader.finish with
  | .error slip => .error (.slip text slip)
  | .ok pattern =>
    match pattern.unbuildable? with
    | some fault => .error fault
    | none => .ok pattern

end SexprLexer.Pattern
