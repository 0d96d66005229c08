import SexprLexer.Pattern.Basic

/-!
# Simple forms of patterns

Patterns are put together in their simplest form: what takes up nothing is left out, characters
that follow each other are one literal, a choice between single characters is a set, and what all
choices begin with is written once, before them.
-/

namespace SexprLexer.Pattern

/-- One character of a set; if there is only one, that character. -/
def ofSet (set : CharSet) : Pattern :=
  match set.single? with
  | some c => literal [c]
  | none => one set

/-- The parts of a pattern that follow each other. -/
def items : Pattern → List Pattern
  | empty => []
  | sequence first second => first.items ++ second.items
  | p => [p]

/-- A pattern before some others; two literals are joined. -/
def before (p : Pattern) (ps : List Pattern) : List Pattern :=
  match p, ps with
  | literal text, literal more :: rest => literal (text ++ more) :: rest
  | p, ps => p :: ps

/-- The sequence of some patterns as they stand. -/
def chain : List Pattern → Pattern
  | [] => empty
  | [p] => p
  | p :: ps => sequence p (chain ps)

/-- Some patterns, each after the one before it. -/
def ofSequence (ps : List Pattern) : Pattern := chain ((ps.flatMap items).foldr before [])

/-- The patterns between which there is a choice. -/
def branches : Pattern → List Pattern
  | choice first second => first.branches ++ second.branches
  | p => [p]

/-- The choice between some patterns as they stand. -/
def fork : List Pattern → Pattern
  | [] => one ∅
  | [p] => p
  | p :: ps => choice p (fork ps)

/-- The set of which a pattern takes one character, where the pattern is written as a set. -/
def set? : Pattern → Option CharSet
  | one set => some set
  | _ => none

/-- The character that a pattern is, if it is just one. -/
def char? : Pattern → Option Char
  | literal [c] => some c
  | _ => none

/-- The choice between some patterns, as a set if all of them are characters or all are sets. -/
def ofBranches (ps : List Pattern) : Pattern :=
  match ps with
  | [p] => p
  | _ =>
    match ps.mapM char?, ps.mapM set? with
    | some chars, _ => ofSet (.ofList chars)
    | none, some sets => ofSet (sets.foldl (· ∪ ·) ∅)
    | none, none => fork ps

/-- What two lists begin with alike. -/
def commonItems : List Pattern → List Pattern → List Pattern
  | p :: ps, q :: qs => if p = q then p :: commonItems ps qs else []
  | _, _ => []

/-- What some patterns begin with alike, if all of them have several parts. -/
def sharedItems : List Pattern → List Pattern
  | [] => []
  | p :: ps =>
    if (p :: ps).all (2 ≤ ·.items.length) then
      ps.foldl (fun shared q => commonItems shared q.items) p.items
    else []

/-- One of some patterns. -/
def ofChoices (ps : List Pattern) : Pattern :=
  let ps := ps.flatMap branches
  match ps, sharedItems ps with
  | [p], _ => p
  | _, [] => ofBranches ps
  | _, shared =>
    let rests := ps.map fun p => ofSequence (p.items.drop shared.length)
    ofSequence (shared ++ [ofBranches (rests.flatMap branches)])

/-- A pattern `least` to `most` times. To do nothing more than once is to do it once. -/
def ofRepetition (p : Pattern) (least : Nat) (most : Option Nat) (greedy : Bool) : Pattern :=
  let least := if p.takesNothing then min least 1 else least
  let most := if p.takesNothing then some (min (most.getD 1) 1) else most
  if most = some 0 then empty
  else if least = 1 ∧ most = some 1 then p
  else repetition p least most greedy

end SexprLexer.Pattern
