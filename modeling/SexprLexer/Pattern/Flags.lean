import SexprLexer.Pattern.Cursor

/-!
# Flags

Flags change the meaning of the rest of a group: `(?i)`, `(?s-m:…)`.
-/

namespace SexprLexer.Pattern

/-- How the items of a pattern are understood. -/
structure Flags where
  ignoresCase : Bool
  /-- Whether `^` and `$` stand for the ends of lines. -/
  multiLine : Bool
  /-- Whether `.` stands for line ends too. -/
  dotIsAll : Bool
  /-- Whether a carriage return may end a line. -/
  returns : Bool
  /-- Whether characters are meant, not bytes. -/
  unicode : Bool
  spaced : Bool
  /-- Whether repetitions take as little as they can. -/
  lazy : Bool

/-- The flags at the beginning of a pattern. -/
def Flags.initial : Flags where
  ignoresCase := false
  multiLine := false
  dotIsAll := false
  returns := false
  unicode := true
  spaced := false
  lazy := false

/-- One of the signs of which a change of flags is made. -/
inductive FlagSign where
  /-- The flags after it are turned off. -/
  | negation
  | ignoresCase
  | multiLine
  | dotIsAll
  | returns
  | unicode
  | spaced
  | lazy
  deriving DecidableEq

/-- The sign that a character is. -/
def FlagSign.ofChar? : Char → Option FlagSign
  | '-' => some negation
  | 'i' => some ignoresCase
  | 'm' => some multiLine
  | 's' => some dotIsAll
  | 'R' => some returns
  | 'u' => some unicode
  | 'x' => some spaced
  | 'U' => some lazy
  | _ => none

/-- The flags after some signs; `on` tells whether the next sign turns its flag on. -/
def Flags.changed (on : Bool) (flags : Flags) : List FlagSign → Flags
  | [] => flags
  | .negation :: signs => changed false flags signs
  | .ignoresCase :: signs => changed on { flags with ignoresCase := on } signs
  | .multiLine :: signs => changed on { flags with multiLine := on } signs
  | .dotIsAll :: signs => changed on { flags with dotIsAll := on } signs
  | .returns :: signs => changed on { flags with returns := on } signs
  | .unicode :: signs => changed on { flags with unicode := on } signs
  | .spaced :: signs => changed on { flags with spaced := on } signs
  | .lazy :: signs => changed on { flags with lazy := on } signs

/-- Reads signs up to the colon or the parenthesis that ends them, after those that were read
before. No sign may come twice, and a negation must have something to negate. -/
def readSigns (bound : Location) (seen : List (FlagSign × Extent)) :
    List Placed → Except Slip (List (FlagSign × Extent) × List Placed)
  | [] => .error ⟨.endInFlags, ⟨bound, bound⟩, none⟩
  | (here, c) :: text =>
    let extent : Extent := ⟨here, here.advance c⟩
    if c = ':' ∨ c = ')' then
      match seen.getLast? with
      | some (.negation, negation) => .error ⟨.danglingNegation, negation, none⟩
      | _ => .ok (seen, (here, c) :: text)
    else
      match FlagSign.ofChar? c with
      | none => .error ⟨.unrecognizedFlag, extent, none⟩
      | some sign =>
        match seen.lookup sign with
        | some earlier =>
          let cause := if sign = .negation then .repeatedNegation else .repeatedFlag
          .error ⟨cause, extent, some earlier⟩
        | none => readSigns bound (seen ++ [(sign, extent)]) text

end SexprLexer.Pattern
