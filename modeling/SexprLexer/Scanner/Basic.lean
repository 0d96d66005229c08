import SexprLexer.Scanner.Pull

/-!
# Scanners

A scanner is a cursor in a source: the place it has reached, the text that is left, the offset of
the character it looked at last, and the characters it has skipped on the way. It gives one token
at a time and reads no further than that token.
-/

namespace SexprLexer

/-- A cursor in a source. -/
structure Scanner where
  start : Nat
  here : Location
  rest : List Char
  skipped : List Skipped

namespace Scanner

/-- A scanner at the beginning of `source`; the locations it gives carry `filename`. -/
def ofString (source : String) (filename : Option String) : Scanner where
  start := 0
  here := .start filename
  rest := source.toList
  skipped := []

/-- The number of bytes read so far. -/
def position (s : Scanner) : Nat := s.here.offset

/-- The text that is not read yet. -/
def remaining (s : Scanner) : String := String.ofList s.rest

/-- Whether everything is read. -/
def atEnd (s : Scanner) : Bool := s.rest.isEmpty

/-- The next pull. -/
def pull (s : Scanner) : Pull := .ofText s.start s.here s.rest

/-- The next token, if there is one, and the scanner after it. -/
def next (s : Scanner) : Option Token × Scanner :=
  let p := s.pull
  (p.token, { start := p.start, here := p.here, rest := p.rest, skipped := s.skipped ++ p.skipped })

/-- After a token less text is left than before. -/
theorem length_rest_lt_of_next {s after : Scanner} {token : Token}
    (h : s.next = (some token, after)) : after.rest.length < s.rest.length := by
  obtain ⟨htoken, rfl⟩ := Prod.mk.inj h
  exact Pull.length_rest_lt htoken

/-- Where no token is left, everything is read. -/
theorem rest_eq_nil_of_next {s after : Scanner} (h : s.next = (none, after)) :
    after.rest = [] := by
  obtain ⟨htoken, rfl⟩ := Prod.mk.inj h
  exact Pull.rest_eq_nil htoken

/-! ### One character at a time -/

/-- At the end of a source there is no token. -/
theorem next_nil (start : Nat) (here : Location) (skipped : List Skipped) :
    next ⟨start, here, [], skipped⟩ = (none, ⟨start, here, [], skipped⟩) := by
  simp [next, pull, Pull.ofText, Pull.atEnd]

/-- Before a character that begins no token, the next token is the one after this character. -/
theorem next_cons_of_none {c : Char} (h : Token.Kind.begunBy? c = none) (start : Nat)
    (here : Location) (text : List Char) (skipped : List Skipped) :
    next ⟨start, here, c :: text, skipped⟩ =
      next ⟨here.offset, here.advance c, text, skipped ++ Pull.recordOf here c⟩ := by
  simp [next, pull, Pull.ofText, h, Pull.passing]

/-- Before a character that begins a token, the next token begins with this character. -/
theorem next_cons_of_some {c : Char} {kind : Token.Kind} (h : Token.Kind.begunBy? c = some kind)
    (start : Nat) (here : Location) (text : List Char) (skipped : List Skipped) :
    next ⟨start, here, c :: text, skipped⟩ =
      (some ⟨kind, String.ofList (c :: (kind.span text).1), here⟩,
        ⟨here.offset, here.pastToken (c :: (kind.span text).1), (kind.span text).2, skipped⟩) := by
  simp [next, pull, Pull.ofText, h, Pull.handingOut]

end Scanner

end SexprLexer
