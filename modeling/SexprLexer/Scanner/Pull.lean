import SexprLexer.Scanner.Event
import SexprLexer.Text.Blank

/-!
# Pulling one token out of a text

A pull reads a text, which stands at a given place, up to the end of its first token. Characters
that begin no token are passed over on the way, and those of them that are not blank are recorded.
Main statements: a pull leaves an end of the text and is then at the place where that end stands
(`exists_eq_append_rest`); a pull that finds a token leaves less than it was given
(`length_rest_lt`), and one that finds none leaves nothing (`rest_eq_nil`).
-/

namespace SexprLexer

/-- What one pull meets, and where it leaves off. The character that it has looked at last, to
decide what begins there, stands at `start`. -/
structure Pull where
  events : List ScanEvent
  skipped : List Skipped
  token : Option Token
  start : Nat
  here : Location
  rest : List Char

namespace Pull

/-- The pull that is at the end of its text, where there is nothing to look at. -/
def atEnd (start : Nat) (here : Location) : Pull where
  events := [.entered .initial here.offset]
  skipped := []
  token := none
  start := start
  here := here
  rest := []

/-- The record of the character `c`, which stands at `here` and begins no token. -/
def recordOf (here : Location) (c : Char) : List Skipped :=
  if Text.isBlank c then [] else [⟨c, here⟩]

/-- Puts the character `c`, which stands at `here` and begins no token, before a pull. -/
def passing (here : Location) (c : Char) (later : Pull) : Pull :=
  { later with
    events := .entered .initial here.offset :: (recordOf here c).map .skipping ++ later.events
    skipped := recordOf here c ++ later.skipped }

/-- The offsets at which a scan looks for one more character of an identifier: `ahead`, after the
first character, and the offset after each of the further characters. -/
def lookaheads (ahead : Nat) : List Char → List Nat
  | [] => [ahead]
  | c :: further => ahead :: lookaheads (ahead + c.utf8Size) further

/-- What happens between the first look at a token at `here` and its end. Only an identifier needs
looking ahead. -/
def lookingAhead (kind : Token.Kind) (here : Location) (c : Char) (further : List Char) :
    List ScanEvent :=
  match kind with
  | .identifier =>
    .identifierBegins here.offset ::
      (lookaheads (here.offset + c.utf8Size) further).map fun ahead =>
        .entered (.identifier ahead) here.offset
  | .leftParen | .rightParen => []

/-- The pull that hands out the token which stands at `here`, is made of `c` and the characters
`further`, and is followed by `rest`. -/
def handingOut (kind : Token.Kind) (here : Location) (c : Char) (further rest : List Char) :
    Pull :=
  let token : Token := ⟨kind, String.ofList (c :: further), here⟩
  let stop := here.pastToken (c :: further)
  { events :=
      .entered .initial here.offset :: lookingAhead kind here c further ++
        [.entered (.emit kind stop.offset) here.offset, .emitted token stop.offset]
    skipped := []
    token := some token
    start := here.offset
    here := stop
    rest := rest }

/-- The pull from a text that stands at `here`; the character looked at before stands at
`start`. -/
def ofText (start : Nat) (here : Location) : List Char → Pull
  | [] => atEnd start here
  | c :: text =>
    match Token.Kind.begunBy? c with
    | none => passing here c (ofText here.offset (here.advance c) text)
    | some kind => handingOut kind here c (kind.span text).1 (kind.span text).2

/-! ### What a pull leaves -/

/-- A pull leaves an end of its text and is at the place where this end stands. -/
theorem exists_eq_append_rest (start : Nat) (here : Location) (text : List Char) :
    ∃ passed, text = passed ++ (ofText start here text).rest ∧
      (ofText start here text).here = here.after passed := by
  induction text generalizing start here with
  | nil => exact ⟨[], rfl, rfl⟩
  | cons c text ih =>
    rw [ofText]
    split
    · obtain ⟨passed, htext, hhere⟩ := ih here.offset (here.advance c)
      exact ⟨c :: passed, congrArg (c :: ·) htext, hhere⟩
    · next kind hkind =>
      refine ⟨c :: (kind.span text).1, congrArg (c :: ·) (kind.span_append text).symm, ?_⟩
      exact Location.pastToken_eq_after (Token.Kind.newline_not_mem hkind text) here

/-- A pull that finds a token leaves less than it was given. -/
theorem length_rest_lt {start : Nat} {here : Location} {text : List Char} {token : Token}
    (h : (ofText start here text).token = some token) :
    (ofText start here text).rest.length < text.length := by
  induction text generalizing start here with
  | nil => simp [ofText, atEnd] at h
  | cons c text ih =>
    rw [ofText] at h ⊢
    split at h
    · exact Nat.lt_succ_of_lt (ih h)
    · next kind _ =>
      have := congrArg List.length (kind.span_append text)
      rw [List.length_append] at this
      simp only [handingOut, List.length_cons]
      omega

/-- A pull that finds no token leaves nothing. -/
theorem rest_eq_nil {start : Nat} {here : Location} {text : List Char}
    (h : (ofText start here text).token = none) : (ofText start here text).rest = [] := by
  induction text generalizing start here with
  | nil => rfl
  | cons c text ih =>
    rw [ofText] at h ⊢
    split at h
    · exact ih h
    · simp [handingOut] at h

end Pull

end SexprLexer
