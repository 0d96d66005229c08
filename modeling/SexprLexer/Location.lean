import SexprLexer.Text.Bytes

/-!
# Locations

A location is a place in a source: its line and column as a reader counts them, both from one,
and the number of bytes of the source that come before it. Only a line feed begins a new line,
and each character is one column wide.
-/

namespace SexprLexer

/-- A place in a source, with the name of the source if it has one. -/
structure Location where
  line : Nat
  column : Nat
  offset : Nat
  filename : Option String
  deriving DecidableEq

namespace Location

/-- The place where a source begins. -/
def start (filename : Option String) : Location := ⟨1, 1, 0, filename⟩

/-- The place right after the character `c`, if `c` stands at `here`. -/
def advance (here : Location) (c : Char) : Location :=
  if c = '\n' then
    { here with line := here.line + 1, column := 1, offset := here.offset + c.utf8Size }
  else
    { here with column := here.column + 1, offset := here.offset + c.utf8Size }

/-- The place right after `text`, if `text` stands at `here`. -/
def after (here : Location) (text : List Char) : Location := text.foldl advance here

/-- The place right after a token with the characters `lexeme`, if it stands at `here`. Only the
column and the offset move: no token goes on to another line. -/
def pastToken (here : Location) (lexeme : List Char) : Location :=
  { here with
    column := here.column + lexeme.length
    offset := here.offset + Text.byteSize lexeme }

/-- A location as messages show it: line and column, after the source's name if there is one. -/
def display (here : Location) : String :=
  let place := toString here.line ++ ":" ++ toString here.column
  match here.filename with
  | none => place
  | some name => name ++ ":" ++ place

/-! ### Passing over a text -/

@[simp]
theorem advance_filename (here : Location) (c : Char) :
    (here.advance c).filename = here.filename := by
  unfold advance; split <;> rfl

@[simp]
theorem advance_offset (here : Location) (c : Char) :
    (here.advance c).offset = here.offset + c.utf8Size := by
  unfold advance; split <;> rfl

@[simp]
theorem after_nil (here : Location) : here.after [] = here := rfl

@[simp]
theorem after_cons (here : Location) (c : Char) (text : List Char) :
    here.after (c :: text) = (here.advance c).after text := rfl

@[simp]
theorem after_append (here : Location) (text more : List Char) :
    here.after (text ++ more) = (here.after text).after more :=
  List.foldl_append

@[simp]
theorem after_filename (here : Location) (text : List Char) :
    (here.after text).filename = here.filename := by
  induction text generalizing here with
  | nil => rfl
  | cons c text ih => simp [ih]

/-- The offset grows by the size of the text. -/
@[simp]
theorem after_offset (here : Location) (text : List Char) :
    (here.after text).offset = here.offset + Text.byteSize text := by
  induction text generalizing here with
  | nil => rfl
  | cons c text ih => simp [ih, Nat.add_assoc]

/-- Passing over a token is passing over its characters, as long as no line ends within it. -/
theorem pastToken_eq_after {lexeme : List Char} (h : '\n' ∉ lexeme) (here : Location) :
    here.pastToken lexeme = here.after lexeme := by
  induction lexeme generalizing here with
  | nil => rfl
  | cons c lexeme ih =>
    rw [List.mem_cons, not_or] at h
    obtain ⟨hc, hrest⟩ := h
    have hadvance : here.advance c =
        { here with column := here.column + 1, offset := here.offset + c.utf8Size } :=
      if_neg (Ne.symm hc)
    rw [after_cons, ← ih hrest, hadvance]
    simp only [pastToken, List.length_cons, Text.byteSize_cons, mk.injEq, true_and, and_true]
    omega

end Location

end SexprLexer
