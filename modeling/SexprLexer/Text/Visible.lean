/-!
# What a text shows

A terminal takes some stretches of a text as instructions: the escape character begins a sequence
whose length depends on what follows. A text that goes elsewhere is written without these
sequences and without the other control characters, of which only tab, line feed, form feed and
carriage return stay. Main statement: a text without control characters is written as it is.
-/

namespace SexprLexer.Text

/-- The escape character. -/
def escapeCharacter : Char := '\x1b'

/-- How far a control sequence has come. -/
inductive SequenceState where
  /-- Outside of all sequences. -/
  | outside
  /-- After the escape character. -/
  | escaped
  /-- After the escape character and some characters that select a character set. -/
  | selecting
  /-- In a sequence of parameters, which a letter ends. -/
  | control
  /-- At the beginning of a device control string. -/
  | device
  /-- Among the parameters of a device control string. -/
  | deviceParameters
  /-- After the parameters of a device control string, before the letter that names it. -/
  | deviceSelecting
  /-- In a string that the byte `0x9c` ends. -/
  | string
  /-- In a string that the bell ends. -/
  | command
  deriving DecidableEq

/-- Whether `c` is one of the control characters that stay in a text. -/
def isKeptControl (c : Char) : Bool :=
  c == '\t' || c == '\n' || c == '\x0c' || c == '\r'

/-- Whether `c` shows outside of all sequences. -/
def isShown (c : Char) : Bool :=
  isKeptControl c || decide (' ' ≤ c ∧ c ≠ '\x7f')

/-- Whether one of the bytes of `c` after its first is `0x9c`. -/
def holdsTerminator (c : Char) : Bool :=
  (String.utf8EncodeChar c).tail.contains 0x9c

/-- Whether `c` lies between two characters, both included. -/
def isBetween (first last c : Char) : Bool := decide (first ≤ c ∧ c ≤ last)

namespace SequenceState

/-- The state after the escape character and `c`. -/
def ofIntroducer (c : Char) : SequenceState :=
  if isBetween ' ' '/' c then selecting
  else if c = '[' then control
  else if c = ']' then command
  else if c = 'P' then device
  else if c = 'X' ∨ c = '^' ∨ c = '_' then string
  else if isBetween '0' '~' c then outside
  else escaped

/-- The state after `c`. The escape character begins a new sequence from anywhere, and two control
characters end any. -/
def after (state : SequenceState) (c : Char) : SequenceState :=
  if c = escapeCharacter then escaped
  else if c = '\x18' ∨ c = '\x1a' then outside
  else
    match state with
    | outside => outside
    | escaped => ofIntroducer c
    | selecting => if isBetween '0' '~' c then outside else selecting
    | control => if isBetween '@' '~' c then outside else control
    | device =>
      if isBetween ' ' '/' c then deviceSelecting
      else if isBetween '0' '?' c then deviceParameters
      else if isBetween '@' '~' c then string
      else device
    | deviceParameters =>
      if isBetween ' ' '/' c then deviceSelecting
      else if isBetween '<' '~' c then string
      else deviceParameters
    | deviceSelecting => if isBetween '0' '~' c then string else deviceSelecting
    | string => if holdsTerminator c then outside else string
    | command => if c = '\x07' then outside else command

/-- Whether `c` shows in a state. The kept control characters show in short sequences too. -/
def shows (state : SequenceState) (c : Char) : Bool :=
  match state with
  | outside => isShown c
  | escaped | selecting | control => isKeptControl c
  | device | deviceParameters | deviceSelecting | string | command => false

end SequenceState

/-- What a text shows from a state on. What follows a shown character shows as it would outside of
all sequences, up to the first character that does not: there a sequence that was begun before
goes on, unless a character from beyond ASCII came in between. -/
def shown (state : SequenceState) (afterShown : Bool) : List Char → List Char
  | [] => []
  | c :: text =>
    if afterShown && isShown c then
      c :: shown (if c.toNat < 128 then state else .outside) true text
    else if state.shows c then c :: shown (state.after c) true text
    else shown (state.after c) false text

/-- What a text shows where there is no terminal. -/
def visible (text : String) : String := String.ofList (shown .outside false text.toList)

/-- A text without control characters is written as it is. -/
theorem shown_eq_self {text : List Char} (h : ∀ c ∈ text, isShown c = true) (afterShown : Bool) :
    shown .outside afterShown text = text := by
  induction text generalizing afterShown with
  | nil => rfl
  | cons c text ih =>
    have hc : isShown c = true := h c (by simp)
    have htext := ih (fun d hd => h d (by simp [hd])) true
    have hafter : SequenceState.outside.after c = .outside := by
      unfold SequenceState.after
      have : c ≠ escapeCharacter := by rintro rfl; revert hc; decide
      simp [this]
    simp [shown, SequenceState.shows, hc, hafter, htext]

theorem visible_eq_self {text : String} (h : ∀ c ∈ text.toList, isShown c = true) :
    visible text = text := by
  rw [visible, shown_eq_self h, String.ofList_toList]

end SexprLexer.Text
