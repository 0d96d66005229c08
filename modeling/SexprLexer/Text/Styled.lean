/-!
# Styled text

Text for a terminal is made of spans, some of which stand out by their color. On a terminal
without color the same spans are written as they are, so color never changes what is said.
-/

namespace SexprLexer.Text

/-- How a span stands out. -/
inductive Style where
  | boldRed
  | boldYellow
  | boldBlue
  | cyan
  | green
  | yellow
  | bold
  | boldUnderlined
  /-- As `boldRed`, with each of the two turned on by itself. -/
  | boldAndRed
  deriving DecidableEq

/-- The parameters of the control sequences that turn a style on, one after the other. -/
def Style.parameters : Style → List String
  | boldRed => ["1;31"]
  | boldYellow => ["1;33"]
  | boldBlue => ["1;34"]
  | cyan => ["36"]
  | green => ["32"]
  | yellow => ["33"]
  | bold => ["1"]
  | boldUnderlined => ["1", "4"]
  | boldAndRed => ["1", "31"]

/-- The control sequence with the given parameters that selects how characters are shown. -/
def controlSequence (parameters : String) : String := "\x1b[" ++ parameters ++ "m"

/-- A stretch of text of one style. -/
structure Span where
  style : Option Style
  text : String
  deriving DecidableEq

/-- A stretch of text that does not stand out. -/
def plain (text : String) : Span := ⟨none, text⟩

/-- A stretch of text that stands out. -/
def styled (style : Style) (text : String) : Span := ⟨some style, text⟩

/-- A span as it is written, with or without color. -/
def Span.render (color : Bool) (span : Span) : String :=
  match color, span.style with
  | true, some style =>
    String.join (style.parameters.map controlSequence) ++ span.text ++ controlSequence "0"
  | _, _ => span.text

/-- A line of spans, without its end. -/
abbrev Row := List Span

/-- Spans as they are written one after the other. -/
def render (color : Bool) (spans : List Span) : String :=
  String.join (spans.map (·.render color))

@[simp]
theorem render_nil (color : Bool) : render color [] = "" := rfl

@[simp]
theorem render_cons (color : Bool) (span : Span) (spans : List Span) :
    render color (span :: spans) = span.render color ++ render color spans := by
  simp [render]

@[simp]
theorem render_append (color : Bool) (spans more : List Span) :
    render color (spans ++ more) = render color spans ++ render color more := by
  induction spans with
  | nil => simp
  | cons span spans ih => simp [ih, String.append_assoc]

/-- The spans of some rows, each of which is ended by a line feed. -/
def ofRows (rows : List Row) : List Span := rows.flatMap (· ++ [plain "\n"])

end SexprLexer.Text
