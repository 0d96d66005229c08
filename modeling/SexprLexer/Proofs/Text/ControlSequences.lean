import SexprLexer.Proofs.Log.Lines
import SexprLexer.Text.Lines
import SexprLexer.Text.Styled

/-!
# Control sequences in a text

A reader of a text with styles takes it apart into the characters that it shows and the control
sequences that turn styles on and off. Main statements: where the escape character is in no span,
taking the control sequences out of spans written with color leaves them as they are written without
color, and no style is left on at the end of a row (`Text.decorates_render`).
-/

namespace SexprLexer.Text

/-! ### Texts without the escape character -/

/-- Whether the escape character is not in a text. -/
def EscapeFree (text : String) : Prop := escapeCharacter ∉ text.toList

instance (text : String) : Decidable (EscapeFree text) := inferInstanceAs (Decidable (_ ∉ _))

namespace EscapeFree

variable {text more : String}

theorem append (h : EscapeFree text) (h' : EscapeFree more) : EscapeFree (text ++ more) := by
  intro hmem
  rw [String.toList_append, List.mem_append] at hmem
  exact hmem.elim h h'

/-- Characters that show are no escape characters. -/
theorem of_isShown (h : ∀ c ∈ text.toList, isShown c = true) : EscapeFree text := by
  intro hmem
  have hshown := h _ hmem
  revert hshown
  decide

/-- A text of printed characters and those of a name has the escape character only if the name
has. -/
theorem of_printsBut (h : PrintsBut more text) (hname : EscapeFree more) : EscapeFree text := by
  intro hmem
  rcases h _ hmem with hprinted | hmem
  · revert hprinted
    decide
  · exact hname hmem

theorem toString (n : Nat) : EscapeFree (toString n) := .of_printsBut (.toString "" n) (by decide)

theorem quoteChar (c : Char) : EscapeFree (quoteChar c) :=
  .of_printsBut (.quoteChar "" c) (by decide)

theorem quoteText (text : String) : EscapeFree (quoteText text) :=
  .of_printsBut (.quoteText "" text) (by decide)

/-- What shows of a text where there is no terminal. -/
theorem visible (text : String) : EscapeFree (visible text) := by
  apply of_isShown
  rw [Text.visible, String.toList_ofList]
  generalize SequenceState.outside = state
  generalize false = afterShown
  -- A character shows outside of sequences, or is a control character that is kept.
  have hshows : ∀ {state : SequenceState} {c : Char}, state.shows c = true → isShown c = true := by
    intro state c h
    cases state <;> simp_all [SequenceState.shows, isShown]
  induction text.toList generalizing state afterShown with
  | nil => simp [shown]
  | cons c text ih =>
    intro d hd
    unfold shown at hd
    split at hd
    · next hshown =>
      rcases List.mem_cons.1 hd with rfl | hd
      · exact (Bool.and_eq_true _ _ ▸ hshown).2
      · exact ih _ _ d hd
    · split at hd
      · next hstate =>
        rcases List.mem_cons.1 hd with rfl | hd
        · exact hshows hstate
        · exact ih _ _ d hd
      · exact ih _ _ d hd

end EscapeFree

/-! ### Taking a text apart -/

/-- What a text with styles is made of: characters that show, and control sequences, each with its
parameters. -/
inductive Piece where
  | character (c : Char)
  | sequence (parameters : List Char)
  deriving DecidableEq

/-- Whether `c` belongs to the parameters of a control sequence. -/
def isParameter (c : Char) : Bool := c.isDigit || c == ';'

/-- The parameters of the control sequence with which a text begins, and what comes after this
sequence, if the text begins with one. -/
def sequence? : List Char → Option (List Char × List Char)
  | '\x1b' :: '[' :: text =>
    match text.dropWhile isParameter with
    | 'm' :: rest => some (text.takeWhile isParameter, rest)
    | _ => none
  | _ => none

theorem length_lt_of_sequence? {text parameters rest : List Char}
    (h : sequence? text = some (parameters, rest)) : rest.length < text.length := by
  unfold sequence? at h
  split at h
  · next text =>
    split at h
    · next rest' hdrop =>
      obtain ⟨-, rfl⟩ := Prod.mk.inj (Option.some.inj h)
      have hle := (List.dropWhile_suffix (l := text) isParameter).length_le
      rw [hdrop, List.length_cons] at hle
      simp only [List.length_cons]
      omega
    · cases h
  · cases h

/-- The pieces of a text. -/
def pieces (text : List Char) : List Piece :=
  match h : sequence? text with
  | some (parameters, rest) =>
    have := length_lt_of_sequence? h
    .sequence parameters :: pieces rest
  | none =>
    match text with
    | [] => []
    | c :: text => .character c :: pieces text
termination_by text.length

/-- The character that a piece is, if it is one. -/
def Piece.character? : Piece → Option Char
  | character c => some c
  | sequence _ => none

/-- A text without its control sequences. -/
def unstyled (text : String) : String :=
  String.ofList ((pieces text.toList).filterMap Piece.character?)

/-- Whether no style is on at the end of any row of a text, the last one included, if a style is on
before the text or not. The parameter zero turns all styles off, and all others turn one on. -/
def endsStyles : (on : Bool) → List Piece → Bool
  | on, [] => !on
  | on, .character c :: more => (c != '\n' || !on) && endsStyles on more
  | _, .sequence parameters :: more => endsStyles (parameters != ['0']) more

/-- Whether every style that is turned on in a row of a text is turned off in this row. -/
def closesRows (text : String) : Bool := endsStyles false (pieces text.toList)

theorem pieces_nil : pieces [] = [] := by
  rw [pieces]
  rfl

/-- Only the escape character begins a control sequence. -/
theorem pieces_cons_of_ne {c : Char} (h : c ≠ escapeCharacter) (text : List Char) :
    pieces (c :: text) = .character c :: pieces text := by
  have hnone : sequence? (c :: text) = none := by
    unfold sequence?
    split
    · next heq => exact absurd (List.cons.inj heq).1 h
    · rfl
  rw [pieces]
  split
  · next hsome =>
    rw [hnone] at hsome
    cases hsome
  · rfl

/-- A text without the escape character is made of its characters. -/
theorem pieces_append {text : List Char} (h : escapeCharacter ∉ text) (rest : List Char) :
    pieces (text ++ rest) = text.map .character ++ pieces rest := by
  induction text with
  | nil => rfl
  | cons c text ih =>
    rw [List.mem_cons, not_or] at h
    rw [List.cons_append, pieces_cons_of_ne (Ne.symm h.1), ih h.2]
    rfl

/-- A control sequence is one piece. -/
theorem pieces_controlSequence {parameters : String} (h : parameters.toList.all isParameter = true)
    (rest : List Char) :
    pieces ((controlSequence parameters).toList ++ rest) =
      .sequence parameters.toList :: pieces rest := by
  have htext : (controlSequence parameters).toList ++ rest =
      '\x1b' :: '[' :: (parameters.toList ++ 'm' :: rest) := by
    simp [controlSequence]
  have hall : ∀ c ∈ parameters.toList, isParameter c = true := List.all_eq_true.1 h
  have hend : isParameter 'm' = false := by decide
  have hsequence : sequence? ('\x1b' :: '[' :: (parameters.toList ++ 'm' :: rest)) =
      some (parameters.toList, rest) := by
    simp [sequence?, List.takeWhile_append_of_pos hall, List.dropWhile_append_of_pos hall, hend]
  rw [htext, pieces]
  split
  · next hsome =>
    rw [hsequence] at hsome
    obtain ⟨rfl, rfl⟩ := Prod.mk.inj (Option.some.inj hsome)
    rfl
  · next hnone =>
    rw [hsequence] at hnone
    cases hnone

/-- Control sequences are one piece each. -/
theorem pieces_controlSequences {names : List String}
    (h : ∀ parameters ∈ names, parameters.toList.all isParameter = true) (rest : List Char) :
    pieces ((String.join (names.map controlSequence)).toList ++ rest) =
      (names.map String.toList).map .sequence ++ pieces rest := by
  induction names with
  | nil => rfl
  | cons name names ih =>
    rw [List.map_cons, String.join_cons, String.toList_append, List.append_assoc,
      pieces_controlSequence (h name List.mem_cons_self),
      ih fun parameters hmem => h parameters (List.mem_cons_of_mem name hmem)]
    rfl

/-! ### Styles that are turned off again -/

/-- Characters outside of all styles turn none on. -/
theorem endsStyles_characters (text : List Char) (more : List Piece) :
    endsStyles false (text.map .character ++ more) = endsStyles false more := by
  induction text with
  | nil => rfl
  | cons c text ih =>
    have hstep : endsStyles false ((c :: text).map .character ++ more) =
        endsStyles false (text.map .character ++ more) := by
      simp [endsStyles]
    rw [hstep, ih]

/-- Within a row characters leave a style on. -/
theorem endsStyles_row {text : List Char} (h : '\n' ∉ text) (on : Bool) (more : List Piece) :
    endsStyles on (text.map .character ++ more) = endsStyles on more := by
  induction text with
  | nil => rfl
  | cons c text ih =>
    rw [List.mem_cons, not_or] at h
    have hc : (c != '\n') = true := bne_iff_ne.2 (Ne.symm h.1)
    have hstep : endsStyles on ((c :: text).map .character ++ more) =
        endsStyles on (text.map .character ++ more) := by
      simp [endsStyles, hc]
    rw [hstep, ih h.2]

/-- After control sequences a style is on or not. -/
theorem exists_endsStyles_sequences (on : Bool) (sequences : List (List Char)) :
    ∃ on', ∀ more, endsStyles on (sequences.map .sequence ++ more) = endsStyles on' more := by
  induction sequences generalizing on with
  | nil => exact ⟨on, fun more => rfl⟩
  | cons parameters sequences ih => exact ih (parameters != ['0'])

/-! ### Color as decoration -/

/-- `colored` is `bare` with control sequences in it, and turns off in each row the styles that it
turns on there. This is so whatever comes after `colored`. -/
def Decorates (colored bare : String) : Prop :=
  ∃ ps, (∀ rest, pieces (colored.toList ++ rest) = ps ++ pieces rest) ∧
    ps.filterMap Piece.character? = bare.toList ∧
    ∀ more, endsStyles false (ps ++ more) = endsStyles false more

namespace Decorates

variable {colored bare colored' bare' : String}

theorem unstyled_eq (h : Decorates colored bare) : unstyled colored = bare := by
  obtain ⟨ps, hpieces, hcharacters, -⟩ := h
  have hall := hpieces []
  rw [List.append_nil, pieces_nil, List.append_nil] at hall
  rw [unstyled, hall, hcharacters, String.ofList_toList]

theorem closesRows_eq (h : Decorates colored bare) : closesRows colored = true := by
  obtain ⟨ps, hpieces, -, hends⟩ := h
  have hall := hpieces []
  rw [List.append_nil, pieces_nil] at hall
  rw [closesRows, hall, hends]
  rfl

theorem append (h : Decorates colored bare) (h' : Decorates colored' bare') :
    Decorates (colored ++ colored') (bare ++ bare') := by
  obtain ⟨ps, hpieces, hcharacters, hends⟩ := h
  obtain ⟨ps', hpieces', hcharacters', hends'⟩ := h'
  refine ⟨ps ++ ps', fun rest => ?_, ?_, fun more => ?_⟩
  · rw [String.toList_append, List.append_assoc, hpieces, hpieces', List.append_assoc]
  · rw [List.filterMap_append, hcharacters, hcharacters', String.toList_append]
  · rw [List.append_assoc, hends, hends']

/-- What holds no escape character stays as it is. -/
theorem of_escapeFree {text : String} (h : EscapeFree text) : Decorates text text := by
  refine ⟨text.toList.map .character, pieces_append h, ?_, endsStyles_characters _⟩
  rw [List.filterMap_map]
  exact List.filterMap_some

theorem empty : Decorates "" "" := of_escapeFree (by decide)

/-- Texts one after the other are decorated if each of them is. -/
theorem join {α : Type} {xs : List α} {f g : α → String} (h : ∀ x ∈ xs, Decorates (f x) (g x)) :
    Decorates (String.join (xs.map f)) (String.join (xs.map g)) := by
  induction xs with
  | nil => exact empty
  | cons x xs ih =>
    rw [List.map_cons, List.map_cons, String.join_cons, String.join_cons]
    exact (h x List.mem_cons_self).append (ih fun y hy => h y (List.mem_cons_of_mem x hy))

end Decorates

/-- Whether a span can be written without confusion: the escape character is not in it, and if it
stands out it goes on within one row. -/
def Span.IsSound (span : Span) : Prop :=
  EscapeFree span.text ∧ (span.style ≠ none → '\n' ∉ span.text.toList)

theorem isSound_plain {text : String} (h : EscapeFree text) : (plain text).IsSound :=
  ⟨h, fun hstyle => absurd rfl hstyle⟩

/-- A row of one span that does not stand out. -/
theorem isSound_singleton {text : String} (h : EscapeFree text) :
    ∀ span ∈ [plain text], span.IsSound := by
  rw [List.forall_mem_singleton]
  exact isSound_plain h

theorem isSound_styled (style : Style) {text : String} (h : EscapeFree text)
    (hrow : '\n' ∉ text.toList) : (styled style text).IsSound :=
  ⟨h, fun _ => hrow⟩

/-- Rows of sound spans are sound with their ends. -/
theorem isSound_ofRows {rows : List Row} (h : ∀ row ∈ rows, ∀ span ∈ row, span.IsSound) :
    ∀ span ∈ ofRows rows, span.IsSound := by
  intro span hspan
  obtain ⟨row, hrow, hspan⟩ := List.mem_flatMap.1 hspan
  rcases List.mem_append.1 hspan with hspan | hspan
  · exact h row hrow span hspan
  · rw [List.mem_singleton.1 hspan]
    exact isSound_plain (by decide)

/-- The control sequences that turn a style on have parameters. -/
theorem Style.isParameter_of_mem (style : Style) :
    ∀ parameters ∈ style.parameters, parameters.toList.all isParameter = true := by
  cases style <;> decide

/-- Color is decoration of a span: its style is turned on before it and off after it. -/
theorem Span.IsSound.decorates {span : Span} (h : span.IsSound) :
    Decorates (span.render true) (span.render false) := by
  obtain ⟨style, text⟩ := span
  obtain ⟨hfree, hrow⟩ := h
  cases style with
  | none => exact .of_escapeFree hfree
  | some style =>
    have hoff : ∀ rest, pieces ((controlSequence "0").toList ++ rest) =
        .sequence ['0'] :: pieces rest := pieces_controlSequence (by decide)
    refine ⟨(style.parameters.map String.toList).map .sequence ++
      (text.toList.map .character ++ [.sequence ['0']]), fun rest => ?_, ?_, fun more => ?_⟩
    · show pieces ((String.join (style.parameters.map controlSequence) ++ text ++
        controlSequence "0").toList ++ rest) = _
      rw [String.toList_append, String.toList_append, List.append_assoc, List.append_assoc,
        pieces_controlSequences style.isParameter_of_mem, pieces_append hfree, hoff]
      simp only [List.append_assoc, List.cons_append, List.nil_append]
    · show _ = text.toList
      simp [List.filterMap_map, Function.comp_def, Piece.character?]
    · obtain ⟨on, hends⟩ :=
        exists_endsStyles_sequences false (style.parameters.map String.toList)
      rw [List.append_assoc, hends, List.append_assoc, endsStyles_row (hrow (by simp))]
      rfl

/-- Color is decoration of a text whose spans are sound. -/
theorem decorates_render {spans : List Span} (h : ∀ span ∈ spans, span.IsSound) :
    Decorates (render true spans) (render false spans) :=
  .join fun span hspan => (h span hspan).decorates

/-- A caret in color, and the same caret without its control sequences. -/
example : unstyled (render true [plain "\t", styled .boldRed "^"]) = "\t^" := by cbv

/-- A style that goes on in the next row is not turned off in its own. -/
example : closesRows (render true [styled .boldRed "^\n"]) = false := by cbv

end SexprLexer.Text
