import Mathlib.Data.List.Chain
import SexprLexer.Proofs.Scanner.Concatenation

/-!
# Scanning what was written

A text can be written lexeme by lexeme, with gaps that hold characters of no token before, between
and after them. Main statement: a scan gives back the lexemes that were written exactly if there is
something in the gap between any two identifiers, and it skips what is in the gaps and not blank in
any case (`tokenize_write_iff`).
-/

namespace SexprLexer

/-- What can be written for one token. -/
inductive Lexeme where
  | leftParen
  | rightParen
  | identifier (run : List Char) (ne_nil : run ≠ [])
      (subsequent : ∀ c ∈ run, isIdentifierSubsequent c = true)

/-- What can be written before, between or after tokens. -/
structure Gap where
  text : List Char
  other : ∀ c ∈ text, isTokenCharacter c = false

namespace Lexeme

/-- The kind of token that a lexeme is written for. -/
def kind : Lexeme → Token.Kind
  | leftParen => .leftParen
  | rightParen => .rightParen
  | identifier .. => .identifier

/-- The characters of a lexeme. -/
def text : Lexeme → List Char
  | leftParen => ['(']
  | rightParen => [')']
  | identifier run _ _ => run

theorem isLexeme (lexeme : Lexeme) : IsLexeme lexeme.kind lexeme.text [] := by
  cases lexeme with
  | leftParen => exact .leftParen []
  | rightParen => exact .rightParen []
  | identifier run ne_nil subsequent => exact .identifier ne_nil subsequent not_goesOn_nil

/-- A text goes on with an identifier before it if it begins with one. -/
theorem goesOn_append_iff (lexeme : Lexeme) (rest : List Char) :
    GoesOn (lexeme.text ++ rest) ↔ lexeme.kind = .identifier := by
  obtain ⟨c, further, htext, hkind, -⟩ := lexeme.isLexeme.exists_span
  rw [← Option.some.injEq, ← hkind, Token.Kind.begunBy?_eq_identifier_iff, htext]
  constructor
  · rintro ⟨d, hd, hsubsequent⟩
    cases hd
    exact hsubsequent
  · intro hsubsequent
    exact ⟨c, rfl, hsubsequent⟩

/-- An identifier goes on after a lexeme exactly if the lexeme is one. -/
theorem joins_iff (lexeme : Lexeme) (rest : List Char) :
    Joins lexeme.text rest ↔ lexeme.kind = .identifier ∧ GoesOn rest := by
  refine and_congr_left fun _ => ?_
  constructor
  · rintro ⟨c, hc, hsubsequent⟩
    exact lexeme.isLexeme.eq_identifier (List.mem_of_getLast? hc) hsubsequent
  · intro hkind
    cases lexeme with
    | leftParen => cases hkind
    | rightParen => cases hkind
    | identifier run ne_nil subsequent =>
      exact ⟨run.getLast ne_nil, List.getLast?_eq_some_getLast ne_nil,
        subsequent _ (List.getLast_mem ne_nil)⟩

end Lexeme

namespace Gap

/-- No identifier goes on after a gap, unless the gap is empty. -/
theorem goesOn_append_iff (gap : Gap) (rest : List Char) :
    GoesOn (gap.text ++ rest) ↔ gap.text = [] ∧ GoesOn rest := by
  obtain ⟨text, hother⟩ := gap
  cases text with
  | nil => exact ⟨fun h => ⟨rfl, h⟩, And.right⟩
  | cons c text =>
    refine ⟨?_, fun h => by cases h.1⟩
    rintro ⟨d, hd, hsubsequent⟩
    cases hd
    rw [isIdentifierSubsequent_eq_false (hother c List.mem_cons_self)] at hsubsequent
    cases hsubsequent

/-- No identifier goes on from a gap to what comes after it. -/
theorem not_joins (gap : Gap) (rest : List Char) : ¬ Joins gap.text rest := by
  apply SexprLexer.not_joins
  intro c hc
  exact isIdentifierSubsequent_eq_false (gap.other c (List.mem_of_getLast? hc))

end Gap

/-- The text that consists of a gap and of lexemes with a gap after each of them. -/
def write (gap : Gap) : List (Lexeme × Gap) → List Char
  | [] => gap.text
  | (lexeme, next) :: later => gap.text ++ (lexeme.text ++ write next later)

/-- Whether there is something in the gap between any two neighbours that are identifiers. -/
def Apart (written : List (Lexeme × Gap)) : Prop :=
  written.IsChain fun i j =>
    ¬ (i.1.kind = .identifier ∧ j.1.kind = .identifier ∧ i.2.text = [])

/-- What is written goes on with an identifier before it exactly if it begins with one. -/
theorem goesOn_write_iff (gap : Gap) (written : List (Lexeme × Gap)) :
    GoesOn (write gap written) ↔
      ∃ i ∈ written.head?, i.1.kind = .identifier ∧ gap.text = [] := by
  cases written with
  | nil =>
    have happend := gap.goesOn_append_iff []
    rw [List.append_nil] at happend
    rw [write, happend]
    constructor
    · rintro ⟨-, c, hc, -⟩
      cases hc
    · rintro ⟨i, hi, -⟩
      cases hi
  | cons i written =>
    obtain ⟨lexeme, next⟩ := i
    rw [write, gap.goesOn_append_iff, lexeme.goesOn_append_iff]
    constructor
    · rintro ⟨hgap, hkind⟩
      exact ⟨_, rfl, hkind, hgap⟩
    · rintro ⟨i, hi, hkind, hgap⟩
      cases hi
      exact ⟨hgap, hkind⟩

/-- Lexemes are apart if no identifier goes on from the first one, and the later ones are apart. -/
theorem apart_cons_iff (lexeme : Lexeme) (next : Gap) (later : List (Lexeme × Gap)) :
    Apart ((lexeme, next) :: later) ↔ ¬ Joins lexeme.text (write next later) ∧ Apart later := by
  rw [Apart, List.isChain_cons, lexeme.joins_iff, goesOn_write_iff]
  refine and_congr_left fun _ => ?_
  constructor
  · rintro h ⟨hkind, i, hi, hkind', hgap⟩
    exact h i hi ⟨hkind, hkind', hgap⟩
  · rintro h i hi ⟨hkind, hkind', hgap⟩
    exact h ⟨hkind, i, hi, hkind', hgap⟩

/-! ### What a scan gives back -/

/-- What a token is, wherever it stands. -/
def Token.shape (t : Token) : Token.Kind × String := (t.kind, t.lexeme)

/-- What the token is that a lexeme is written for. -/
def Lexeme.shape (lexeme : Lexeme) : Token.Kind × String := (lexeme.kind, String.ofList lexeme.text)

theorem map_shape_relocate (move : Location → Location) (tokens : List Token) :
    (tokens.map (Token.relocate move)).map Token.shape = tokens.map Token.shape := by
  rw [List.map_map]
  rfl

namespace Scanner

variable (filename : Option String)

/-- A gap holds no token. -/
theorem shapes_gap_append (gap : Gap) (rest : List Char) :
    (tokensIn filename (gap.text ++ rest)).map Token.shape =
      (tokensIn filename rest).map Token.shape := by
  rw [tokensIn_append filename (gap.not_joins rest), tokensIn_eq_nil gap.other, List.nil_append,
    map_shape_relocate]

/-- A lexeme is a token of its own if no identifier goes on after it. -/
theorem shapes_lexeme_append {lexeme : Lexeme} {rest : List Char}
    (h : ¬ Joins lexeme.text rest) :
    (tokensIn filename (lexeme.text ++ rest)).map Token.shape =
      lexeme.shape :: (tokensIn filename rest).map Token.shape := by
  rw [tokensIn_append filename h, tokensIn_eq (Reading.of_isLexeme lexeme.isLexeme filename),
    List.map_append, map_shape_relocate]
  rfl

/-- A lexeme that is not a token of its own adds no token. -/
theorem length_tokensIn_lexeme_append {lexeme : Lexeme} {rest : List Char}
    (h : Joins lexeme.text rest) :
    (tokensIn filename (lexeme.text ++ rest)).length = (tokensIn filename rest).length := by
  obtain ⟨init, last, first, later, hlexeme, hrest, hboth⟩ := tokensIn_append_of_joins filename h
  rw [tokensIn_eq (Reading.of_isLexeme lexeme.isLexeme filename)] at hlexeme
  have hinit : init = [] := by
    obtain ⟨hinit, -⟩ | ⟨-, hlast⟩ := List.singleton_eq_append_iff.1 hlexeme
    · exact hinit
    · cases hlast
  rw [hboth, hrest, hinit, List.nil_append, List.length_cons, List.length_cons, List.length_map]

/-- There are at most as many tokens as lexemes. -/
theorem length_tokensIn_write_le (gap : Gap) (written : List (Lexeme × Gap)) :
    (tokensIn filename (write gap written)).length ≤ written.length := by
  induction written generalizing gap with
  | nil => rw [write, tokensIn_eq_nil gap.other]; exact Nat.le_refl _
  | cons i written ih =>
    obtain ⟨lexeme, next⟩ := i
    have hgap := congrArg List.length
      (shapes_gap_append filename gap (lexeme.text ++ write next written))
    rw [List.length_map, List.length_map] at hgap
    rw [write, hgap, List.length_cons]
    by_cases hjoins : Joins lexeme.text (write next written)
    · rw [length_tokensIn_lexeme_append filename hjoins]
      exact Nat.le_succ_of_le (ih next)
    · have hlexeme := congrArg List.length (shapes_lexeme_append filename hjoins)
      rw [List.length_map, List.length_cons, List.length_map] at hlexeme
      rw [hlexeme]
      exact Nat.succ_le_succ (ih next)

/-- A scan gives the lexemes back exactly if they are apart. -/
theorem shapes_write_iff (gap : Gap) (written : List (Lexeme × Gap)) :
    (tokensIn filename (write gap written)).map Token.shape = written.map (·.1.shape) ↔
      Apart written := by
  induction written generalizing gap with
  | nil =>
    rw [write, tokensIn_eq_nil gap.other]
    exact ⟨fun _ => List.isChain_nil, fun _ => rfl⟩
  | cons i written ih =>
    obtain ⟨lexeme, next⟩ := i
    rw [write, shapes_gap_append, apart_cons_iff, List.map_cons]
    by_cases hjoins : Joins lexeme.text (write next written)
    · -- Two lexemes are one token, so there are not tokens enough.
      refine ⟨fun h => ?_, fun h => absurd hjoins h.1⟩
      have hlength := congrArg List.length h
      rw [List.length_map, List.length_cons, List.length_map,
        length_tokensIn_lexeme_append filename hjoins] at hlength
      have hle := length_tokensIn_write_le filename next written
      omega
    · rw [shapes_lexeme_append filename hjoins, List.cons.injEq, ih next]
      exact and_congr_left fun _ => iff_of_true rfl hjoins

end Scanner

/-- The noise of what is written is what is in the gaps and not blank. -/
theorem filter_isNoise_write (gap : Gap) (written : List (Lexeme × Gap)) :
    (write gap written).filter isNoise =
      (gap.text ++ written.flatMap (·.2.text)).filter fun c => !Text.isBlank c := by
  have hgap : ∀ gap : Gap, gap.text.filter isNoise = gap.text.filter fun c => !Text.isBlank c := by
    intro gap
    apply List.filter_congr
    intro c hc
    rw [isNoise, gap.other c hc]
    rfl
  have hlexeme : ∀ lexeme : Lexeme, lexeme.text.filter isNoise = [] := by
    intro lexeme
    rw [List.filter_eq_nil_iff]
    intro c hc
    rw [isNoise, lexeme.isLexeme.isTokenCharacter_of_mem c hc]
    exact Bool.false_ne_true
  induction written generalizing gap with
  | nil => rw [write, hgap, List.flatMap_nil, List.append_nil]
  | cons i written ih =>
    rw [write, List.filter_append, List.filter_append, hgap, hlexeme, ih, List.flatMap_cons,
      List.nil_append, List.filter_append, List.filter_append, List.filter_append]

/-- Tokenizing what was written gives the lexemes back, kind by kind and character by character,
exactly if there is something in the gap between any two neighbours that are identifiers. Whatever
was written, a scan skips what is in the gaps and not blank. -/
theorem tokenize_write_iff (gap : Gap) (written : List (Lexeme × Gap)) :
    let source := String.ofList (write gap written)
    ((tokenize source).map (fun t => (t.kind, t.lexeme)) =
        written.map (fun i => (i.1.kind, String.ofList i.1.text)) ↔
      Apart written) ∧
    ∀ filename, (Scanner.ofString source filename).drain.2.skipped.map (·.character) =
      (gap.text ++ written.flatMap (·.2.text)).filter fun c => !Text.isBlank c := by
  intro source
  refine ⟨Scanner.shapes_write_iff none gap written, fun filename => ?_⟩
  rw [Scanner.skipped_drain, map_character_noise, String.toList_ofList, filter_isNoise_write]

/-- Two identifiers with a space between them, and without. -/
example :
    let first : Lexeme := .identifier ['a', '1'] nofun (List.all_eq_true.1 (by decide))
    let second : Lexeme := .identifier ['b'] nofun (List.all_eq_true.1 (by decide))
    let nothing : Gap := ⟨[], nofun⟩
    let space : Gap := ⟨[' '], List.forall_mem_singleton.2 (by decide)⟩
    let apart := String.ofList (write nothing [(first, space), (second, nothing)])
    let joined := String.ofList (write nothing [(first, nothing), (second, nothing)])
    (apart = "a1 b" ∧ (tokenize apart).map (·.lexeme) = ["a1", "b"]) ∧
      joined = "a1b" ∧ (tokenize joined).map (·.lexeme) = ["a1b"] := by
  decide +kernel

end SexprLexer
