import Mathlib.Data.List.Forall2
import SexprLexer.Proofs.Scanner.Run

/-!
# Noise replaced by other noise

Characters that belong to no token separate tokens, and that is all they do: others can stand in
their places. Two scans, of a source and of one with such characters replaced, go in step, and how
much their tokens have in common depends on what the replacement keeps. Main statements: what two
scans keep in step for one pull (`Scanner.InStep.next`) and for a run (`Scanner.InStep.afterPulls`,
`Scanner.InStep.drain`); the tokens of the two sources are the same but for their places, and the
parts of these places that lines and sizes decide are the same if the replacement keeps lines and
sizes (`drain_of_replaces`).
-/

namespace SexprLexer

/-- Whether `d` may stand in the place of `c`: both belong to no token, or they are the same. -/
def Replaces (c d : Char) : Prop :=
  c = d ∨ (isTokenCharacter c = false ∧ isTokenCharacter d = false)

instance (c d : Char) : Decidable (Replaces c d) := inferInstanceAs (Decidable (_ ∨ _))

namespace Replaces

variable {c d : Char}

/-- What may stand in the place of a character begins a token of the same kind, if any. -/
theorem begunBy?_eq (h : Replaces c d) : Token.Kind.begunBy? c = Token.Kind.begunBy? d := by
  rcases h with rfl | ⟨hc, hd⟩
  · rfl
  · rw [Token.Kind.begunBy?_eq_none_iff.2 hc, Token.Kind.begunBy?_eq_none_iff.2 hd]

/-- A character that begins a token has no other in its place. -/
theorem eq_of_begunBy? {kind : Token.Kind} (h : Replaces c d)
    (hkind : Token.Kind.begunBy? c = some kind) : c = d := by
  rcases h with rfl | ⟨hc, -⟩
  · rfl
  · rw [Token.Kind.begunBy?_eq_none_iff.2 hc] at hkind
    cases hkind

/-- What may stand in the place of an identifier character is one, and is the same. -/
theorem isIdentifierSubsequent_eq (h : Replaces c d) :
    isIdentifierSubsequent c = isIdentifierSubsequent d := by
  rcases h with rfl | ⟨hc, hd⟩
  · rfl
  · rw [isIdentifierSubsequent_eq_false hc, isIdentifierSubsequent_eq_false hd]

end Replaces

/-- Two tokens of the same kind with the same characters, at places that are `close`. -/
structure Token.Alike (close : Location → Location → Prop) (t t' : Token) : Prop where
  kind_eq : t.kind = t'.kind
  lexeme_eq : t.lexeme = t'.lexeme
  close_location : close t.location t'.location

/-- Characters that are `alike` may stand in each other's place, and after them two places are
`close` if they were so before. -/
structure KeepsClose (alike : Char → Char → Prop) (close : Location → Location → Prop) : Prop where
  replaces {c d : Char} (h : alike c d) : Replaces c d
  advance {here here' : Location} {c d : Char} (hplace : close here here') (h : alike c d) :
    close (here.advance c) (here'.advance d)

namespace KeepsClose

variable {alike : Char → Char → Prop} {close : Location → Location → Prop}

/-- After texts that are alike two places are close if they were so before. -/
theorem after (hkeeps : KeepsClose alike close) {here here' : Location}
    (hplace : close here here') {text text' : List Char} (h : List.Forall₂ alike text text') :
    close (here.after text) (here'.after text') := by
  induction h generalizing here here' with
  | nil => exact hplace
  | cons hc _ ih => exact ih (hkeeps.advance hplace hc)

/-- In texts that are alike an identifier goes on equally far, with the same characters. -/
theorem takeWhile (hkeeps : KeepsClose alike close) {text text' : List Char}
    (h : List.Forall₂ alike text text') :
    text.takeWhile isIdentifierSubsequent = text'.takeWhile isIdentifierSubsequent ∧
      List.Forall₂ alike (text.takeWhile isIdentifierSubsequent)
        (text'.takeWhile isIdentifierSubsequent) ∧
      List.Forall₂ alike (text.dropWhile isIdentifierSubsequent)
        (text'.dropWhile isIdentifierSubsequent) := by
  induction h with
  | nil => exact ⟨rfl, .nil, .nil⟩
  | @cons c d text text' hc htext ih =>
    have hreplaces := hkeeps.replaces hc
    cases hsubsequent : isIdentifierSubsequent c with
    | true =>
      obtain rfl := hreplaces.eq_of_begunBy? (Token.Kind.begunBy?_eq_identifier_iff.2 hsubsequent)
      obtain ⟨hsame, htaken, hleft⟩ := ih
      rw [List.takeWhile_cons_of_pos hsubsequent, List.takeWhile_cons_of_pos hsubsequent,
        List.dropWhile_cons_of_pos hsubsequent, List.dropWhile_cons_of_pos hsubsequent]
      exact ⟨congrArg (c :: ·) hsame, .cons hc htaken, hleft⟩
    | false =>
      have hc' : ¬ isIdentifierSubsequent c = true := by rw [hsubsequent]; decide
      have hd' : ¬ isIdentifierSubsequent d = true := hreplaces.isIdentifierSubsequent_eq ▸ hc'
      rw [List.takeWhile_cons_of_neg hc', List.takeWhile_cons_of_neg hd',
        List.dropWhile_cons_of_neg hc', List.dropWhile_cons_of_neg hd']
      exact ⟨rfl, .nil, .cons hc htext⟩

/-- Texts that are alike are divided alike after the first character of a token. -/
theorem span (hkeeps : KeepsClose alike close) (kind : Token.Kind) {text text' : List Char}
    (h : List.Forall₂ alike text text') :
    (kind.span text).1 = (kind.span text').1 ∧
      List.Forall₂ alike (kind.span text).1 (kind.span text').1 ∧
      List.Forall₂ alike (kind.span text).2 (kind.span text').2 := by
  cases kind with
  | leftParen => exact ⟨rfl, .nil, h⟩
  | rightParen => exact ⟨rfl, .nil, h⟩
  | identifier => exact hkeeps.takeWhile h

end KeepsClose

/-! ### Scans in step -/

namespace Scanner

/-- Two scanners stand at places that are `close` and have texts before them that are `alike`. -/
structure InStep (alike : Char → Char → Prop) (close : Location → Location → Prop)
    (s s' : Scanner) : Prop where
  close_here : close s.here s'.here
  alike_rest : List.Forall₂ alike s.rest s'.rest

namespace InStep

variable {alike : Char → Char → Prop} {close : Location → Location → Prop} {s s' : Scanner}

/-- Scanners in step give the same token or none with their next pull, and stay in step. -/
theorem next (h : InStep alike close s s') (hkeeps : KeepsClose alike close) :
    Option.Rel (Token.Alike close) s.next.1 s'.next.1 ∧
      InStep alike close s.next.2 s'.next.2 := by
  obtain ⟨start, here, rest, skipped⟩ := s
  obtain ⟨start', here', rest', skipped'⟩ := s'
  obtain ⟨hplace, hrest⟩ := h
  change List.Forall₂ alike rest rest' at hrest
  change close here here' at hplace
  -- The induction is on what is left; two characters that are passed over keep the places close.
  induction hrest generalizing start start' here here' skipped skipped' with
  | nil =>
    rw [next_nil, next_nil]
    exact ⟨.none, hplace, .nil⟩
  | @cons c d text text' hc htext ih =>
    have hreplaces := hkeeps.replaces hc
    cases hkind : Token.Kind.begunBy? c with
    | none =>
      rw [next_cons_of_none hkind, next_cons_of_none (hreplaces.begunBy?_eq ▸ hkind)]
      exact ih _ _ _ _ _ _ (hkeeps.advance hplace hc)
    | some kind =>
      obtain rfl := hreplaces.eq_of_begunBy? hkind
      obtain ⟨hsame, htaken, hleft⟩ := hkeeps.span kind htext
      rw [next_cons_of_some hkind, next_cons_of_some hkind]
      refine ⟨.some ⟨rfl, ?_, hplace⟩, ?_, hleft⟩
      · show String.ofList (c :: _) = String.ofList (c :: _)
        rw [hsame]
      · show close (here.pastToken _) (here'.pastToken _)
        rw [Location.pastToken_eq_after (Token.Kind.newline_not_mem hkind text),
          Location.pastToken_eq_after (Token.Kind.newline_not_mem hkind text')]
        exact hkeeps.after hplace (.cons hc htaken)

/-- Scanners in step stay so, however long they run. -/
theorem afterPulls (h : InStep alike close s s') (hkeeps : KeepsClose alike close) (k : Nat) :
    InStep alike close (s.afterPulls k) (s'.afterPulls k) := by
  induction k with
  | zero => exact h
  | succ k ih => exact (ih.next hkeeps).2

/-- Scanners in step give the same tokens. -/
theorem drain (h : InStep alike close s s') (hkeeps : KeepsClose alike close) :
    List.Forall₂ (Token.Alike close) s.drain.1 s'.drain.1 := by
  -- Each pull that finds a token leaves less than there was before.
  induction hlength : s.rest.length using Nat.strongRecOn generalizing s s' with
  | ind n ih =>
    obtain ⟨htoken, hnext⟩ := h.next hkeeps
    rcases hs : s.next with ⟨_ | token, after⟩
    · rcases hs' : s'.next with ⟨_ | token', after'⟩
      · rw [drain_of_none hs, drain_of_none hs']
        exact .nil
      · rw [hs, hs'] at htoken
        cases htoken
    · rcases hs' : s'.next with ⟨_ | token', after'⟩
      · rw [hs, hs'] at htoken
        cases htoken
      · rw [hs, hs'] at htoken hnext
        rw [drain_of_some hs, drain_of_some hs']
        cases htoken with
        | some htoken =>
          exact .cons htoken (ih _ (hlength ▸ length_rest_lt_of_next hs) hnext rfl)

end InStep

end Scanner

/-! ### What a replacement keeps -/

/-- Whether both characters are line feeds or none of them is. -/
def SameLine (c d : Char) : Prop := c = '\n' ↔ d = '\n'

instance (c d : Char) : Decidable (SameLine c d) := inferInstanceAs (Decidable (_ ↔ _))

/-- Whether both characters take up the same number of bytes. -/
def SameSize (c d : Char) : Prop := c.utf8Size = d.utf8Size

instance (c d : Char) : Decidable (SameSize c d) := inferInstanceAs (Decidable (_ = _))

/-- Whether two places are on lines and in columns with the same numbers. -/
def Location.SameColumn (here here' : Location) : Prop :=
  here.line = here'.line ∧ here.column = here'.column

/-- Whether two places have the same number of bytes before them. -/
def Location.SameOffset (here here' : Location) : Prop := here.offset = here'.offset

/-- Any replacement keeps the scans in step, wherever they stand. -/
theorem keepsClose_replaces : KeepsClose Replaces fun _ _ => True where
  replaces := id
  advance _ _ := trivial

/-- A replacement that keeps the line feeds keeps lines and columns. -/
theorem keepsClose_sameLine :
    KeepsClose (fun c d => Replaces c d ∧ SameLine c d) Location.SameColumn where
  replaces h := h.1
  advance := by
    rintro here here' c d ⟨hline, hcolumn⟩ ⟨-, hfeed⟩
    unfold Location.advance
    by_cases hc : c = '\n'
    · rw [if_pos hc, if_pos (hfeed.1 hc)]
      exact ⟨congrArg (· + 1) hline, rfl⟩
    · rw [if_neg hc, if_neg (mt hfeed.2 hc)]
      exact ⟨hline, congrArg (· + 1) hcolumn⟩

/-- A replacement that keeps the sizes of characters keeps offsets. -/
theorem keepsClose_sameSize :
    KeepsClose (fun c d => Replaces c d ∧ SameSize c d) Location.SameOffset where
  replaces h := h.1
  advance := by
    rintro here here' c d hoffset ⟨-, hsize⟩
    unfold Location.SameOffset at hoffset ⊢
    rw [Location.advance_offset, Location.advance_offset, hoffset, hsize]

/-- A replacement that keeps both keeps places as they are. -/
theorem keepsClose_eq :
    KeepsClose (fun c d => Replaces c d ∧ SameLine c d ∧ SameSize c d) Eq where
  replaces h := h.1
  advance := by
    rintro here - c d rfl ⟨-, hfeed, hsize⟩
    have hsize : c.utf8Size = d.utf8Size := hsize
    unfold Location.advance
    by_cases hc : c = '\n'
    · rw [if_pos hc, if_pos (hfeed.1 hc), hsize]
    · rw [if_neg hc, if_neg (mt hfeed.2 hc), hsize]

section Sources

variable {source other : String}

/-- Let characters of a source that belong to no token be replaced by other such characters. Then
there are as many tokens as before, of the same kinds and with the same characters in the same
order. If line feeds are replaced by line feeds only, and nothing else is, the tokens also stand on
the same lines and in the same columns. If each character is replaced by one of the same size, the
tokens also stand at the same offsets, and the scanner is at the same offset after any number of
pulls. If both are so, the tokens are equal. -/
theorem drain_of_replaces (h : List.Forall₂ Replaces source.toList other.toList)
    (filename : Option String) :
    let s := Scanner.ofString source filename
    let s' := Scanner.ofString other filename
    List.Forall₂ (fun t t' => t.kind = t'.kind ∧ t.lexeme = t'.lexeme) s.drain.1 s'.drain.1 ∧
    (List.Forall₂ SameLine source.toList other.toList →
      List.Forall₂ (fun t t' => t.location.line = t'.location.line ∧
        t.location.column = t'.location.column) s.drain.1 s'.drain.1) ∧
    (List.Forall₂ SameSize source.toList other.toList →
      List.Forall₂ (fun t t' => t.location.offset = t'.location.offset) s.drain.1 s'.drain.1 ∧
      ∀ k, (s.afterPulls k).position = (s'.afterPulls k).position) ∧
    (List.Forall₂ SameLine source.toList other.toList →
      List.Forall₂ SameSize source.toList other.toList → s.drain.1 = s'.drain.1) := by
  intro s s'
  refine ⟨?_, ?_, ?_, ?_⟩
  · have hstep : Scanner.InStep Replaces (fun _ _ => True) s s' := ⟨trivial, h⟩
    exact (hstep.drain keepsClose_replaces).imp fun _ _ ht => ⟨ht.kind_eq, ht.lexeme_eq⟩
  · intro hlines
    have hstep : Scanner.InStep (fun c d => Replaces c d ∧ SameLine c d) Location.SameColumn s s' :=
      ⟨⟨rfl, rfl⟩, h.mp (fun _ _ => And.intro) hlines⟩
    exact (hstep.drain keepsClose_sameLine).imp fun _ _ ht => ht.close_location
  · intro hsizes
    have hstep : Scanner.InStep (fun c d => Replaces c d ∧ SameSize c d) Location.SameOffset s s' :=
      ⟨rfl, h.mp (fun _ _ => And.intro) hsizes⟩
    refine ⟨(hstep.drain keepsClose_sameSize).imp fun _ _ ht => ht.close_location, ?_⟩
    exact fun k => (hstep.afterPulls keepsClose_sameSize k).close_here
  · intro hlines hsizes
    have hboth := hlines.mp (fun _ _ => And.intro) hsizes
    have hstep : Scanner.InStep (fun c d => Replaces c d ∧ SameLine c d ∧ SameSize c d) Eq s s' :=
      ⟨rfl, h.mp (fun _ _ => And.intro) hboth⟩
    rw [← List.forall₂_eq_eq_eq]
    refine (hstep.drain keepsClose_eq).imp fun t t' ht => ?_
    obtain ⟨hkind, hlexeme, hlocation⟩ := ht
    rw [Token.mk.injEq]
    exact ⟨hkind, hlexeme, hlocation⟩

/-- An opening bracket, a Greek letter and a blank in the places of others. -/
theorem drain_of_replaces_letter :
    let source := "a[b\n(λ c)"
    let other := "a b\n(é]c)"
    List.Forall₂ Replaces source.toList other.toList ∧
    List.Forall₂ SameLine source.toList other.toList ∧
    List.Forall₂ SameSize source.toList other.toList ∧
    (Scanner.ofString source none).drain.1 = (Scanner.ofString other none).drain.1 := by
  intro source other
  have h : List.Forall₂ Replaces source.toList other.toList := by decide
  have hlines : List.Forall₂ SameLine source.toList other.toList := by decide
  have hsizes : List.Forall₂ SameSize source.toList other.toList := by decide
  exact ⟨h, hlines, hsizes, (drain_of_replaces h none).2.2.2 hlines hsizes⟩

end Sources

end SexprLexer
