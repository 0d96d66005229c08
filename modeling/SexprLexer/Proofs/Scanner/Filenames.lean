import SexprLexer.Proofs.Strict

/-!
# The name of a source

The name that a scanner knows for its source is a label: it is written into every location and
decides nothing. Main statements: naming the source of a scanner can be done before a pull or after
it (`Scanner.next_named`), and so before or after any run (`Scanner.afterPulls_named`); a scan that
names its source and one that does not go in step, and so do both ways of strict tokenizing
(`filename_only_labels`).
-/

namespace SexprLexer

/-- A character moves a place in the same way whatever the source is called. -/
theorem Location.advance_named (filename : Option String) (here : Location) (c : Char) :
    (here.named filename).advance c = (here.advance c).named filename := by
  unfold advance
  split
  · rfl
  · rfl

/-- The record of a character that begins no token carries the name of the source. -/
theorem Pull.recordOf_named (filename : Option String) (here : Location) (c : Char) :
    recordOf (here.named filename) c =
      (recordOf here c).map (Skipped.relocate (.named filename)) := by
  unfold recordOf
  split
  · rfl
  · rfl

namespace Scanner

/-- The same scanner of a source with another name: what it has skipped and what it will find
carries this name. -/
def named (filename : Option String) (s : Scanner) : Scanner :=
  { s with
    here := s.here.named filename
    skipped := s.skipped.map (Skipped.relocate (.named filename)) }

/-- One pull gives the same token and goes just as far whatever the source is called. -/
theorem next_named (filename : Option String) (s : Scanner) :
    (s.named filename).next =
      (s.next.1.map (Token.relocate (.named filename)), s.next.2.named filename) := by
  obtain ⟨start, here, rest, skipped⟩ := s
  -- The induction is on what is left; each character that is passed over moves both places.
  induction rest generalizing start here skipped with
  | nil =>
    rw [next_nil]
    exact next_nil _ _ _
  | cons c text ih =>
    show next ⟨start, here.named filename, c :: text, skipped.map _⟩ = _
    cases hkind : Token.Kind.begunBy? c with
    | none =>
      rw [next_cons_of_none hkind, next_cons_of_none hkind, ← ih, Location.advance_named,
        Pull.recordOf_named, ← List.map_append]
      rfl
    | some kind =>
      rw [next_cons_of_some hkind, next_cons_of_some hkind]
      rfl

/-- A run goes just as far whatever the source is called. -/
theorem afterPulls_named (filename : Option String) (s : Scanner) (k : Nat) :
    (s.named filename).afterPulls k = (s.afterPulls k).named filename := by
  induction k with
  | zero => rfl
  | succ k ih =>
    show ((s.named filename).afterPulls k).next.2 = _
    rw [ih, next_named]
    rfl

/-- Whatever a scanner finds and skips carries the name of its source. -/
theorem filename_eq (source : String) (filename : Option String) (k : Nat) :
    let s := (ofString source filename).afterPulls k
    (∀ t ∈ s.next.1, t.location.filename = filename) ∧
      ∀ x ∈ s.skipped, x.location.filename = filename := by
  intro s
  -- To name the source as it is called already changes nothing, but shows the name everywhere.
  have hs : s = ((ofString source filename).afterPulls k).named filename :=
    afterPulls_named filename (ofString source filename) k
  rw [hs, next_named]
  refine ⟨fun t ht => ?_, fun x hx => ?_⟩
  · obtain ⟨t, -, rfl⟩ := Option.mem_map.1 ht
    rfl
  · obtain ⟨x, -, rfl⟩ := List.mem_map.1 hx
    rfl

end Scanner

/-- Strict tokenizing accepts the same sources whatever they are called, and refuses the others
because of the same character at the same place. -/
theorem tokenizeStrict_named (source : String) (filename : Option String) :
    (∃ tokens, tokenizeStrict source none = .ok tokens ∧
      (∀ t ∈ tokens, t.location.filename = none) ∧
      tokenizeStrict source filename = .ok (tokens.map (Token.relocate (.named filename)))) ∨
    ∃ c here, tokenizeStrict source none = .error (.unexpectedCharacter c here) ∧
      here.filename = none ∧
      tokenizeStrict source filename = .error (.unexpectedCharacter c (here.named filename)) := by
  rcases exists_first_noise source.toList with hclean | ⟨before, c, after, hsource, hbefore, hc⟩
  · refine .inl ⟨_, tokenizeStrict_of_clean hclean none, ?_, ?_⟩
    · intro t ht
      obtain ⟨t, -, rfl⟩ := List.mem_map.1 ht
      rfl
    · rw [tokenizeStrict_of_clean hclean, List.map_map]
      rfl
  · refine .inr ⟨c, .afterText none before, ?_, rfl, ?_⟩
    · exact tokenizeStrict_of_noise hsource hbefore hc none
    · exact tokenizeStrict_of_noise hsource hbefore hc filename

/-- A scan that names its source and one that does not go in step: after any number of pulls they
stand at the same place, have skipped the same characters, and give the same token or none, and all
of it carries the name in the one scan and no name in the other. Strict tokenizing with the name and
without it either gives the same tokens or fails because of the same character at the same place. -/
theorem filename_only_labels (source name : String) :
    (∀ k,
      let labelled := (Scanner.ofString source (some name)).afterPulls k
      let bare := (Scanner.ofString source none).afterPulls k
      labelled.next.1 = bare.next.1.map (Token.relocate (.named (some name))) ∧
      labelled.skipped = bare.skipped.map (Skipped.relocate (.named (some name))) ∧
      labelled.position = bare.position ∧
      labelled.remaining = bare.remaining ∧
      labelled.atEnd = bare.atEnd ∧
      ((∀ t ∈ labelled.next.1, t.location.filename = some name) ∧
        ∀ x ∈ labelled.skipped, x.location.filename = some name) ∧
      (∀ t ∈ bare.next.1, t.location.filename = none) ∧
        ∀ x ∈ bare.skipped, x.location.filename = none) ∧
    ((∃ tokens, tokenizeStrict source none = .ok tokens ∧
        (∀ t ∈ tokens, t.location.filename = none) ∧
        tokenizeStrict source (some name) =
          .ok (tokens.map (Token.relocate (.named (some name))))) ∨
      ∃ c here, tokenizeStrict source none = .error (.unexpectedCharacter c here) ∧
        here.filename = none ∧
        tokenizeStrict source (some name) =
          .error (.unexpectedCharacter c (here.named (some name)))) := by
  refine ⟨fun k => ?_, tokenizeStrict_named source (some name)⟩
  intro labelled bare
  have hnamed : labelled = bare.named (some name) :=
    Scanner.afterPulls_named (some name) (Scanner.ofString source none) k
  refine ⟨?_, ?_, ?_, ?_, ?_, Scanner.filename_eq source (some name) k,
    Scanner.filename_eq source none k⟩
  · rw [hnamed, Scanner.next_named]
  · rw [hnamed]
    rfl
  · rw [hnamed]
    rfl
  · rw [hnamed]
    rfl
  · rw [hnamed]
    rfl

end SexprLexer
