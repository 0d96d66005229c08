import SexprLexer.Proofs.Scanner.Reading
import SexprLexer.Scanner.Stream

/-!
# Runs of a scanner

A run is a number of pulls in a row. Main statements: whatever a scanner has read, one more pull
reads on by the rule of a reading (`HasRead.next`), and so does a run (`HasRead.afterPulls`);
draining a scanner is a run that goes one pull beyond its last token (`given_eq_take`,
`afterPulls_of_length_lt`).
-/

namespace SexprLexer.Scanner

/-- The scanner after so many pulls. -/
def afterPulls (s : Scanner) : Nat → Scanner
  | 0 => s
  | n + 1 => (s.afterPulls n).next.2

/-- The tokens that so many pulls give. -/
def given (s : Scanner) : Nat → List Token
  | 0 => []
  | n + 1 => s.given n ++ (s.afterPulls n).next.1.toList

theorem afterPulls_add (s : Scanner) (m n : Nat) :
    s.afterPulls (m + n) = (s.afterPulls m).afterPulls n := by
  induction n with
  | zero => rfl
  | succ n ih =>
    show (s.afterPulls (m + n)).next.2 = ((s.afterPulls m).afterPulls n).next.2
    rw [ih]

theorem given_add (s : Scanner) (m n : Nat) :
    s.given (m + n) = s.given m ++ (s.afterPulls m).given n := by
  induction n with
  | zero => rw [Nat.add_zero, given, List.append_nil]
  | succ n ih =>
    show s.given (m + n) ++ (s.afterPulls (m + n)).next.1.toList = _
    rw [ih, afterPulls_add, given, List.append_assoc]

/-- A run only appends to the skipped characters. -/
theorem skipped_isPrefix_afterPulls (s : Scanner) (n : Nat) :
    s.skipped <+: (s.afterPulls n).skipped := by
  induction n with
  | zero => exact List.prefix_rfl
  | succ n ih => exact ih.trans (List.prefix_append _ _)

/-! ### Runs and draining -/

/-- At the end of the source a pull changes nothing. -/
theorem next_of_rest_eq_nil {s : Scanner} (h : s.rest = []) : s.next = (none, s) := by
  obtain ⟨start, here, rest, skipped⟩ := s
  cases h
  exact next_nil start here skipped

/-- Where everything is read, no number of pulls changes anything. -/
theorem afterPulls_of_rest_eq_nil {s : Scanner} (h : s.rest = []) (n : Nat) :
    s.afterPulls n = s := by
  induction n with
  | zero => rfl
  | succ n ih =>
    show (s.afterPulls n).next.2 = s
    rw [ih, next_of_rest_eq_nil h]

/-- A pull takes the first of the tokens that are left, and leaves the others. -/
theorem drain_next (s : Scanner) :
    s.next.1 = s.drain.1.head? ∧ s.next.2.drain = (s.drain.1.tail, s.drain.2) := by
  rcases h : s.next with ⟨_ | token, after⟩
  · -- After the pull everything is read, so that another one leaves all as it is.
    have hafter : after.drain = ([], after) :=
      drain_of_none (next_of_rest_eq_nil (rest_eq_nil_of_next h))
    rw [drain_of_none h]
    exact ⟨rfl, hafter⟩
  · rw [drain_of_some h]
    exact ⟨rfl, rfl⟩

/-- A run leaves the tokens that it has not taken. -/
theorem drain_afterPulls (s : Scanner) (n : Nat) :
    (s.afterPulls n).drain = (s.drain.1.drop n, s.drain.2) := by
  induction n with
  | zero => rfl
  | succ n ih =>
    show (s.afterPulls n).next.2.drain = _
    rw [(drain_next _).2, ih, List.tail_drop]

/-- A run takes the tokens from the front. -/
theorem given_eq_take (s : Scanner) (n : Nat) : s.given n = s.drain.1.take n := by
  induction n with
  | zero => rw [given, List.take_zero]
  | succ n ih =>
    rw [given, ih, (drain_next _).1, drain_afterPulls, List.head?_drop, List.take_add_one]

/-- A run that goes beyond the last token ends where draining does. -/
theorem afterPulls_of_length_lt {s : Scanner} {n : Nat} (h : s.drain.1.length < n) :
    s.afterPulls n = s.drain.2 := by
  -- No token is left before the last of these pulls, so that it does what draining does.
  obtain ⟨m, rfl⟩ : ∃ m, n = m + 1 := ⟨n - 1, by omega⟩
  have hdrain : (s.afterPulls m).drain = ([], s.drain.2) := by
    rw [drain_afterPulls, List.drop_eq_nil_of_le (by omega)]
  have hnone : (s.afterPulls m).next.1 = none := by
    rw [(drain_next _).1, hdrain]
    rfl
  have hstop := drain_of_none (Prod.ext hnone rfl : (s.afterPulls m).next = (none, _))
  rw [hdrain] at hstop
  exact (Prod.mk.inj hstop).2.symm

/-- Draining reads everything. -/
theorem rest_drain (s : Scanner) : s.drain.2.rest = [] := by
  have hnone : (s.afterPulls s.drain.1.length).next.1 = none := by
    rw [(drain_next _).1, drain_afterPulls, List.drop_length]
    rfl
  rw [← afterPulls_of_length_lt (Nat.lt_succ_self _)]
  exact rest_eq_nil_of_next (Prod.ext hnone rfl)

/-! ### Runs and readings -/

/-- The scanner has gone over `read`, the beginning of the source called `filename`, has found
`found` there, and keeps the skipped characters among it. -/
structure HasRead (filename : Option String) (source read : List Char) (found : List Finding)
    (s : Scanner) : Prop where
  source_eq : source = read ++ s.rest
  reading : Reading filename read found s.rest
  here_eq : s.here = .afterText filename read
  skipped_eq : s.skipped = Finding.skips found

/-- A fresh scanner has read nothing. -/
theorem hasRead_ofString (source : String) (filename : Option String) :
    HasRead filename source.toList [] [] (ofString source filename) :=
  ⟨rfl, .start _, rfl, rfl⟩

namespace HasRead

variable {filename : Option String} {source read : List Char} {found : List Finding}

/-- The offset of the cursor is the size of what is read. -/
theorem position_eq {s : Scanner} (h : HasRead filename source read found s) :
    s.position = Text.byteSize read := by
  rw [position, h.here_eq]
  rfl

/-- Passing over a character that begins no token reads this character. -/
theorem passing {start : Nat} {here : Location} {c : Char} {rest : List Char}
    {skipped : List Skipped}
    (h : HasRead filename source read found ⟨start, here, c :: rest, skipped⟩)
    (hc : Token.Kind.begunBy? c = none) :
    ∃ new, HasRead filename source (read ++ [c]) (found ++ new)
        ⟨here.offset, here.advance c, rest, skipped ++ Pull.recordOf here c⟩ ∧
      Finding.tokens new = [] ∧ ∀ f ∈ new, Text.byteSize read ≤ f.start := by
  obtain ⟨hsource, hreading, rfl, rfl⟩ := h
  have hother := Token.Kind.begunBy?_eq_none_iff.1 hc
  have hsource' : source = read ++ [c] ++ rest := by rw [hsource, List.append_assoc]; rfl
  have hhere : (Location.afterText filename read).advance c = .afterText filename (read ++ [c]) :=
    Location.after_afterText filename read [c]
  cases hblank : Text.isBlank c with
  | true =>
    refine ⟨[], ⟨hsource', ?_, hhere, ?_⟩, rfl, fun f hf => absurd hf List.not_mem_nil⟩
    · rw [List.append_nil]
      exact .blank hreading hother hblank
    · rw [Pull.recordOf, if_pos hblank, List.append_nil, List.append_nil]
  | false =>
    refine ⟨[.skipped ⟨c, .afterText filename read⟩], ⟨hsource', ?_, hhere, ?_⟩, rfl, ?_⟩
    · exact .finding (f := .skipped ⟨c, .afterText filename read⟩) hreading ⟨rfl, hother, hblank⟩
    · rw [Pull.recordOf, if_neg (by rw [hblank]; decide), Finding.skips_append]
      rfl
    · intro f hf
      rw [List.mem_singleton.1 hf]
      exact Nat.le_refl _

/-- Handing out a token reads its lexeme. -/
theorem handingOut {start : Nat} {here : Location} {c : Char} {text : List Char}
    {skipped : List Skipped} {kind : Token.Kind}
    (h : HasRead filename source read found ⟨start, here, c :: text, skipped⟩)
    (hc : Token.Kind.begunBy? c = some kind) :
    HasRead filename source (read ++ c :: (kind.span text).1)
      (found ++ [.token ⟨kind, String.ofList (c :: (kind.span text).1), here⟩])
      ⟨here.offset, here.pastToken (c :: (kind.span text).1), (kind.span text).2, skipped⟩ := by
  obtain ⟨hsource, hreading, rfl, rfl⟩ := h
  have hlexeme := isLexeme_span hc text
  have hwhole : c :: text = c :: (kind.span text).1 ++ (kind.span text).2 := by
    rw [List.cons_append, kind.span_append]
  generalize c :: (kind.span text).1 = lexeme at hlexeme hwhole ⊢
  generalize (kind.span text).2 = rest at hlexeme hwhole ⊢
  refine ⟨?_, ?_, ?_, ?_⟩
  · rw [hsource, List.append_assoc]
    exact congrArg (read ++ ·) hwhole
  · rw [hwhole] at hreading
    exact hreading.lexeme hlexeme
  · show Location.pastToken _ lexeme = _
    rw [Location.pastToken_eq_after hlexeme.newline_not_mem, Location.after_afterText]
  · rw [Finding.skips_append]
    exact (List.append_nil _).symm

/-- One pull reads on: it finds the token that it gives, and everything that it finds stands after
what was read before. -/
theorem next {s : Scanner} (h : HasRead filename source read found s) :
    ∃ more new, HasRead filename source (read ++ more) (found ++ new) s.next.2 ∧
      Finding.tokens new = s.next.1.toList ∧ ∀ f ∈ new, Text.byteSize read ≤ f.start := by
  obtain ⟨start, here, rest, skipped⟩ := s
  -- The induction is on what is left; a character that is passed over belongs to what is read.
  induction rest generalizing start here skipped read found with
  | nil =>
    refine ⟨[], [], ?_, ?_, fun f hf => absurd hf List.not_mem_nil⟩
    · rw [next_nil, List.append_nil, List.append_nil]
      exact h
    · rw [next_nil]
      rfl
  | cons c text ih =>
    cases hkind : Token.Kind.begunBy? c with
    | none =>
      rw [next_cons_of_none hkind]
      obtain ⟨passed, hpassed, htokens, hstart⟩ := h.passing hkind
      obtain ⟨more, new, hread, hnew, hstart'⟩ := ih _ _ _ hpassed
      refine ⟨c :: more, passed ++ new, ?_, ?_, ?_⟩
      · rw [List.append_cons, ← List.append_assoc]
        exact hread
      · rw [Finding.tokens_append, htokens, hnew, List.nil_append]
      · intro f hf
        rcases List.mem_append.1 hf with hf | hf
        · exact hstart f hf
        · have hle := hstart' f hf
          rw [Text.byteSize_append] at hle
          omega
    | some kind =>
      rw [next_cons_of_some hkind]
      refine ⟨_, _, h.handingOut hkind, rfl, ?_⟩
      intro f hf
      rw [List.mem_singleton.1 hf]
      exact Nat.le_of_eq h.position_eq.symm

/-- A run reads on, just as its pulls do. -/
theorem afterPulls {s : Scanner} (h : HasRead filename source read found s) (n : Nat) :
    ∃ more new, HasRead filename source (read ++ more) (found ++ new) (s.afterPulls n) ∧
      Finding.tokens new = s.given n ∧ ∀ f ∈ new, Text.byteSize read ≤ f.start := by
  induction n with
  | zero =>
    refine ⟨[], [], ?_, rfl, fun f hf => absurd hf List.not_mem_nil⟩
    rw [List.append_nil, List.append_nil]
    exact h
  | succ n ih =>
    obtain ⟨more, new, hread, hnew, hstart⟩ := ih
    obtain ⟨more', new', hread', hnew', hstart'⟩ := hread.next
    refine ⟨more ++ more', new ++ new', ?_, ?_, ?_⟩
    · rw [← List.append_assoc, ← List.append_assoc]
      exact hread'
    · rw [Finding.tokens_append, hnew, hnew', given]
    · intro f hf
      rcases List.mem_append.1 hf with hf | hf
      · exact hstart f hf
      · have hle := hstart' f hf
        rw [Text.byteSize_append] at hle
        omega

end HasRead

/-- Every run of a fresh scanner is a reading of its source, and finds the tokens that it gives. -/
theorem exists_hasRead (source : String) (filename : Option String) (n : Nat) :
    ∃ read found, HasRead filename source.toList read found
        ((ofString source filename).afterPulls n) ∧
      Finding.tokens found = (ofString source filename).given n := by
  obtain ⟨read, found, hread, htokens, -⟩ := (hasRead_ofString source filename).afterPulls n
  exact ⟨read, found, hread, htokens⟩

/-- Draining a fresh scanner reads its whole source. -/
theorem exists_hasRead_drain (source : String) (filename : Option String) :
    ∃ found, HasRead filename source.toList source.toList found
        (ofString source filename).drain.2 ∧
      Finding.tokens found = (ofString source filename).drain.1 := by
  have hlast := Nat.lt_succ_self (ofString source filename).drain.1.length
  obtain ⟨read, found, hread, htokens⟩ := exists_hasRead source filename _
  rw [afterPulls_of_length_lt hlast] at hread
  rw [given_eq_take, List.take_of_length_le (Nat.le_of_lt hlast)] at htokens
  have hall : read = source.toList := by
    rw [hread.source_eq, rest_drain, List.append_nil]
  exact ⟨found, hall ▸ hread, htokens⟩

end SexprLexer.Scanner
