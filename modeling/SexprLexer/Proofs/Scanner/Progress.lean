import SexprLexer.Proofs.Scanner.Machine

/-!
# Pulls go on

A pull gives the first token that is left, and is beyond it then. Where no token is left it reads
everything, and later pulls change nothing. Main statements: what a pull passes over
(`exists_next_append`); at every moment of a run a pull ends, never looks at the source beyond its
end or within a character, and either goes on or is at the end (`pull_ends_within_bounds`).
-/

namespace SexprLexer.Scanner

variable {before : List Char} (start : Nat) (here : Location) (skipped : List Skipped)

/-- A pull passes over the characters that belong to no token. -/
theorem exists_next_append (hbefore : ∀ c ∈ before, isTokenCharacter c = false)
    (text : List Char) :
    ∃ start' more, next ⟨start, here, before ++ text, skipped⟩ =
      next ⟨start', here.after before, text, skipped ++ more⟩ := by
  induction before generalizing start here skipped with
  | nil => exact ⟨start, [], by simp⟩
  | cons c before ih =>
    have hc : Token.Kind.begunBy? c = none :=
      Token.Kind.begunBy?_eq_none_iff.2 (hbefore c List.mem_cons_self)
    have hrest : ∀ d ∈ before, isTokenCharacter d = false :=
      fun d hd => hbefore d (List.mem_cons_of_mem c hd)
    obtain ⟨start', more, hnext⟩ :=
      ih here.offset (here.advance c) (skipped ++ Pull.recordOf here c) hrest
    refine ⟨start', Pull.recordOf here c ++ more, ?_⟩
    rw [List.cons_append, next_cons_of_none hc, hnext, Location.after_cons, List.append_assoc]

/-- A pull gives the token that begins with the first character of any token, and stops right after
it. -/
theorem exists_token_of_next {c : Char} (rest : List Char)
    (hbefore : ∀ d ∈ before, isTokenCharacter d = false) (hc : isTokenCharacter c = true) :
    let s : Scanner := ⟨start, here, before ++ c :: rest, skipped⟩
    ∃ t, s.next.1 = some t ∧ t.lexeme.toList.head? = some c ∧
      t.location.offset = s.position + Text.byteSize before ∧
      s.next.2.position = t.location.offset + t.lexeme.utf8ByteSize := by
  intro s
  obtain ⟨kind, hkind⟩ : ∃ kind, Token.Kind.begunBy? c = some kind := by
    rw [← Option.ne_none_iff_exists', Ne, Token.Kind.begunBy?_eq_none_iff, hc]
    decide
  obtain ⟨start', more, hnext⟩ := exists_next_append start here skipped hbefore (c :: rest)
  have hs : s.next = _ := hnext.trans (next_cons_of_some hkind _ _ _ _)
  refine ⟨⟨kind, String.ofList (c :: (kind.span rest).1), here.after before⟩, ?_, ?_, ?_, ?_⟩
  · rw [hs]
  · rw [String.toList_ofList, List.head?_cons]
  · exact Location.after_offset here before
  · rw [hs, Text.utf8ByteSize_ofList]
    rfl

/-- A pull finds nothing where no character that is left belongs to a token. -/
theorem next_eq_none {s : Scanner} (h : ∀ c ∈ s.rest, isTokenCharacter c = false) :
    s.next.1 = none := by
  obtain ⟨start, here, rest, skipped⟩ := s
  obtain ⟨start', more, hnext⟩ := exists_next_append start here skipped h []
  rw [List.append_nil] at hnext
  rw [hnext, next_nil]

/-- The pull from any state that a run can come to ends: the machine that makes this pull goes
through no more states than there are characters left, and two. In none of them does it look at the
source beyond the end or within a character; it hands out a slice from its cursor, where the lexeme
begins, to an offset that does not lie before. If a character that is left belongs to a token, the
pull gives the token that begins with the first of these characters, and is right after it then.
Otherwise the pull gives no token and reads everything, and any pull after it gives no token and
leaves the scanner as it is. -/
theorem pull_ends_within_bounds (source : String) (filename : Option String) (k : Nat) :
    let s := (ofString source filename).afterPulls k
    let after := s.next.2
    (∃ visited, Machine.Ends source.toList (.ofScanner s) visited s.next.1 (.ofScanner after) ∧
      visited.map Machine.entered = s.pull.events.filterMap ScanEvent.entered? ∧
      visited.length ≤ s.remaining.length + 2 ∧
      (∀ m ∈ visited, ∀ offset ∈ m.looksAt,
        offset ≤ source.utf8ByteSize ∧ (⟨offset⟩ : String.Pos.Raw).IsValid source) ∧
      ∀ m ∈ visited, ∀ kind stop, m.state = .emit kind stop →
        m.start = m.here.offset ∧ m.here.offset ≤ stop) ∧
    (s.next.1.isSome = true ↔ ∃ c ∈ s.remaining.toList, isTokenCharacter c = true) ∧
    ((∃ t before c rest, s.next.1 = some t ∧ s.remaining.toList = before ++ c :: rest ∧
        (∀ d ∈ before, isTokenCharacter d = false) ∧ isTokenCharacter c = true ∧
        t.lexeme ≠ "" ∧ t.lexeme.toList.head? = some c ∧
        t.location.offset = s.position + Text.byteSize before ∧
        after.position = t.location.offset + t.lexeme.utf8ByteSize ∧
        s.position < after.position) ∨
      (s.next.1 = none ∧ (∀ c ∈ s.remaining.toList, isTokenCharacter c = false) ∧
        after.position = source.utf8ByteSize ∧
        ∀ n, (after.afterPulls n).next = (none, after))) := by
  intro s after
  obtain ⟨read, found, hread, -⟩ := exists_hasRead source filename k
  have hs : HasRead filename source.toList read found s := hread
  have hremaining : s.remaining.toList = s.rest := String.toList_ofList
  refine ⟨?_, ?_⟩
  · obtain ⟨visited, hends, hmap⟩ := Machine.exists_ends_ofText (m := .ofScanner s) hs.source_eq
      rfl hs.position_eq
    have hlength : visited.length ≤ s.rest.length + 2 := by
      have hevents := length_entered_ofText s.start s.here s.rest
      rw [← List.length_map (f := Machine.entered), hmap]
      exact hevents
    refine ⟨visited, hends, hmap, ?_, ?_, ?_⟩
    · rwa [← String.length_toList, hremaining]
    · intro m hm offset hoffset
      have hstep := hends.step_ne_stuck m hm
      exact Text.isValid_of_cut? (Machine.isSome_cut?_of_step hstep offset hoffset)
    · intro m hm kind stop hstate
      have hstart : m.start = m.here.offset :=
        hends.anchored (fun h => absurd rfl h) m hm (by simp [hstate])
      obtain ⟨lexeme, hslice⟩ := Machine.exists_slice?_of_step (hends.step_ne_stuck m hm) hstate
      obtain ⟨-, -, -, -, hstop⟩ := Text.slice?_eq_some_iff.1 hslice
      exact ⟨hstart, by omega⟩
  · rw [hremaining]
    cases hfirst : s.rest.find? isTokenCharacter with
    | none =>
      have hnone : ∀ c ∈ s.rest, isTokenCharacter c = false := by
        intro c hc
        rw [← Bool.not_eq_true]
        exact List.find?_eq_none.1 hfirst c hc
      have htoken : s.next.1 = none := next_eq_none hnone
      have hrest : after.rest = [] := rest_eq_nil_of_next (Prod.ext htoken rfl)
      refine ⟨?_, .inr ⟨htoken, hnone, ?_, ?_⟩⟩
      · simpa [htoken] using hnone
      · obtain ⟨more, new, hafter, -⟩ := hs.next
        have hall : source.toList = read ++ more := by
          rw [hafter.source_eq, hrest, List.append_nil]
        rw [hafter.position_eq, ← hall, ← Text.utf8ByteSize_ofList, String.ofList_toList]
      · intro n
        rw [afterPulls_of_rest_eq_nil hrest, next_of_rest_eq_nil hrest]
    | some c =>
      obtain ⟨hc, before, rest, hrest, hbefore⟩ := List.find?_eq_some_iff_append.1 hfirst
      have hbefore : ∀ d ∈ before, isTokenCharacter d = false := by simpa using hbefore
      have hself : s = ⟨s.start, s.here, before ++ c :: rest, s.skipped⟩ := by rw [← hrest]
      obtain ⟨t, htoken, hhead, hplace, hposition⟩ :=
        exists_token_of_next s.start s.here s.skipped rest hbefore hc
      rw [← hself] at htoken hplace hposition
      have hlexeme : t.lexeme ≠ "" := by
        intro hempty
        simp [hempty] at hhead
      have hsize : 0 < t.lexeme.utf8ByteSize := by
        rw [Nat.pos_iff_ne_zero, Ne, String.utf8ByteSize_eq_zero_iff]
        exact hlexeme
      have hprogress : s.position < after.position := by
        show s.position < s.next.2.position
        omega
      refine ⟨?_, .inl ⟨t, before, c, rest, htoken, hrest, hbefore, hc, hlexeme, hhead, hplace,
        hposition, hprogress⟩⟩
      have hmem : c ∈ s.rest := by simp [hrest]
      simp only [htoken, Option.isSome_some, true_iff]
      exact ⟨c, hmem, hc⟩

end SexprLexer.Scanner
