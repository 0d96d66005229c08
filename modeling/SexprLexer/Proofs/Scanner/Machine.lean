import SexprLexer.Proofs.Scanner.Run

/-!
# Pulls as runs of a machine

A pull is one recursion over the text that is left. The same pull is a run of a machine that knows
its whole source and marks places in it by byte offsets only. In each of its states the machine
takes a slice of the source, and it is stuck where there is no such slice. Main statements: where
the machine is not stuck, it looks at the source between characters only
(`Machine.isSome_cut?_of_step`); on what is left of a source it ends, and does what the pull does,
state by state (`Machine.exists_ends_ofText`).
-/

namespace SexprLexer

namespace Text

/-- The character at an offset of a text, or none where the text ends. There is no answer for an
offset beyond the end or within a character. -/
def charAt? (text : List Char) (offset : Nat) : Option (Option Char) :=
  (cut? offset text).map fun parts => parts.2.head?

theorem charAt?_append (before after : List Char) :
    charAt? (before ++ after) (byteSize before) = some after.head? := by
  rw [charAt?, cut?_append, Option.map_some]

/-- Where a text can be cut, no character of the string goes on. -/
theorem isValid_of_cut? {text : String} {offset : Nat}
    (h : (cut? offset text.toList).isSome = true) :
    offset ≤ text.utf8ByteSize ∧ (⟨offset⟩ : String.Pos.Raw).IsValid text := by
  obtain ⟨⟨before, after⟩, hcut⟩ := Option.isSome_iff_exists.1 h
  obtain ⟨htext, hsize⟩ := cut?_eq_some_iff.1 hcut
  have hstring : text = String.ofList before ++ String.ofList after := by
    rw [← String.ofList_append, ← htext, String.ofList_toList]
  have hoffset : (String.ofList before).utf8ByteSize = offset := by
    rw [utf8ByteSize_ofList, hsize]
  constructor
  · rw [hstring, String.utf8ByteSize_append]
    omega
  · rw [String.Pos.Raw.isValid_iff_exists_append]
    refine ⟨_, _, hstring, ?_⟩
    rw [← hoffset]
    rfl

end Text

/-- The state that a scan enters with an event, if it enters one, and where its cursor is then. -/
def ScanEvent.entered? : ScanEvent → Option (ScanState × Nat)
  | entered state cursor => some (state, cursor)
  | identifierBegins _ | skipping _ | emitted _ _ => none

/-- To pass over a character is one state. -/
theorem Pull.filterMap_entered?_passing (here : Location) (c : Char) (later : Pull) :
    (passing here c later).events.filterMap ScanEvent.entered? =
      (.initial, here.offset) :: later.events.filterMap ScanEvent.entered? := by
  have hrecord : ((recordOf here c).map ScanEvent.skipping).filterMap ScanEvent.entered? = [] := by
    unfold recordOf
    split <;> rfl
  rw [passing, List.cons_append, List.filterMap_cons, List.filterMap_append, hrecord]
  rfl

namespace Scanner

/-! ### The machine -/

/-- A machine between two of its steps. The lexeme that it is at begins at the offset `start`, and
`here` is the place of its cursor. -/
structure Machine where
  state : ScanState
  start : Nat
  here : Location
  skipped : List Skipped

namespace Machine

/-- What one step comes to. -/
inductive Result where
  /-- The source has no slice where the machine looks. -/
  | stuck
  | goesOn (m : Machine)
  | ends (token : Option Token) (m : Machine)

/-- The machine that begins the next pull of a scanner. -/
def ofScanner (s : Scanner) : Machine := ⟨.initial, s.start, s.here, s.skipped⟩

/-- One step. -/
def step (source : List Char) (m : Machine) : Result :=
  match m.state with
  | .initial =>
    match Text.charAt? source m.here.offset with
    | none => .stuck
    | some none => .ends none m
    | some (some c) =>
      let ahead := m.here.offset + c.utf8Size
      match Token.Kind.begunBy? c with
      | none =>
        .goesOn { m with
          start := m.here.offset
          here := m.here.advance c
          skipped := m.skipped ++ Pull.recordOf m.here c }
      | some .identifier => .goesOn { m with state := .identifier ahead, start := m.here.offset }
      | some kind => .goesOn { m with state := .emit kind ahead, start := m.here.offset }
  | .identifier ahead =>
    match Text.charAt? source ahead with
    | none => .stuck
    | some none => .goesOn { m with state := .emit .identifier ahead }
    | some (some c) =>
      if isIdentifierSubsequent c then
        .goesOn { m with state := .identifier (ahead + c.utf8Size) }
      else .goesOn { m with state := .emit .identifier ahead }
  | .emit kind stop =>
    match Text.slice? source m.start stop with
    | none => .stuck
    | some lexeme =>
      .ends (some ⟨kind, String.ofList lexeme, m.here⟩)
        { m with
          state := .initial
          here := { m.here with column := m.here.column + lexeme.length, offset := stop } }

/-- `Ends source m visited token last` says that the machine `m` takes its steps through `visited`,
one after the other, and then ends with `token` as the machine `last`. -/
inductive Ends (source : List Char) : Machine → List Machine → Option Token → Machine → Prop
  | now {m last : Machine} {token : Option Token} (h : m.step source = .ends token last) :
      Ends source m [m] token last
  | later {m next last : Machine} {visited : List Machine} {token : Option Token}
      (h : m.step source = .goesOn next) (hnext : Ends source next visited token last) :
      Ends source m (m :: visited) token last

/-- The offsets between which the machine looks at its source in its next step. -/
def looksAt (m : Machine) : List Nat :=
  match m.state with
  | .initial => [m.here.offset]
  | .identifier ahead => [ahead]
  | .emit _ stop => [m.start, stop]

/-- The state of the machine, and where its cursor is. -/
def entered (m : Machine) : ScanState × Nat := (m.state, m.here.offset)

variable {source : List Char} {m last : Machine} {visited : List Machine} {token : Option Token}

/-! ### Machines that are not stuck -/

/-- A machine that hands a token out and is not stuck has a slice of its source in hand. -/
theorem exists_slice?_of_step {kind : Token.Kind} {stop : Nat} (h : m.step source ≠ .stuck)
    (hstate : m.state = .emit kind stop) :
    ∃ lexeme, Text.slice? source m.start stop = some lexeme := by
  unfold step at h
  simp only [hstate] at h
  cases hslice : Text.slice? source m.start stop with
  | none => simp [hslice] at h
  | some lexeme => exact ⟨lexeme, rfl⟩

/-- A machine that is not stuck can cut its source where it looks. -/
theorem isSome_cut?_of_step (h : m.step source ≠ .stuck) :
    ∀ offset ∈ m.looksAt, (Text.cut? offset source).isSome = true := by
  have hchar : ∀ offset, Text.charAt? source offset ≠ none →
      (Text.cut? offset source).isSome = true := by
    intro offset hne
    rw [Text.charAt?, Ne, Option.map_eq_none_iff] at hne
    exact Option.isSome_iff_ne_none.2 hne
  unfold looksAt
  cases hstate : m.state with
  | initial =>
    unfold step at h
    simp only [hstate] at h
    simp only [List.mem_singleton, forall_eq]
    apply hchar
    intro hnone
    simp [hnone] at h
  | identifier ahead =>
    unfold step at h
    simp only [hstate] at h
    simp only [List.mem_singleton, forall_eq]
    apply hchar
    intro hnone
    simp [hnone] at h
  | emit kind stop =>
    obtain ⟨lexeme, hslice⟩ := exists_slice?_of_step h hstate
    obtain ⟨before, after, hsource, hstart, hstop⟩ := Text.slice?_eq_some_iff.1 hslice
    have hfirst : Text.cut? m.start source = some (before, lexeme ++ after) :=
      Text.cut?_eq_some_iff.2 ⟨by rw [hsource, List.append_assoc], hstart⟩
    have hlast : Text.cut? stop source = some (before ++ lexeme, after) :=
      Text.cut?_eq_some_iff.2 ⟨hsource, by rw [Text.byteSize_append, hstart, hstop]⟩
    simp [hfirst, hlast]

/-- A machine that ends is stuck nowhere before. -/
theorem Ends.step_ne_stuck (h : Ends source m visited token last) :
    ∀ m' ∈ visited, m'.step source ≠ .stuck := by
  induction h with
  | now h => simp [h]
  | later h hnext ih => simpa [h] using ih

/-! ### The beginning of the lexeme -/

/-- Beyond the first state the cursor stays where the lexeme begins. -/
def Anchored (m : Machine) : Prop := m.state ≠ .initial → m.start = m.here.offset

/-- A step sets the beginning of the lexeme where it leaves the first state, and then keeps it. -/
theorem Anchored.step {next : Machine} (hm : m.Anchored) (h : m.step source = .goesOn next) :
    next.Anchored := by
  intro hnext
  unfold Machine.step at h
  cases hstate : m.state with
  | initial =>
    simp only [hstate] at h
    split at h
    · cases h
    · cases h
    · split at h
      · cases h
        exact absurd rfl hnext
      · cases h
        rfl
      · cases h
        rfl
  | identifier ahead =>
    have hstart : m.start = m.here.offset := hm (by simp [hstate])
    simp only [hstate] at h
    split at h
    · cases h
    · cases h
      exact hstart
    · split at h
      · cases h
        exact hstart
      · cases h
        exact hstart
  | emit kind stop =>
    simp only [hstate] at h
    split at h <;> cases h

/-- So it is along a whole run. -/
theorem Ends.anchored (h : Ends source m visited token last) (hm : m.Anchored) :
    ∀ m' ∈ visited, m'.Anchored := by
  induction h with
  | now h => simpa using hm
  | later h hnext ih => simpa [hm] using ih (hm.step h)

/-! ### Steps where the source is known -/

section Steps

variable {read rest : List Char} {c : Char}

/-- The machine sees what comes after the text before its offset. -/
theorem charAt?_eq {offset : Nat} (hsource : source = read ++ rest)
    (hoffset : offset = Text.byteSize read) : Text.charAt? source offset = some rest.head? := by
  rw [hsource, hoffset, Text.charAt?_append]

/-- Where the source ends the machine ends without a token. -/
theorem step_at_end (hstate : m.state = .initial)
    (hhere : m.here.offset = Text.byteSize source) : m.step source = .ends none m := by
  have hchar := charAt?_eq (List.append_nil source).symm hhere
  unfold step
  simp only [hstate, hchar, List.head?_nil]

/-- A character that begins no token is passed over. -/
theorem step_passing (hsource : source = read ++ c :: rest) (hstate : m.state = .initial)
    (hhere : m.here.offset = Text.byteSize read) (hc : Token.Kind.begunBy? c = none) :
    m.step source = .goesOn
      ⟨.initial, m.here.offset, m.here.advance c, m.skipped ++ Pull.recordOf m.here c⟩ := by
  have hchar := charAt?_eq hsource hhere
  unfold step
  simp only [hstate, hchar, List.head?_cons, hc]

/-- After the first character of an identifier the machine looks ahead. -/
theorem step_identifier (hsource : source = read ++ c :: rest) (hstate : m.state = .initial)
    (hhere : m.here.offset = Text.byteSize read)
    (hc : Token.Kind.begunBy? c = some .identifier) :
    m.step source = .goesOn
      { m with state := .identifier (Text.byteSize (read ++ [c])), start := m.here.offset } := by
  have hchar := charAt?_eq hsource hhere
  have hahead : m.here.offset + c.utf8Size = Text.byteSize (read ++ [c]) := by simp [hhere]
  unfold step
  simp only [hstate, hchar, List.head?_cons, hc, hahead]

/-- A parenthesis is handed out at once. -/
theorem step_paren {kind : Token.Kind} (hsource : source = read ++ c :: rest)
    (hstate : m.state = .initial) (hhere : m.here.offset = Text.byteSize read)
    (hc : Token.Kind.begunBy? c = some kind) (hkind : kind ≠ .identifier) :
    m.step source = .goesOn
      { m with state := .emit kind (Text.byteSize (read ++ [c])), start := m.here.offset } := by
  have hchar := charAt?_eq hsource hhere
  have hahead : m.here.offset + c.utf8Size = Text.byteSize (read ++ [c]) := by simp [hhere]
  unfold step
  cases kind with
  | identifier => exact absurd rfl hkind
  | leftParen => simp only [hstate, hchar, List.head?_cons, hc, hahead]
  | rightParen => simp only [hstate, hchar, List.head?_cons, hc, hahead]

/-- While an identifier goes on the lookahead moves. -/
theorem step_ahead (hsource : source = read ++ c :: rest)
    (hstate : m.state = .identifier (Text.byteSize read))
    (hc : isIdentifierSubsequent c = true) :
    m.step source = .goesOn { m with state := .identifier (Text.byteSize (read ++ [c])) } := by
  have hchar := charAt?_eq hsource rfl
  have hahead : Text.byteSize read + c.utf8Size = Text.byteSize (read ++ [c]) := by simp
  unfold step
  simp only [hstate, hchar, List.head?_cons, hc, if_pos, hahead]

/-- Where nothing goes on with an identifier it is complete. -/
theorem step_complete (hsource : source = read ++ rest)
    (hstate : m.state = .identifier (Text.byteSize read)) (hrest : ¬ GoesOn rest) :
    m.step source = .goesOn { m with state := .emit .identifier (Text.byteSize read) } := by
  have hchar := charAt?_eq hsource rfl
  unfold step
  cases rest with
  | nil => simp only [hstate, hchar, List.head?_nil]
  | cons c rest =>
    have hc : ¬ isIdentifierSubsequent c = true := fun hc => hrest ⟨c, rfl, hc⟩
    simp only [hstate, hchar, List.head?_cons, if_neg hc]

/-- In the last state the machine ends with the slice up to the offset that it has come to. -/
theorem step_emit {kind : Token.Kind} {lexeme : List Char}
    (hsource : source = read ++ lexeme ++ rest)
    (hstate : m.state = .emit kind (Text.byteSize (read ++ lexeme)))
    (hstart : m.start = Text.byteSize read) (hhere : m.here.offset = Text.byteSize read) :
    m.step source = .ends (some ⟨kind, String.ofList lexeme, m.here⟩)
      { m with state := .initial, here := m.here.pastToken lexeme } := by
  have hslice : Text.slice? source m.start (Text.byteSize (read ++ lexeme)) = some lexeme :=
    Text.slice?_eq_some_iff.2
      ⟨read, rest, hsource, hstart.symm, by rw [hstart, Text.byteSize_append]⟩
  have hstop : Text.byteSize (read ++ lexeme) = m.here.offset + Text.byteSize lexeme := by
    rw [hhere, Text.byteSize_append]
  unfold step
  simp only [hstate, hslice, Location.pastToken, ← hstop]

end Steps

/-! ### Runs of the machine and pulls -/

section Runs

variable {read rest : List Char}

/-- While an identifier goes on the machine looks ahead, one character after the other; then it
hands the identifier out. -/
theorem exists_ends_identifier (hsource : source = read ++ rest)
    (hstate : m.state = .identifier (Text.byteSize read))
    (hends : Ends source
      { m with
        state := .emit .identifier
          (Text.byteSize (read ++ rest.takeWhile isIdentifierSubsequent)) } visited token last) :
    ∃ ahead, Ends source m (ahead ++ visited) token last ∧
      ahead.map entered =
        (Pull.lookaheads (Text.byteSize read) (rest.takeWhile isIdentifierSubsequent)).map
          fun offset => (.identifier offset, m.here.offset) := by
  -- The induction is on what is left; each character that goes on moves the lookahead only.
  induction rest generalizing read m with
  | nil =>
    rw [List.takeWhile_nil, List.append_nil] at hends
    refine ⟨[m], .later (step_complete hsource hstate not_goesOn_nil) hends, ?_⟩
    simp [entered, hstate, Pull.lookaheads]
  | cons c rest ih =>
    by_cases hc : isIdentifierSubsequent c = true
    · have hstep := step_ahead hsource hstate hc
      rw [List.append_cons] at hsource
      rw [List.takeWhile_cons, if_pos hc, List.append_cons] at hends
      obtain ⟨ahead, hnext, hmap⟩ :=
        ih (m := { m with state := .identifier (Text.byteSize (read ++ [c])) }) hsource rfl hends
      refine ⟨m :: ahead, .later hstep hnext, ?_⟩
      have hahead : Text.byteSize read + c.utf8Size = Text.byteSize (read ++ [c]) := by simp
      rw [List.map_cons, hmap, List.takeWhile_cons, if_pos hc, Pull.lookaheads, List.map_cons,
        hahead, entered, hstate]
    · have hrest : ¬ GoesOn (c :: rest) := by
        rintro ⟨d, hd, hsubsequent⟩
        cases hd
        exact hc hsubsequent
      rw [List.takeWhile_cons, if_neg hc, List.append_nil] at hends
      rw [List.takeWhile_cons, if_neg hc]
      refine ⟨[m], .later (step_complete hsource hstate hrest) hends, ?_⟩
      simp [entered, hstate, Pull.lookaheads]

/-- From the first character of a token on the machine does what is done to hand the token out. -/
theorem exists_ends_token {c : Char} {kind : Token.Kind} (hsource : source = read ++ c :: rest)
    (hstate : m.state = .initial) (hhere : m.here.offset = Text.byteSize read)
    (hc : Token.Kind.begunBy? c = some kind) :
    let p := Pull.handingOut kind m.here c (kind.span rest).1 (kind.span rest).2
    ∃ visited, Ends source m visited p.token ⟨.initial, p.start, p.here, m.skipped⟩ ∧
      visited.map entered = p.events.filterMap ScanEvent.entered? := by
  intro p
  have hwhole : source = read ++ c :: (kind.span rest).1 ++ (kind.span rest).2 := by
    rw [hsource, List.append_assoc, List.cons_append, kind.span_append]
  have hstop : p.here.offset = Text.byteSize (read ++ c :: (kind.span rest).1) := by
    rw [Text.byteSize_append, ← hhere]
    rfl
  -- The last state is the same for all kinds of tokens.
  let emitting : Machine :=
    { m with
      state := .emit kind (Text.byteSize (read ++ c :: (kind.span rest).1))
      start := m.here.offset }
  have hemit : Ends source emitting [emitting] p.token ⟨.initial, p.start, p.here, m.skipped⟩ :=
    .now (step_emit hwhole rfl hhere hhere)
  cases kind with
  | leftParen =>
    refine ⟨[m, emitting], .later (step_paren hsource hstate hhere hc nofun) hemit, ?_⟩
    simp only [List.map_cons, List.map_nil, entered, hstate, emitting, ← hstop]
    rfl
  | rightParen =>
    refine ⟨[m, emitting], .later (step_paren hsource hstate hhere hc nofun) hemit, ?_⟩
    simp only [List.map_cons, List.map_nil, entered, hstate, emitting, ← hstop]
    rfl
  | identifier =>
    have hbegin := step_identifier hsource hstate hhere hc
    rw [List.append_cons] at hsource
    have hsplit : read ++ c :: rest.takeWhile isIdentifierSubsequent =
        read ++ [c] ++ rest.takeWhile isIdentifierSubsequent := List.append_cons _ _ _
    let ahead : Machine :=
      { m with state := .identifier (Text.byteSize (read ++ [c])), start := m.here.offset }
    have hcomplete : Ends source
        { ahead with
          state := .emit .identifier
            (Text.byteSize (read ++ [c] ++ rest.takeWhile isIdentifierSubsequent)) }
        [emitting] p.token ⟨.initial, p.start, p.here, m.skipped⟩ := by
      rw [← hsplit]
      exact hemit
    obtain ⟨looking, hlooking, hmap⟩ := exists_ends_identifier (m := ahead) hsource rfl hcomplete
    refine ⟨m :: (looking ++ [emitting]), .later hbegin hlooking, ?_⟩
    have hahead : Text.byteSize (read ++ [c]) = m.here.offset + c.utf8Size := by simp [hhere]
    have hlookaheads : ((Pull.lookaheads (Text.byteSize (read ++ [c]))
          (rest.takeWhile isIdentifierSubsequent)).map fun offset =>
            ScanEvent.entered (.identifier offset) m.here.offset).filterMap ScanEvent.entered? =
        looking.map entered := by
      rw [hmap, List.filterMap_map, ← List.filterMap_eq_map]
      rfl
    show entered m :: (looking ++ [emitting]).map entered = _
    rw [List.map_append, ← hlookaheads, hahead]
    simp only [p, Pull.handingOut, Pull.lookingAhead, Token.Kind.span, List.cons_append,
      List.filterMap_cons, List.filterMap_append, ScanEvent.entered?, List.filterMap_nil]
    simp only [entered, hstate, emitting, ← hstop, List.map_cons, List.map_nil]
    rfl

/-- The run of the machine on what is left of a source ends, and does what the pull does. -/
theorem exists_ends_ofText (hsource : source = read ++ rest) (hstate : m.state = .initial)
    (hhere : m.here.offset = Text.byteSize read) :
    let p := Pull.ofText m.start m.here rest
    ∃ visited, Ends source m visited p.token ⟨.initial, p.start, p.here, m.skipped ++ p.skipped⟩ ∧
      visited.map entered = p.events.filterMap ScanEvent.entered? := by
  -- Each character that is passed over belongs to what is read before the next state.
  induction rest generalizing read m with
  | nil =>
    have hend : m.step source = .ends none ⟨.initial, m.start, m.here, m.skipped ++ []⟩ := by
      rw [List.append_nil] at hsource ⊢
      rw [← hstate, hsource]
      exact step_at_end hstate hhere
    refine ⟨[m], .now hend, ?_⟩
    rw [List.map_singleton, entered, hstate]
    rfl
  | cons c rest ih =>
    cases hc : Token.Kind.begunBy? c with
    | none =>
      have hstep := step_passing hsource hstate hhere hc
      rw [List.append_cons] at hsource
      have hnext : (m.here.advance c).offset = Text.byteSize (read ++ [c]) := by simp [hhere]
      obtain ⟨visited, hends, hmap⟩ := ih (m := ⟨.initial, m.here.offset, m.here.advance c,
        m.skipped ++ Pull.recordOf m.here c⟩) hsource rfl hnext
      have hpull : Pull.ofText m.start m.here (c :: rest) =
          Pull.passing m.here c (Pull.ofText m.here.offset (m.here.advance c) rest) := by
        rw [Pull.ofText, hc]
      rw [List.append_assoc] at hends
      rw [hpull]
      refine ⟨m :: visited, .later hstep hends, ?_⟩
      rw [List.map_cons, hmap, entered, hstate, Pull.filterMap_entered?_passing]
    | some kind =>
      obtain ⟨visited, hends, hmap⟩ := exists_ends_token hsource hstate hhere hc
      have hpull : Pull.ofText m.start m.here (c :: rest) =
          Pull.handingOut kind m.here c (kind.span rest).1 (kind.span rest).2 := by
        rw [Pull.ofText, hc]
      rw [hpull]
      refine ⟨visited, ?_, hmap⟩
      rw [show (Pull.handingOut kind m.here c (kind.span rest).1 (kind.span rest).2).skipped = []
        from rfl, List.append_nil]
      exact hends

end Runs

end Machine

/-! ### How many states there are -/

/-- An identifier is looked at once more than it has characters after its first. -/
theorem length_lookaheads (ahead : Nat) (further : List Char) :
    (Pull.lookaheads ahead further).length = further.length + 1 := by
  induction further generalizing ahead with
  | nil => rfl
  | cons c further ih => simp [Pull.lookaheads, ih]

/-- A token is handed out in at most two states more than it has characters. -/
theorem length_entered_handingOut (kind : Token.Kind) (here : Location) (c : Char)
    (further rest : List Char) :
    ((Pull.handingOut kind here c further rest).events.filterMap ScanEvent.entered?).length ≤
      further.length + 3 := by
  have hahead : ((Pull.lookingAhead kind here c further).filterMap ScanEvent.entered?).length ≤
      further.length + 1 := by
    cases kind with
    | leftParen => simp [Pull.lookingAhead]
    | rightParen => simp [Pull.lookingAhead]
    | identifier =>
      simp only [Pull.lookingAhead, List.filterMap_cons, ScanEvent.entered?]
      refine Nat.le_trans (List.length_filterMap_le _ _) ?_
      rw [List.length_map, length_lookaheads]
  simp only [Pull.handingOut, List.cons_append, List.filterMap_cons, List.filterMap_append,
    ScanEvent.entered?, List.filterMap_nil, List.length_cons, List.length_append, List.length_nil]
  omega

/-- A pull enters at most two states more than there are characters left. -/
theorem length_entered_ofText (start : Nat) (here : Location) (text : List Char) :
    ((Pull.ofText start here text).events.filterMap ScanEvent.entered?).length ≤
      text.length + 2 := by
  induction text generalizing start here with
  | nil => simp [Pull.ofText, Pull.atEnd, ScanEvent.entered?]
  | cons c text ih =>
    rw [Pull.ofText]
    split
    · have hlater := ih here.offset (here.advance c)
      rw [Pull.filterMap_entered?_passing, List.length_cons, List.length_cons]
      omega
    · next kind hkind =>
      have htoken := length_entered_handingOut kind here c (kind.span text).1 (kind.span text).2
      have hspan := congrArg List.length (kind.span_append text)
      rw [List.length_append] at hspan
      rw [List.length_cons]
      omega

end Scanner

end SexprLexer
