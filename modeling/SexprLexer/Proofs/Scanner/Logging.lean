import Mathlib.Data.List.Chain
import Mathlib.Data.List.Infix
import SexprLexer.Proofs.Scanner.Grammar

/-!
# The log of a scan

A scanner writes a record of every step that it makes. Here the records are said from the source
alone: what is left out before a token, character by character, and then the token. Main statements:
one pull writes exactly these records (`Pull.exists_records_ofText`); in the log of a whole run the
debug records are those of the skipped characters, the records of emissions are those of the tokens,
and the steps can be counted from the source and its tokens (`log_of_run`).
-/

namespace SexprLexer

/-- A number is written with digits. -/
theorem Text.isDigit_of_mem_toString {n : Nat} {c : Char} (h : c ∈ (toString n).toList) :
    c.isDigit = true := by
  rw [Nat.toString_eq_ofList_toDigits, String.toList_ofList] at h
  exact Nat.isDigit_of_mem_toDigits (by decide) (by decide) h

/-- A text of identifier characters has as many bytes as characters. -/
theorem byteSize_of_identifier {text : List Char}
    (h : ∀ c ∈ text, isIdentifierSubsequent c = true) : Text.byteSize text = text.length := by
  induction text with
  | nil => rfl
  | cons c text ih =>
    rw [Text.byteSize_cons, utf8Size_of_isIdentifierSubsequent (h c List.mem_cons_self),
      ih fun d hd => h d (List.mem_cons_of_mem c hd), List.length_cons, Nat.add_comm]

/-- Every other lexeme is one character. -/
theorem IsLexeme.length_eq_one {kind : Token.Kind} {lexeme rest : List Char}
    (h : IsLexeme kind lexeme rest) (hkind : kind ≠ .identifier) : lexeme.length = 1 := by
  cases h with
  | leftParen => rfl
  | rightParen => rfl
  | identifier => exact absurd rfl hkind

/-- The offset right after a token. -/
def Token.stop (t : Token) : Nat := t.location.offset + Text.byteSize t.lexeme.toList

namespace ScanLog

/-! ### The records of a scan -/

/-- A record about a step of a scan. -/
def traced (message : String) : Log.Record := ⟨.trace, ScanEvent.target, message⟩

/-- The record that a scan enters a state while its cursor is at an offset. -/
def step (state : String) (cursor : Nat) : Log.Record :=
  traced (state ++ " at current=" ++ toString cursor)

/-- The record that a character is left out. -/
def omission (s : Skipped) : Log.Record :=
  ⟨.debug, ScanEvent.target,
    "skipping unexpected character " ++ Text.quoteChar s.character ++ " at " ++ s.location.display⟩

/-- The record that a token is handed out. -/
def emission (t : Token) : Log.Record :=
  traced ("emit " ++ t.kind.name ++ " " ++ Text.quoteText t.lexeme ++ ", current=" ++
    toString t.stop)

/-- The records about a character that is discarded, where `before` comes before it in the source
called `filename`. -/
def discard (filename : Option String) (before : List Char) (c : Char) : List Log.Record :=
  step "Initial" (Text.byteSize before) ::
    if Text.isBlank c then [] else [omission ⟨c, .afterText filename before⟩]

/-- The records about characters that are discarded one after the other. -/
def discards (filename : Option String) (before : List Char) : List Char → List Log.Record
  | [] => []
  | c :: text => discard filename before c ++ discards filename (before ++ [c]) text

/-- The records about the lookahead within an identifier of so many bytes: one for each place
after one of its bytes. -/
def lookahead (start size : Nat) : List Log.Record :=
  traced ("identifier starts at " ++ toString start) ::
    (List.range size).map fun i =>
      step ("Identifier(" ++ toString (start + (i + 1)) ++ ")") start

/-- The records about a token. -/
def ofToken (t : Token) : List Log.Record :=
  step "Initial" t.location.offset ::
    ((if t.kind = .identifier then
        lookahead t.location.offset (Text.byteSize t.lexeme.toList)
      else []) ++
      [step ("Emit(" ++ t.kind.name ++ ", " ++ toString t.stop ++ ")") t.location.offset,
        emission t])

/-- Whether a record is about a step, by its text. -/
def isStep (r : Log.Record) : Bool :=
  decide (r.level = .trace) && decide (" at current=".toList <:+: r.message.toList)

/-- Whether a record is about an emission, by its text. -/
def isEmission (r : Log.Record) : Bool := "emit ".toList.isPrefixOf r.message.toList

/-- Whether a record is about a character that is left out, by its level. -/
def isOmission (r : Log.Record) : Bool := decide (r.level = .debug)

/-! ### Telling records apart -/

/-- The record of an emission begins with a small letter. -/
theorem isEmission_eq_false {r : Log.Record} (h : r.message.toList.head? ≠ some 'e') :
    isEmission r = false := by
  rw [← Bool.not_eq_true]
  unfold isEmission
  rw [List.isPrefixOf_iff_prefix]
  rintro ⟨rest, hrest⟩
  apply h
  rw [← hrest]
  rfl

theorem isEmission_initial (cursor : Nat) : isEmission (step "Initial" cursor) = false :=
  isEmission_eq_false (by simp [step, traced])

theorem isEmission_emission (t : Token) : isEmission (emission t) = true := by
  unfold isEmission
  rw [List.isPrefixOf_iff_prefix]
  simp only [emission, traced, String.toList_append, List.append_assoc]
  exact List.prefix_append _ _

theorem isStep_step (state : String) (cursor : Nat) : isStep (step state cursor) = true := by
  have hwithin : " at current=".toList <:+: (step state cursor).message.toList := by
    refine ⟨state.toList, (toString cursor).toList, ?_⟩
    simp only [step, traced, String.toList_append]
  unfold isStep
  rw [decide_eq_true hwithin]
  rfl

/-- The record of a step holds an equals sign. -/
theorem isStep_eq_false_of_not_mem {r : Log.Record} (h : '=' ∉ r.message.toList) :
    isStep r = false := by
  have hwithin : ¬ " at current=".toList <:+: r.message.toList :=
    fun hwithin => h (hwithin.subset (by decide))
  unfold isStep
  rw [decide_eq_false hwithin, Bool.and_false]

/-- No blank of a text stands before an `a`. -/
def BlanksApart (text : List Char) : Prop := text.IsChain fun c d => ¬ (c = ' ' ∧ d = 'a')

instance (text : List Char) : Decidable (BlanksApart text) :=
  inferInstanceAs (Decidable (text.IsChain _))

theorem blanksApart_of_not_mem {text : List Char} (h : ' ' ∉ text) : BlanksApart text := by
  induction text with
  | nil => exact List.isChain_nil
  | cons c text ih =>
    rw [List.mem_cons, not_or] at h
    refine List.isChain_cons.2 ⟨?_, ih h.2⟩
    rintro d - ⟨hc, -⟩
    exact h.1 hc.symm

theorem BlanksApart.append {text more : List Char} (h : BlanksApart text) (h' : BlanksApart more)
    (hlast : ' ' ∉ text.getLast?) : BlanksApart (text ++ more) := by
  refine List.isChain_append.2 ⟨h, h', ?_⟩
  rintro c hc d - ⟨rfl, -⟩
  exact hlast hc

/-- The record of a step holds a blank before an `a`. -/
theorem isStep_eq_false_of_blanksApart {r : Log.Record} (h : BlanksApart r.message.toList) :
    isStep r = false := by
  have hwithin : ¬ " at current=".toList <:+: r.message.toList := by
    intro hwithin
    have hchain : BlanksApart " at current=".toList := List.IsChain.infix h hwithin
    revert hchain
    decide
  unfold isStep
  rw [decide_eq_false hwithin, Bool.and_false]

theorem isStep_begins (start : Nat) :
    isStep (traced ("identifier starts at " ++ toString start)) = false := by
  apply isStep_eq_false_of_not_mem
  simp only [traced, String.toList_append, List.mem_append]
  rintro (h | h)
  · exact absurd h (by decide)
  · exact absurd (Text.isDigit_of_mem_toString h) (by decide)

/-- Emissions are no steps, since a lexeme holds no blank. -/
theorem isStep_emission {t : Token} (h : ∀ c ∈ t.lexeme.toList, isTokenCharacter c = true) :
    isStep (emission t) = false := by
  have hblank : ' ' ∉ t.lexeme.toList := fun hmem => absurd (h ' ' hmem) (by decide)
  have hdigits : ' ' ∉ (toString t.stop).toList :=
    fun hmem => absurd (Text.isDigit_of_mem_toString hmem) (by decide)
  -- The text around the lexeme is known, and its blanks come before other letters.
  have hmessage : ∃ first last : List Char, (emission t).message.toList =
      first ++ (t.lexeme.toList ++ (last ++ (toString t.stop).toList)) ∧
      BlanksApart first ∧ BlanksApart last ∧ first.getLast? = some '"' ∧
      last.getLast? = some '=' := by
    refine ⟨("emit " ++ t.kind.name ++ " \"").toList, "\", current=".toList, ?_, ?_⟩
    · simp [emission, traced, quoteText_eq h]
    · cases t.kind <;> decide
  obtain ⟨first, last, hmessage, hfirst, hlast, hends, hends'⟩ := hmessage
  apply isStep_eq_false_of_blanksApart
  rw [hmessage]
  apply hfirst.append _ (by rw [hends]; decide)
  apply (blanksApart_of_not_mem hblank).append _ (fun hmem => hblank (List.mem_of_getLast? hmem))
  exact hlast.append (blanksApart_of_not_mem hdigits) (by rw [hends']; decide)

/-! ### What the records of characters and tokens hold -/

variable {filename : Option String} {text : List Char}

/-- Of the records about discarded characters, those about noise tell what is left out. -/
theorem filter_isOmission_discards (h : ∀ c ∈ text, isTokenCharacter c = false)
    (before : List Char) :
    (discards filename before text).filter isOmission =
      (noise filename before text).map omission := by
  induction text generalizing before with
  | nil => rfl
  | cons c text ih =>
    have hnoise : isNoise c = !Text.isBlank c := by
      rw [isNoise, h c List.mem_cons_self, Bool.not_false, Bool.true_and]
    rw [discards, List.filter_append, ih (fun d hd => h d (List.mem_cons_of_mem c hd)), noise,
      hnoise]
    cases hblank : Text.isBlank c with
    | true => simp [discard, hblank, isOmission, step, traced]
    | false => simp [discard, hblank, isOmission, step, traced, omission]

/-- Discarded characters are not handed out. -/
theorem filter_isEmission_discards (before : List Char) :
    (discards filename before text).filter isEmission = [] := by
  induction text generalizing before with
  | nil => rfl
  | cons c text ih =>
    have homission : ∀ x, isEmission (omission x) = false :=
      fun x => isEmission_eq_false (by simp [omission])
    rw [discards, List.filter_append, ih, List.append_nil, discard,
      List.filter_cons_of_neg (by rw [isEmission_initial]; decide)]
    split
    · rfl
    · rw [List.filter_cons_of_neg (by rw [homission]; decide), List.filter_nil]

/-- Each discarded character takes one step. -/
theorem countP_isStep_discards (before : List Char) :
    (discards filename before text).countP isStep = text.length := by
  induction text generalizing before with
  | nil => rfl
  | cons c text ih =>
    have homission : ∀ x, isStep (omission x) = false := fun x => rfl
    rw [discards, List.countP_append, ih, discard, List.countP_cons_of_pos (isStep_step _ _),
      List.length_cons]
    split
    · simp [Nat.add_comm]
    · simp [Nat.add_comm, homission]

/-- A token leaves nothing out. -/
theorem filter_isOmission_ofToken (t : Token) : (ofToken t).filter isOmission = [] := by
  have hlookahead : ∀ start size, (lookahead start size).filter isOmission = [] := by
    intro start size
    simp [lookahead, isOmission, step, traced]
  unfold ofToken
  split
  · simp [hlookahead, isOmission, step, traced, emission]
  · simp [isOmission, step, traced, emission]

/-- A token is handed out once. -/
theorem filter_isEmission_ofToken (t : Token) : (ofToken t).filter isEmission = [emission t] := by
  have hstep : ∀ state cursor, state.toList.head? = some 'I' ∨ state.toList.head? = some 'E' →
      isEmission (step state cursor) = false := by
    intro state cursor hstate
    apply isEmission_eq_false
    rcases hstate with hstate | hstate
    · simp [step, traced, hstate]
    · simp [step, traced, hstate]
  have hlookahead : ∀ start size, (lookahead start size).filter isEmission = [] := by
    intro start size
    have hbegins : isEmission (traced ("identifier starts at " ++ toString start)) = false :=
      isEmission_eq_false (by simp [traced])
    rw [lookahead, List.filter_cons_of_neg (by rw [hbegins]; decide), List.filter_eq_nil_iff]
    intro r hr
    obtain ⟨i, -, rfl⟩ := List.mem_map.1 hr
    rw [hstep _ _ (by simp)]
    decide
  unfold ofToken
  split
  · simp [hlookahead, hstep, isEmission_emission]
  · simp [hstep, isEmission_emission]

/-- A token takes a step for each of its characters, and one or two more. -/
theorem countP_isStep_ofToken {t : Token} {rest : List Char}
    (h : IsLexeme t.kind t.lexeme.toList rest) :
    (ofToken t).countP isStep =
      t.lexeme.toList.length + if t.kind = .identifier then 2 else 1 := by
  have hemission := isStep_emission h.isTokenCharacter_of_mem
  have hlookahead : ∀ start size, (lookahead start size).countP isStep = size := by
    intro start size
    have hall : ((List.range size).map fun i =>
        step ("Identifier(" ++ toString (start + (i + 1)) ++ ")") start).countP isStep = size := by
      simp [List.countP_map, Function.comp_def, isStep_step]
    rw [lookahead, List.countP_cons_of_neg (by rw [isStep_begins]; decide), hall]
  unfold ofToken
  by_cases hkind : t.kind = .identifier
  · rw [hkind] at h
    cases h with
    | identifier hne hrun hstop =>
      rw [if_pos hkind, if_pos hkind, byteSize_of_identifier hrun,
        List.countP_cons_of_pos (isStep_step _ _), List.countP_append, hlookahead,
        List.countP_cons_of_pos (isStep_step _ _),
        List.countP_cons_of_neg (by rw [hemission]; decide), List.countP_nil]
  · rw [if_neg hkind, if_neg hkind, h.length_eq_one hkind,
      List.countP_cons_of_pos (isStep_step _ _), List.nil_append,
      List.countP_cons_of_pos (isStep_step _ _),
      List.countP_cons_of_neg (by rw [hemission]; decide), List.countP_nil]

/-! ### What a log tells of a source -/

/-- What a log tells of the rest `text` of a source, behind `before` and with the given tokens. -/
structure Tells (filename : Option String) (before text : List Char) (tokens : List Token)
    (log : List Log.Record) : Prop where
  omissions_eq : log.filter isOmission = (noise filename before text).map omission
  emissions_eq : log.filter isEmission = tokens.map emission
  steps_eq : log.countP isStep = text.length +
    2 * tokens.countP (fun t => t.kind = .identifier) +
    tokens.countP (fun t => t.kind ≠ .identifier) + 1

/-- The log of a rest without tokens: one more step finds that the source has ended. -/
theorem tells_discards (h : ∀ c ∈ text, isTokenCharacter c = false) (before : List Char)
    (offset : Nat) :
    Tells filename before text [] (discards filename before text ++ [step "Initial" offset]) where
  omissions_eq := by
    rw [List.filter_append, filter_isOmission_discards h]
    exact List.append_nil _
  emissions_eq := by
    rw [List.filter_append, filter_isEmission_discards, List.nil_append,
      List.filter_cons_of_neg (by rw [isEmission_initial]; decide)]
    rfl
  steps_eq := by
    rw [List.countP_append, countP_isStep_discards, List.countP_cons_of_pos (isStep_step _ _)]
    rfl

/-- The records about a token, and about what is discarded before it, come before the log of what
stands behind it. -/
theorem Tells.cons_token {before rest : List Char} {t : Token} {tokens : List Token}
    {log : List Log.Record} (h : ∀ c ∈ text, isTokenCharacter c = false)
    (hlexeme : IsLexeme t.kind t.lexeme.toList rest)
    (hlog : Tells filename (before ++ text ++ t.lexeme.toList) rest tokens log) :
    Tells filename before (text ++ (t.lexeme.toList ++ rest)) (t :: tokens)
      (discards filename before text ++ ofToken t ++ log) where
  omissions_eq := by
    -- A lexeme is no noise.
    have hquiet : noise filename (before ++ text) t.lexeme.toList = [] := by
      apply noise_eq_nil
      intro c hc
      rw [isNoise, hlexeme.isTokenCharacter_of_mem c hc]
      rfl
    rw [List.filter_append, List.filter_append, hlog.omissions_eq, filter_isOmission_discards h,
      filter_isOmission_ofToken, List.append_nil, noise_append, noise_append, hquiet,
      List.nil_append, List.map_append]
  emissions_eq := by
    rw [List.filter_append, List.filter_append, hlog.emissions_eq, filter_isEmission_discards,
      filter_isEmission_ofToken]
    rfl
  steps_eq := by
    rw [List.countP_append, List.countP_append, hlog.steps_eq, countP_isStep_discards,
      countP_isStep_ofToken hlexeme, List.length_append, List.length_append, List.countP_cons,
      List.countP_cons]
    by_cases hkind : t.kind = .identifier
    · simp only [hkind, ne_eq, not_true, decide_true, decide_false, if_true, Bool.false_eq_true,
        if_false]
      omega
    · simp only [hkind, ne_eq, not_false_eq_true, decide_true, decide_false, if_true,
        Bool.false_eq_true, if_false]
      omega

end ScanLog

/-! ### One pull -/

namespace Pull

/-- In an identifier a scan looks ahead byte by byte. -/
theorem lookaheads_eq_range' {further : List Char}
    (h : ∀ c ∈ further, isIdentifierSubsequent c = true) (ahead : Nat) :
    lookaheads ahead further = List.range' ahead (further.length + 1) := by
  induction further generalizing ahead with
  | nil => rfl
  | cons c further ih =>
    rw [lookaheads, utf8Size_of_isIdentifierSubsequent (h c List.mem_cons_self),
      ih fun d hd => h d (List.mem_cons_of_mem c hd), List.length_cons, ← List.range'_succ]

/-- The records about a character that is passed over come before those of the later pull. -/
theorem records_passing (filename : Option String) (read : List Char) (c : Char) (later : Pull) :
    (passing (.afterText filename read) c later).events.map ScanEvent.record =
      ScanLog.discard filename read c ++ later.events.map ScanEvent.record := by
  unfold passing recordOf ScanLog.discard
  by_cases hblank : Text.isBlank c = true
  · simp only [hblank, if_true]
    rfl
  · simp only [hblank]
    rfl

/-- Looking ahead is recorded for an identifier, byte by byte. -/
theorem records_lookingAhead {kind : Token.Kind} {c : Char} {further rest : List Char}
    (h : IsLexeme kind (c :: further) rest) (here : Location) :
    (lookingAhead kind here c further).map ScanEvent.record =
      if kind = .identifier then
        ScanLog.lookahead here.offset (Text.byteSize (c :: further))
      else [] := by
  cases h with
  | leftParen => rfl
  | rightParen => rfl
  | identifier hne hrun hstop =>
    have hfurther : ∀ d ∈ further, isIdentifierSubsequent d = true :=
      fun d hd => hrun d (List.mem_cons_of_mem c hd)
    unfold lookingAhead ScanLog.lookahead
    rw [if_pos rfl, byteSize_of_identifier hrun, lookaheads_eq_range' hfurther,
      utf8Size_of_isIdentifierSubsequent (hrun c List.mem_cons_self), List.length_cons,
      List.range'_eq_map_range, List.map_map, List.map_cons, List.map_map]
    simp only [List.cons.injEq]
    refine ⟨rfl, List.map_congr_left fun i _ => ?_⟩
    show ScanLog.step ("Identifier(" ++ toString (here.offset + 1 + i) ++ ")") here.offset = _
    rw [Nat.add_assoc, Nat.add_comm 1]

/-- The records about a token. -/
theorem records_handingOut {kind : Token.Kind} {c : Char} {further rest : List Char}
    (h : IsLexeme kind (c :: further) rest) (here : Location) :
    (handingOut kind here c further rest).events.map ScanEvent.record =
      ScanLog.ofToken ⟨kind, String.ofList (c :: further), here⟩ := by
  have hstop : (here.pastToken (c :: further)).offset =
      Token.stop ⟨kind, String.ofList (c :: further), here⟩ := by
    rw [Token.stop, String.toList_ofList]
    rfl
  simp only [handingOut, List.map_cons, List.cons_append, List.map_append,
    records_lookingAhead h, hstop, ScanLog.ofToken, String.toList_ofList]
  rfl

/-- A pull from a text that stands behind `read` writes the records about the characters that it
discards, and then those about the token that comes next, or that it has come to the end. -/
theorem exists_records_ofText (filename : Option String) (start : Nat) (read text : List Char) :
    let p := ofText start (.afterText filename read) text
    ∃ passed, (∀ c ∈ passed, isTokenCharacter c = false) ∧
      ((p.token = none ∧ text = passed ∧
          p.events.map ScanEvent.record = ScanLog.discards filename read passed ++
            [ScanLog.step "Initial" (Text.byteSize (read ++ passed))]) ∨
        ∃ t, p.token = some t ∧ t.location = .afterText filename (read ++ passed) ∧
          text = passed ++ (t.lexeme.toList ++ p.rest) ∧
          IsLexeme t.kind t.lexeme.toList p.rest ∧
          p.here = .afterText filename (read ++ passed ++ t.lexeme.toList) ∧
          p.events.map ScanEvent.record =
            ScanLog.discards filename read passed ++ ScanLog.ofToken t) := by
  intro p
  induction text generalizing start read with
  | nil =>
    refine ⟨[], by simp, .inl ⟨rfl, rfl, ?_⟩⟩
    rw [List.append_nil]
    rfl
  | cons c text ih =>
    cases hkind : Token.Kind.begunBy? c with
    | none =>
      -- The character is discarded, and the pull goes on behind it.
      have hp : p = passing (.afterText filename read) c
          (ofText (Text.byteSize read) (.afterText filename (read ++ [c])) text) := by
        have hhere := Location.after_afterText filename read [c]
        simp only [Location.after_cons, Location.after_nil] at hhere
        simp only [p, ofText, hkind, hhere]
        rfl
      obtain ⟨passed, hpassed, hrest⟩ := ih (Text.byteSize read) (read ++ [c])
      rw [List.append_assoc, List.singleton_append] at hrest
      refine ⟨c :: passed, ?_, ?_⟩
      · intro d hd
        rcases List.mem_cons.1 hd with rfl | hd
        · exact Token.Kind.begunBy?_eq_none_iff.1 hkind
        · exact hpassed d hd
      · rw [hp, records_passing, ScanLog.discards]
        rcases hrest with ⟨htoken, htext, hrecords⟩ | ⟨t, htoken, hplace, htext, hrest⟩
        · refine .inl ⟨htoken, congrArg (c :: ·) htext, ?_⟩
          rw [hrecords, List.append_assoc]
        · obtain ⟨hlexeme, hhere, hrecords⟩ := hrest
          refine .inr ⟨t, htoken, hplace, congrArg (c :: ·) htext, hlexeme, hhere, ?_⟩
          rw [hrecords, List.append_assoc]
    | some kind =>
      have hp : p = handingOut kind (.afterText filename read) c (kind.span text).1
          (kind.span text).2 := by
        simp only [p, ofText, hkind]
      have hlexeme := isLexeme_span hkind text
      have htext := kind.span_append text
      rw [hp]
      generalize (kind.span text).1 = further at hlexeme htext ⊢
      generalize (kind.span text).2 = rest at hlexeme htext ⊢
      refine ⟨[], by simp, .inr ⟨_, rfl, ?_, ?_, ?_, ?_, records_handingOut hlexeme _⟩⟩
      · rw [List.append_nil]
      · simp only [String.toList_ofList, List.nil_append, List.cons_append]
        rw [← htext]
        rfl
      · rwa [String.toList_ofList]
      · rw [String.toList_ofList, List.append_nil]
        show Location.pastToken _ _ = _
        rw [Location.pastToken_eq_after hlexeme.newline_not_mem, Location.after_afterText]

end Pull

/-! ### A whole run -/

namespace Scanner

/-- The pulls of a run are those of the scanners that it goes through. -/
theorem pulls_eq_map_range (s : Scanner) :
    s.pulls = (List.range (s.drain.1.length + 1)).map fun k => (s.afterPulls k).pull := by
  induction hlength : s.rest.length using Nat.strongRecOn generalizing s with
  | ind n ih =>
    rcases hnext : s.next with ⟨_ | token, after⟩
    · rw [pulls_of_none hnext, drain_of_none hnext]
      rfl
    · have hlt := length_rest_lt_of_next hnext
      have hafter : ∀ k, s.afterPulls (k + 1) = after.afterPulls k := by
        intro k
        rw [Nat.add_comm, afterPulls_add]
        show s.next.2.afterPulls k = _
        rw [hnext]
      rw [pulls_of_some hnext, drain_of_some hnext, ih _ (hlength ▸ hlt) after rfl,
        List.length_cons, List.range_succ_eq_map (n := after.drain.1.length + 1), List.map_cons,
        List.map_map]
      simp only [Function.comp_def, Nat.succ_eq_add_one, hafter]
      rfl

/-- The log of all that is left tells of the rest, for a scanner that stands behind `read`. -/
theorem records_events {filename : Option String} {read : List Char} {s : Scanner}
    (h : s.here = .afterText filename read) :
    ScanLog.Tells filename read s.rest s.drain.1 (s.events.map ScanEvent.record) := by
  -- Each pull that finds a token leaves less than there was before.
  induction hlength : s.rest.length using Nat.strongRecOn generalizing s read with
  | ind n ih =>
    obtain ⟨passed, hpassed, hpull⟩ := Pull.exists_records_ofText filename s.start read s.rest
    rw [← h] at hpull
    rcases hpull with ⟨htoken, htext, hrecords⟩ | ⟨t, htoken, -, htext, hlexeme, hhere, hrecords⟩
    · have hnext : s.next = (none, s.next.2) := Prod.ext htoken rfl
      have hlog : s.events.map ScanEvent.record = ScanLog.discards filename read passed ++
          [ScanLog.step "Initial" (Text.byteSize (read ++ passed))] := by
        rw [events, pulls_of_none hnext, List.flatMap_singleton]
        exact hrecords
      rw [hlog, drain_of_none hnext, htext]
      exact ScanLog.tells_discards hpassed _ _
    · have hnext : s.next = (some t, s.next.2) := Prod.ext htoken rfl
      have hlog : s.events.map ScanEvent.record = (ScanLog.discards filename read passed ++
          ScanLog.ofToken t) ++ s.next.2.events.map ScanEvent.record := by
        rw [events, pulls_of_some hnext, List.flatMap_cons, List.map_append, ← hrecords]
        rfl
      have hrest : s.rest = passed ++ (t.lexeme.toList ++ s.next.2.rest) := htext
      rw [hlog, drain_of_some hnext, hrest]
      have hlater := ih _ (hlength ▸ length_rest_lt_of_next hnext) (s := s.next.2) hhere rfl
      exact hlater.cons_token hpassed hlexeme

/-- The log of a scanner records all that it does. A pull writes the records about each character
that it discards, in order, a character that is not blank with its place, and then the records about
the token that it gives, or one that the source has ended. In the log of all pulls up to the first
one that gives nothing, the debug records are those of the skipped characters, in order, and the
records of emissions are those of the tokens, in order. There are as many records of steps as the
source has characters, two more for each identifier, one more for each parenthesis, and one for the
end. -/
theorem log_of_run (source : String) (filename : Option String) :
    let fresh := ofString source filename
    let tokens := fresh.drain.1
    let log := fresh.events.map ScanEvent.record
    (∀ k, ∃ read passed, Text.byteSize read = (fresh.afterPulls k).position ∧
      (∀ c ∈ passed, isTokenCharacter c = false) ∧
      match (fresh.afterPulls k).next.1 with
      | some t =>
        (∃ after, source.toList = read ++ passed ++ t.lexeme.toList ++ after) ∧
        t.location = .afterText filename (read ++ passed) ∧
        (fresh.afterPulls (k + 1)).position = t.stop ∧
        (fresh.afterPulls k).pull.events.map ScanEvent.record =
          ScanLog.discards filename read passed ++ ScanLog.ofToken t
      | none =>
        source.toList = read ++ passed ∧
        (fresh.afterPulls k).pull.events.map ScanEvent.record =
          ScanLog.discards filename read passed ++
            [ScanLog.step "Initial" source.utf8ByteSize]) ∧
    (∀ k, (fresh.afterPulls k).next.1 = tokens[k]?) ∧
    fresh.pulls = (List.range (tokens.length + 1)).map (fun k => (fresh.afterPulls k).pull) ∧
    log.filter ScanLog.isOmission = fresh.drain.2.skipped.map ScanLog.omission ∧
    log.filter ScanLog.isEmission = tokens.map ScanLog.emission ∧
    log.countP ScanLog.isStep = source.length +
      2 * tokens.countP (fun t => t.kind = .identifier) +
      tokens.countP (fun t => t.kind ≠ .identifier) + 1 := by
  intro fresh tokens log
  obtain ⟨homissions, hemissions, hsteps⟩ :=
    records_events (hasRead_ofString source filename).here_eq
  refine ⟨?_, ?_, pulls_eq_map_range fresh, ?_, hemissions, ?_⟩
  · intro k
    obtain ⟨read, found, hread, -⟩ := exists_hasRead source filename k
    obtain ⟨passed, hpassed, hpull⟩ := Pull.exists_records_ofText filename
      (fresh.afterPulls k).start read (fresh.afterPulls k).rest
    rw [← hread.here_eq] at hpull
    refine ⟨read, passed, hread.position_eq.symm, hpassed, ?_⟩
    rcases hpull with ⟨htoken, htext, hrecords⟩ | ⟨t, htoken, hplace, htext, -, hhere, hrecords⟩
    · have hnext : (fresh.afterPulls k).next.1 = none := htoken
      have hsource : source.toList = read ++ passed := by rw [hread.source_eq, ← htext]
      rw [hnext]
      refine ⟨hsource, ?_⟩
      rw [← String.ofList_toList (s := source), Text.utf8ByteSize_ofList, hsource]
      exact hrecords
    · have hnext : (fresh.afterPulls k).next.1 = some t := htoken
      rw [hnext]
      refine ⟨⟨(fresh.afterPulls (k + 1)).rest, ?_⟩, hplace, ?_, hrecords⟩
      · rw [hread.source_eq, List.append_assoc, List.append_assoc]
        exact congrArg (read ++ ·) htext
      · show (fresh.afterPulls k).next.2.here.offset = _
        have hoffset : (fresh.afterPulls k).next.2.here = _ := hhere
        rw [hoffset, Token.stop, hplace]
        exact Text.byteSize_append _ _
  · intro k
    rw [(drain_next _).1, drain_afterPulls, List.head?_drop]
  · rw [skipped_drain]
    exact homissions
  · rw [← String.length_toList]
    exact hsteps

end Scanner

end SexprLexer
