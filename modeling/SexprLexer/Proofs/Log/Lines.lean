import SexprLexer.Proofs.Scanner.Logging

/-!
# Log lines

A log record is written as one line as long as its message holds no line feed. Messages quote what
they show of a source, and quoted texts print on one line; only the name of the source stands in
them as it is. Main statements: what a log line is (`Record.render_eq`,
`Record.newline_not_mem_dropLast_render`), and that of the messages of a scan only the name of the
source can hold anything but printed characters (`Scanner.printsBut_of_mem_events`).
-/

namespace SexprLexer

namespace Text

/-- Whether `c` is printed: it is no control character of ASCII. -/
def isPrinted (c : Char) : Bool := decide (' ' ≤ c ∧ c ≠ '\x7f')

theorem isShown_of_isPrinted {c : Char} (h : isPrinted c = true) : isShown c = true := by
  unfold isShown
  rw [Bool.or_eq_true]
  exact .inr h

theorem ne_newline_of_isPrinted {c : Char} (h : isPrinted c = true) : c ≠ '\n' := by
  rintro rfl
  revert h
  decide

/-- The code of a character that is not printed. -/
theorem toNat_of_not_isPrinted {c : Char} (h : isPrinted c = false) :
    c.toNat < 32 ∨ c.toNat = 127 := by
  by_cases hblank : ' ' ≤ c
  · refine .inr ?_
    have hdelete : c = '\x7f' := by
      by_contra hne
      unfold isPrinted at h
      exact absurd ⟨hblank, hne⟩ (of_decide_eq_false h)
    rw [hdelete]
    rfl
  · refine .inl (Nat.lt_of_not_le fun hle => hblank ?_)
    exact UInt32.le_iff_toNat_le.2 hle

/-! ### Quoted texts -/

/-- What is not written by its number is printed, but for the characters with short forms. -/
theorem isPrinted_of_not_isUnprintable {c : Char} (h : isUnprintable c = false)
    (hshort : c ∉ ['\x00', '\t', '\r', '\n']) : isPrinted c = true := by
  have htable : ∀ code < 128, code < 32 ∨ code = 127 → code ∉ [0, 9, 13, 10] →
      inRanges code unprintableRanges = true := by decide
  by_contra hprinted
  have hcode := toNat_of_not_isPrinted (Bool.eq_false_iff.2 hprinted)
  have hlisted := htable c.toNat (by omega) hcode ?_
  · rw [isUnprintable, hlisted] at h
    cases h
  · intro hmem
    apply hshort
    simp only [List.mem_cons, List.not_mem_nil, or_false] at hmem ⊢
    rcases hmem with h0 | h9 | h13 | h10
    · exact .inl (Char.toNat_inj.1 h0)
    · exact .inr (.inl (Char.toNat_inj.1 h9))
    · exact .inr (.inr (.inl (Char.toNat_inj.1 h13)))
    · exact .inr (.inr (.inr (Char.toNat_inj.1 h10)))

/-- The digits of a number are those of remainders. -/
theorem exists_digitChar_of_mem_toDigits {n : Nat} {c : Char} (h : c ∈ Nat.toDigits 16 n) :
    ∃ d < 16, c = d.digitChar := by
  -- The last digit is that of the remainder; the others are those of the quotient.
  induction n using Nat.strongRecOn with
  | ind n ih =>
    by_cases hn : n < 16
    · rw [Nat.toDigits_of_lt_base hn, List.mem_singleton] at h
      exact ⟨n, hn, h⟩
    · rw [Nat.toDigits_of_base_le (by decide) (by omega), List.mem_append, List.mem_singleton] at h
      rcases h with h | h
      · exact ih (n / 16) (by omega) h
      · exact ⟨n % 16, Nat.mod_lt n (by decide), h⟩

/-- The digits of a number are printed. -/
theorem isPrinted_of_mem_toDigits {n : Nat} {c : Char} (h : c ∈ Nat.toDigits 16 n) :
    isPrinted c = true := by
  have hdigit : ∀ d < 16, isPrinted d.digitChar = true := by decide
  obtain ⟨d, hd, rfl⟩ := exists_digitChar_of_mem_toDigits h
  exact hdigit d hd

/-- What stands for a character between quotation marks is printed. -/
theorem isPrinted_of_mem_escape {mark c d : Char} (hmark : isPrinted mark = true)
    (h : d ∈ escape mark c) : isPrinted d = true := by
  -- Short forms, backslashes and quotation marks are a backslash and one more character.
  have hpair : ∀ {e : Char}, isPrinted e = true → d ∈ ['\\', e] → isPrinted d = true := by
    intro e he hd
    simp only [List.mem_cons, List.not_mem_nil, or_false] at hd
    rcases hd with rfl | rfl
    · decide
    · exact he
  unfold escape at h
  by_cases hshort : c ∈ ['\x00', '\t', '\r', '\n']
  · simp only [List.mem_cons, List.not_mem_nil, or_false] at hshort
    rcases hshort with rfl | rfl | rfl | rfl
    · exact hpair (by decide) h
    · exact hpair (by decide) h
    · exact hpair (by decide) h
    · exact hpair (by decide) h
  · have hlong := hshort
    simp only [List.mem_cons, List.not_mem_nil, or_false, not_or] at hlong
    obtain ⟨h0, ht, hr, hn⟩ := hlong
    rw [if_neg h0, if_neg ht, if_neg hr, if_neg hn] at h
    split at h
    · next hmarked =>
      refine hpair ?_ h
      rcases hmarked with rfl | rfl
      · decide
      · exact hmark
    · split at h
      · simp only [List.mem_append, List.mem_cons, List.not_mem_nil, or_false] at h
        rcases h with (rfl | rfl | rfl | hdigit) | rfl
        · decide
        · decide
        · decide
        · exact isPrinted_of_mem_toDigits hdigit
        · decide
      · next hunprintable =>
        rw [List.mem_singleton.1 h]
        exact isPrinted_of_not_isUnprintable (Bool.eq_false_iff.2 hunprintable) hshort

/-- Quoted texts are printed. -/
theorem isPrinted_of_mem_quote {mark : Char} (hmark : isPrinted mark = true) {text : List Char}
    {d : Char} (h : d ∈ quote mark text) : isPrinted d = true := by
  simp only [quote, List.mem_append, List.mem_cons, List.not_mem_nil, or_false,
    List.mem_flatMap] at h
  rcases h with (rfl | ⟨c, -, hd⟩) | rfl
  · exact hmark
  · exact isPrinted_of_mem_escape hmark hd
  · exact hmark

/-- A digit is printed. -/
theorem isPrinted_of_isDigit {c : Char} (h : c.isDigit = true) : isPrinted c = true := by
  by_contra hprinted
  have hcode := toNat_of_not_isPrinted (Bool.eq_false_iff.2 hprinted)
  obtain ⟨hfirst, hlast⟩ := Char.isDigit_iff_toNat.1 h
  change 48 ≤ c.toNat at hfirst
  change c.toNat ≤ 57 at hlast
  omega

/-! ### Texts with a name in them -/

/-- Every character of a text is printed or is one of `name`. -/
def PrintsBut (name text : String) : Prop :=
  ∀ c ∈ text.toList, isPrinted c = true ∨ c ∈ name.toList

namespace PrintsBut

variable {name text more : String}

theorem append (h : PrintsBut name text) (h' : PrintsBut name more) :
    PrintsBut name (text ++ more) := by
  intro c hc
  rw [String.toList_append, List.mem_append] at hc
  exact hc.elim (h c) (h' c)

theorem self (name : String) : PrintsBut name name := fun _ => .inr

theorem of_all (h : text.toList.all isPrinted = true) : PrintsBut name text :=
  fun c hc => .inl (List.all_eq_true.1 h c hc)

theorem toString (name : String) (n : Nat) : PrintsBut name (toString n) :=
  fun _ hc => .inl (isPrinted_of_isDigit (isDigit_of_mem_toString hc))

theorem quoteChar (name : String) (c : Char) : PrintsBut name (quoteChar c) := by
  intro d hd
  rw [Text.quoteChar, String.toList_ofList] at hd
  exact .inl (isPrinted_of_mem_quote (by decide) hd)

theorem quoteText (name text : String) : PrintsBut name (quoteText text) := by
  intro d hd
  rw [Text.quoteText, String.toList_ofList] at hd
  exact .inl (isPrinted_of_mem_quote (by decide) hd)

end PrintsBut

/-! ### What shows of a line -/

/-- What a text shows is a part of it. -/
theorem shown_sublist (state : SequenceState) (afterShown : Bool) (text : List Char) :
    (shown state afterShown text).Sublist text := by
  induction text generalizing state afterShown with
  | nil => exact .slnil
  | cons c text ih =>
    unfold shown
    split
    · exact (ih _ _).cons_cons c
    · split
      · exact (ih _ _).cons_cons c
      · exact (ih _ _).cons c

end Text

namespace Log

variable {message : String}

/-- A message without line feeds is written as it is. -/
theorem indented_eq_self (h : '\n' ∉ message.toList) : indented message = message := by
  have hself : ∀ {text : List Char}, '\n' ∉ text →
      (text.flatMap fun c => if c = '\n' then ['\n', ' ', ' ', ' ', ' '] else [c]) = text := by
    intro text h
    induction text with
    | nil => rfl
    | cons c text ih =>
      rw [List.mem_cons, not_or] at h
      rw [List.flatMap_cons, if_neg (Ne.symm h.1), ih h.2]
      rfl
  unfold indented
  rw [hself h, String.ofList_toList]

namespace Record

/-- The log line of a record with its message as it is. -/
def line (r : Record) : String :=
  "[" ++ Text.alignLeft 5 r.level.name ++ " " ++ r.target ++ "] " ++ r.message

variable {r : Record} {name : String}

/-- A log line prints what the target and the message print. -/
theorem printsBut_line (htarget : Text.PrintsBut name r.target)
    (hmessage : Text.PrintsBut name r.message) : Text.PrintsBut name r.line := by
  have hlevel : (Text.alignLeft 5 r.level.name).toList.all Text.isPrinted = true := by
    cases r.level <;> decide
  exact (((((Text.PrintsBut.of_all (by decide)).append (.of_all hlevel)).append
    (.of_all (by decide))).append htarget).append (.of_all (by decide))).append hmessage

/-- A line without line feeds is written with one at its end, as far as it shows. -/
theorem render_eq_visible (h : '\n' ∉ r.line.toList) :
    r.render = Text.visible (r.line ++ "\n") := by
  have hmessage : '\n' ∉ r.message.toList := by
    intro hmem
    apply h
    rw [line, String.toList_append]
    exact List.mem_append_right _ hmem
  rw [render, indented_eq_self hmessage, line]

/-- What is written of a line without line feeds holds one at most at its end. -/
theorem newline_not_mem_dropLast_render (h : '\n' ∉ r.line.toList) :
    '\n' ∉ r.render.toList.dropLast := by
  rw [render_eq_visible h, Text.visible, String.toList_ofList, String.toList_append]
  obtain ⟨before, last, hshown, hbefore, hlast⟩ :=
    List.sublist_append_iff.1 (Text.shown_sublist .outside false (r.line.toList ++ "\n".toList))
  rw [hshown]
  have hnot : '\n' ∉ before := fun hmem => h (hbefore.subset hmem)
  rcases List.sublist_singleton.1 (show last.Sublist ['\n'] from hlast) with rfl | rfl
  · rw [List.append_nil]
    exact fun hmem => hnot (List.mem_of_mem_dropLast hmem)
  · rw [List.dropLast_concat]
    exact hnot

/-- A line of characters that show is written as it is. -/
theorem render_eq_line (h : ∀ c ∈ r.line.toList, Text.isShown c = true ∧ c ≠ '\n') :
    r.render = r.line ++ "\n" := by
  rw [render_eq_visible fun hmem => (h _ hmem).2 rfl]
  apply Text.visible_eq_self
  intro c hc
  rw [String.toList_append, List.mem_append] at hc
  rcases hc with hc | hc
  · exact (h c hc).1
  · rw [show c = '\n' from List.mem_singleton.1 hc]
    decide

end Record

end Log

/-! ### Scans -/

/-- What the log says about an event prints, but for the name of the source. -/
theorem ScanEvent.printsBut_message {name : String} (event : ScanEvent)
    (h : ∀ x, event = .skipping x → x.location.filename = some name) :
    Text.PrintsBut name event.message := by
  have hkind : ∀ kind : Token.Kind, Text.PrintsBut name kind.name := by
    intro kind
    cases kind <;> exact .of_all (by decide)
  cases event with
  | entered state cursor =>
    refine (Text.PrintsBut.append ?_ (.of_all (by decide))).append (.toString name cursor)
    cases state with
    | initial => exact .of_all (by decide)
    | identifier ahead =>
      exact ((Text.PrintsBut.of_all (by decide)).append (.toString name ahead)).append
        (.of_all (by decide))
    | emit kind stop =>
      exact ((((Text.PrintsBut.of_all (by decide)).append (hkind kind)).append
        (.of_all (by decide))).append (.toString name stop)).append (.of_all (by decide))
  | identifierBegins offset =>
    exact (Text.PrintsBut.of_all (by decide)).append (.toString name offset)
  | skipping x =>
    refine (((Text.PrintsBut.of_all (by decide)).append (.quoteChar name _)).append
      (.of_all (by decide))).append ?_
    unfold Location.display
    rw [h x rfl]
    exact ((Text.PrintsBut.self name).append (.of_all (by decide))).append
      (((Text.PrintsBut.toString name _).append (.of_all (by decide))).append (.toString name _))
  | emitted token cursor =>
    exact (((((Text.PrintsBut.of_all (by decide)).append (hkind token.kind)).append
      (.of_all (by decide))).append (.quoteText name _)).append
      (.of_all (by decide))).append (.toString name cursor)

/-- The characters that a pull leaves out stand in the source that it reads. -/
theorem Pull.filename_of_skipping {start : Nat} {here : Location} {text : List Char} {x : Skipped}
    (h : .skipping x ∈ (ofText start here text).events) :
    x.location.filename = here.filename := by
  induction text generalizing start here with
  | nil => simp [ofText, atEnd] at h
  | cons c text ih =>
    rw [ofText] at h
    split at h
    · simp only [passing, recordOf, List.mem_append, List.mem_cons, List.mem_map] at h
      rcases h with (h | ⟨y, hy, h⟩) | h
      · cases h
      · cases h
        split at hy
        · cases hy
        · rw [List.mem_singleton.1 hy]
      · rw [ih h, Location.advance_filename]
    · next kind _ =>
      cases kind <;> simp [handingOut, lookingAhead] at h

/-- The characters that a scanner leaves out stand in its source. -/
theorem Scanner.filename_of_skipping {s : Scanner} {x : Skipped}
    (h : .skipping x ∈ s.events) : x.location.filename = s.here.filename := by
  -- Each pull that finds a token leaves less than there was before.
  induction hlength : s.rest.length using Nat.strongRecOn generalizing s with
  | ind n ih =>
    unfold events at h
    rcases hs : s.next with ⟨_ | token, after⟩
    · rw [pulls_of_none hs, List.flatMap_cons, List.flatMap_nil, List.append_nil] at h
      exact Pull.filename_of_skipping h
    · rw [pulls_of_some hs, List.flatMap_cons, List.mem_append] at h
      rcases h with h | h
      · exact Pull.filename_of_skipping h
      · have hafter : after.here.filename = s.here.filename := by
          obtain ⟨passed, -, hhere⟩ := Pull.exists_eq_append_rest s.start s.here s.rest
          obtain ⟨-, rfl⟩ := Prod.mk.inj hs
          show (Pull.ofText s.start s.here s.rest).here.filename = _
          rw [hhere, Location.after_filename]
        rw [ih _ (hlength ▸ length_rest_lt_of_next hs) h rfl, hafter]

/-- The messages of a scan print, but for the name of its source. -/
theorem Scanner.printsBut_of_mem_events {source name : String} {event : ScanEvent}
    (h : event ∈ (ofString source (some name)).events) : Text.PrintsBut name event.message :=
  event.printsBut_message fun _ hx => filename_of_skipping (hx ▸ h)

end SexprLexer
