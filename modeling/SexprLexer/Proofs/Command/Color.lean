import SexprLexer.Proofs.Command.Scan
import SexprLexer.Proofs.Command.Session
import SexprLexer.Proofs.Diagnostic.Color
import SexprLexer.Proofs.Scanner.Places

/-!
# Runs with and without color

Color is chosen for a whole run and is not looked at before everything that the run says is settled.
Main statements: all that a run says is sound where the escape character is in nothing that it reads
(`Settings.isSound_perform`); so a run with color and one without leave the same behind, but for
control sequences that are turned off in the row in which they are turned on
(`color_is_decoration`).
-/

namespace SexprLexer

/-- A row of a token table is sound. -/
theorem TokenTable.isSound_tokenRow {token : Token} (index : Nat)
    (h : ∀ name, token.location.filename = some name → Text.EscapeFree name) :
    ∀ span ∈ tokenRow token index, span.IsSound := by
  have hnumber : Text.EscapeFree (Text.alignRight 4 (toString index)) := by
    intro hmem
    rw [Text.alignRight, String.toList_ofList, List.leftpad, List.mem_append] at hmem
    rcases hmem with hmem | hmem
    · exact absurd (List.eq_of_mem_replicate hmem) (by decide)
    · exact Text.EscapeFree.toString index hmem
  have hkind : Text.EscapeFree (Text.alignLeft 12 token.kind.name) ∧
      '\n' ∉ (Text.alignLeft 12 token.kind.name).toList := by
    cases token.kind <;> decide
  have hbar : Text.EscapeFree " | " := by decide
  rw [tokenRow, List.forall_mem_cons, List.forall_mem_cons, List.forall_mem_singleton]
  exact ⟨Text.isSound_plain (hnumber.append (by decide)),
    Text.isSound_styled _ hkind.1 hkind.2,
    Text.isSound_plain (((hbar.append (.quoteText _)).append (by decide)).append
      (Location.escapeFree_display h))⟩

/-- A token table is sound if the escape character is not in the name of the source. -/
theorem TokenTable.isSound_rows {name : String} {tokens : List Token} (hname : Text.EscapeFree name)
    (h : ∀ t ∈ tokens, t.location.filename = some name) :
    ∀ row ∈ rows name tokens, ∀ span ∈ row, span.IsSound := by
  have htitle : Text.EscapeFree "Tokens for '" := by decide
  have htotal : Text.EscapeFree "Total tokens: " := by decide
  have hruler : ∀ span ∈ ruler, span.IsSound := Text.isSound_singleton (by decide)
  have htokens : ∀ row ∈ tokens.mapIdx fun index token => tokenRow token index,
      ∀ span ∈ row, span.IsSound := by
    intro row hrow
    obtain ⟨index, hindex, rfl⟩ := List.mem_mapIdx.1 hrow
    refine isSound_tokenRow index fun other hother => ?_
    rw [h _ (List.getElem_mem hindex)] at hother
    rwa [← Option.some.inj hother]
  exact List.forall_mem_append.2 ⟨List.forall_mem_cons.2
      ⟨Text.isSound_singleton ((htitle.append hname).append (by decide)),
        List.forall_mem_cons.2 ⟨hruler, htokens⟩⟩,
    List.forall_mem_cons.2 ⟨hruler, List.forall_mem_singleton.2
      (Text.isSound_singleton (htotal.append (.toString _)))⟩⟩

namespace Command

/-! ### Everything that is said -/

/-- Whether all spans of an entry are sound. The log has no spans. -/
def Entry.IsSound : Entry → Prop
  | output text | report text => ∀ span ∈ text, span.IsSound
  | log _ => True

namespace Transcript

variable {t : Transcript}

/-- Color is decoration of the standard output. -/
theorem decorates_stdout (h : ∀ entry ∈ t, entry.IsSound) :
    Text.Decorates (t.stdout true) (t.stdout false) := by
  refine .join fun entry hentry => ?_
  have hsound := h entry hentry
  cases entry with
  | output text => exact Text.decorates_render hsound
  | report text => exact .empty
  | log record => exact .empty

/-- Color is decoration of the standard error stream, and the log is not colored. -/
theorem decorates_stderr (h : ∀ entry ∈ t, entry.IsSound) (filter : Log.Filter) :
    Text.Decorates (t.stderr true filter) (t.stderr false filter) := by
  refine .join fun entry hentry => ?_
  have hsound := h entry hentry
  cases entry with
  | output text => exact .empty
  | report text => exact Text.decorates_render hsound
  | log record =>
    show Text.Decorates (if filter.admits record then record.render else "")
      (if filter.admits record then record.render else "")
    split
    · exact .of_escapeFree (.visible _)
    · exact .empty

end Transcript

/-! ### Listings and sessions -/

/-- The diagnostics of skipped characters show the name of the source and lines of it. -/
theorem escapeFree_of_mem_skippedDiagnostics {name source : String} {skipped : List Skipped}
    (hname : Text.EscapeFree name) (hsource : Text.EscapeFree source)
    (hskipped : ∀ s ∈ skipped, s.location.filename = some name) (policy : SkipPolicy) :
    ∀ d ∈ skippedDiagnostics policy source skipped, d.Made ∧ d.EscapeFree := by
  have hfree : ∀ s ∈ skipped, ∀ d : Diagnostic, d.location = some s.location →
      Text.EscapeFree d.message → (d.withSource source).EscapeFree := by
    intro s hs d hlocation hmessage
    refine ⟨hmessage, fun location heq other hother => ?_, fun text heq => ?_⟩
    · have hsame : s.location = location := Option.some.inj (hlocation.symm.trans heq)
      rw [← hsame, hskipped s hs] at hother
      rwa [← Option.some.inj hother]
    · rwa [← Option.some.inj heq]
  intro d hd
  unfold skippedDiagnostics at hd
  cases policy with
  | ignore => cases hd
  | warn =>
    obtain ⟨s, hs, rfl⟩ := List.mem_map.1 hd
    have hmessage : Text.EscapeFree "skipped character " := by decide
    exact ⟨.withSource (.ofSkipped s) source, hfree s hs _ rfl (hmessage.append (.quoteChar _))⟩
  | reject =>
    obtain ⟨s, hs, rfl⟩ := List.mem_map.1 hd
    have hmessage : Text.EscapeFree "unexpected character " := by decide
    exact ⟨.withSource (.ofError _) source, hfree s hs _ rfl (hmessage.append (.quoteChar _))⟩

theorem isSound_ofDiagnostic {d : Diagnostic} (hmade : d.Made) (h : d.EscapeFree) :
    (Entry.ofDiagnostic d).IsSound :=
  Text.isSound_ofRows (Diagnostic.isSound_rows hmade h)

/-- Everything in a listing is sound. -/
theorem Listing.isSound_ofSource {name source : String} (hname : Text.EscapeFree name)
    (hsource : Text.EscapeFree source) (policy : SkipPolicy) :
    ∀ entry ∈ (ofSource policy name source).transcript, entry.IsSound := by
  have htokens : ∀ t ∈ (Scanner.ofString source (some name)).drain.1,
      t.location.filename = some name := fun t ht =>
    Scanner.filename_of_mem_records (Scanner.token_mem_records ht)
  have hskipped : ∀ s ∈ (Scanner.ofString source (some name)).drain.2.skipped,
      s.location.filename = some name := fun s hs =>
    Scanner.filename_of_mem_records (Scanner.skipped_mem_records hs)
  unfold ofSource
  refine List.forall_mem_append.2 ⟨List.forall_mem_append.2 ⟨?_, ?_⟩, ?_⟩
  · intro entry hentry
    obtain ⟨event, -, rfl⟩ := List.mem_map.1 hentry
    trivial
  · intro entry hentry
    obtain ⟨d, hd, rfl⟩ := List.mem_map.1 hentry
    obtain ⟨hmade, hfree⟩ :=
      escapeFree_of_mem_skippedDiagnostics hname hsource hskipped policy d hd
    exact isSound_ofDiagnostic hmade hfree
  · split
    · rw [List.forall_mem_singleton]
      exact Text.isSound_ofRows (TokenTable.isSound_rows hname htokens)
    · exact List.forall_mem_nil _

namespace Repl

variable (policy : SkipPolicy)

theorem isSound_prompt (number : Nat) : (prompt number).IsSound := by
  have hprompt : Text.EscapeFree "sibil:" := by decide
  exact Text.isSound_singleton ((hprompt.append (.toString number)).append (by decide))

theorem isSound_greeting : greeting.IsSound := by
  have hend : ∀ span ∈ ([] : Text.Row), span.IsSound := List.forall_mem_nil _
  refine Text.isSound_ofRows (List.forall_mem_cons.2 ⟨Text.isSound_singleton (by decide), ?_⟩)
  exact List.forall_mem_cons.2
    ⟨Text.isSound_singleton (by decide), List.forall_mem_singleton.2 hend⟩

theorem isSound_farewell : farewell.IsSound := by
  refine Text.isSound_ofRows (List.forall_mem_cons.2 ⟨List.forall_mem_nil _, ?_⟩)
  exact List.forall_mem_singleton.2 (Text.isSound_singleton (by decide))

/-- What is said to one line is sound if its text is free of the escape character. -/
theorem isSound_answer {line : List UInt8} (number : Nat)
    (h : ∀ text, lineText? line = some text → Text.EscapeFree text) :
    ∀ entry ∈ (answer policy number line).1, entry.IsSound := by
  have hnone : ∀ entry ∈ ([] : Transcript), entry.IsSound := List.forall_mem_nil _
  have hname : Text.EscapeFree (lineName number) := by
    have hrepl : Text.EscapeFree "<repl:" := by decide
    exact (hrepl.append (.toString number)).append (by decide)
  unfold answer
  cases htext : lineText? line with
  | none =>
    rw [List.forall_mem_singleton]
    refine Text.isSound_ofRows ?_
    rw [List.forall_mem_singleton]
    exact Text.isSound_singleton (by decide)
  | some text =>
    simp only
    split
    · exact hnone
    · split
      · exact hnone
      · exact Listing.isSound_ofSource hname (h text htext) policy

/-- From any line on a session is sound, as what it says to each line is. -/
theorem isSound_continuation {lines : List (List UInt8)} (number : Nat)
    (h : ∀ line ∈ lines, ∀ text, lineText? line = some text → Text.EscapeFree text) :
    ∀ entry ∈ continuation policy number lines, entry.IsSound := by
  induction lines generalizing number with
  | nil =>
    rw [continuation, List.forall_mem_cons, List.forall_mem_singleton]
    exact ⟨isSound_prompt number, isSound_farewell⟩
  | cons line lines ih =>
    have hanswer := isSound_answer policy number (h line List.mem_cons_self)
    have hlines := fun line hline => h line (List.mem_cons_of_mem _ hline)
    rw [continuation]
    rcases hsaid : answer policy number line with ⟨said, _ | number'⟩
    · rw [hsaid] at hanswer
      refine List.forall_mem_append.2 ⟨?_, List.forall_mem_singleton.2 isSound_farewell⟩
      exact List.forall_mem_cons.2 ⟨isSound_prompt number, hanswer⟩
    · rw [hsaid] at hanswer
      refine List.forall_mem_append.2 ⟨?_, ih number' hlines⟩
      exact List.forall_mem_cons.2 ⟨isSound_prompt number, hanswer⟩

end Repl

/-! ### Runs -/

/-- Whether the escape character is in nothing that a run in a mode is given: the name and the text
of its source, or the reason why there is no text, or the text of any line of a session. -/
def Surroundings.EscapeFree (around : Surroundings) : Mode → Prop
  | .scan input =>
    Text.EscapeFree input.name ∧ (∀ source, around.Holds input source → Text.EscapeFree source) ∧
      ∀ reason, around.Withholds input reason → Text.EscapeFree reason
  | .repl =>
    ∀ line ∈ Text.byteLines around.stdin.data.toList, ∀ text, Repl.lineText? line = some text →
      Text.EscapeFree text

/-- All that a run says is sound. -/
theorem Settings.isSound_perform {settings : Settings} {around : Surroundings}
    (h : around.EscapeFree settings.mode) :
    ∀ entry ∈ (settings.perform around).transcript, entry.IsSound := by
  unfold perform
  cases hmode : settings.mode with
  | repl =>
    rw [hmode] at h
    exact List.forall_mem_cons.2 ⟨Repl.isSound_greeting, Repl.isSound_continuation _ 1 h⟩
  | scan input =>
    rw [hmode] at h
    obtain ⟨hname, hsource, hreason⟩ := h
    unfold Listing.ofInput
    refine List.forall_mem_cons.2 ⟨trivial, ?_⟩
    rcases around.holds_or_withholds input with ⟨source, hholds⟩ | ⟨reason, hwithholds⟩
    · rw [hholds.source_eq]
      exact Listing.isSound_ofSource hname (hsource source hholds) settings.policy
    · rw [hwithholds.source_eq, List.forall_mem_singleton]
      have hfailed : Text.EscapeFree "failed to read '" := by decide
      have hcolon : Text.EscapeFree "': " := by decide
      have hmessage := ((hfailed.append hname).append hcolon).append (hreason reason hwithholds)
      refine isSound_ofDiagnostic (.ofError _) ⟨hmessage, ?_, ?_⟩
      · intro location hlocation
        cases hlocation
      · intro source hsource
        cases hsource

/-- A run whose log nobody asks the environment about writes what it says, and nothing before. -/
theorem run_of_unset {words : List String} {around : Surroundings} {settings : Settings}
    (haccepted : readArguments words = .ok settings) (hunset : around.lookup "RUST_LOG" = none) :
    run words around =
      { exit := if (settings.perform around).accepted then 0 else 1
        stdout := (settings.perform around).transcript.stdout (settings.colored around)
        stderr := (settings.perform around).transcript.stderr (settings.colored around)
          (.ofThreshold (thresholdOfVerbosity settings.verbosity)) } := by
  have hfilter : settings.filter around =
      (.ofThreshold (thresholdOfVerbosity settings.verbosity), []) := by
    unfold Settings.filter
    rw [hunset]
  unfold run Settings.outcome
  rw [haccepted]
  simp only [hfilter]
  congr 1

/-- Two runs that differ only in that the one is colored and the other is not. -/
theorem decorates_run {words words' : List String} {around : Surroundings} {settings : Settings}
    (hwords : readArguments words = .ok { settings with color := .always })
    (hwords' : readArguments words' = .ok { settings with color := .never })
    (hunset : around.lookup "RUST_LOG" = none) (hfree : around.EscapeFree settings.mode) :
    (run words around).exit = (run words' around).exit ∧
      Text.Decorates (run words around).stdout (run words' around).stdout ∧
      Text.Decorates (run words around).stderr (run words' around).stderr := by
  have hsound := Settings.isSound_perform hfree
  rw [run_of_unset hwords hunset, run_of_unset hwords' hunset]
  exact ⟨rfl, Transcript.decorates_stdout hsound, Transcript.decorates_stderr hsound _⟩

/-- Color is decoration of a diagnostic: of every error and every warning, at any place and with any
source at hand, if the escape character is in nothing that it is told. And it is decoration of a run
with a source or of a session, if the escape character is in nothing that the run is given: two
accepted command lines that differ only in that the one asks for color and the other asks for none
lead to the same exit, and without its control sequences the output of the first is that of the
second, on both streams. Every style that is turned on in a row is turned off in this row. In the
token table the kind of a token takes twelve characters with color and without. -/
theorem color_is_decoration :
    (∀ d : Diagnostic, d.Made → d.EscapeFree →
      Text.unstyled (d.render true) = d.render false ∧ Text.closesRows (d.render true) = true) ∧
    (∀ (words words' : List String) (around : Surroundings) (settings : Settings),
      readArguments words = .ok { settings with color := .always } →
      readArguments words' = .ok { settings with color := .never } →
      around.lookup "RUST_LOG" = none → around.EscapeFree settings.mode →
      let colored := run words around
      let bare := run words' around
      colored.exit = bare.exit ∧
      (Text.unstyled colored.stdout = bare.stdout ∧ Text.closesRows colored.stdout = true) ∧
      Text.unstyled colored.stderr = bare.stderr ∧ Text.closesRows colored.stderr = true) ∧
    ∀ (token : Token) (index : Nat),
      (∀ name, token.location.filename = some name → Text.EscapeFree name) →
      ∃ kind : String, kind.length = 12 ∧
        let row := Text.alignRight 4 (toString index) ++ ": " ++ kind ++ " | " ++
          Text.quoteText token.lexeme ++ " @ " ++ token.location.display
        Text.unstyled (Text.render true (TokenTable.tokenRow token index)) = row ∧
          Text.render false (TokenTable.tokenRow token index) = row := by
  refine ⟨fun d hmade hfree => ?_,
    fun words words' around settings hwords hwords' hunset hfree => ?_,
    fun token index hname => ⟨Text.alignLeft 12 token.kind.name, ?_, ?_⟩⟩
  · have hdecorates := Diagnostic.decorates_render hmade hfree
    exact ⟨hdecorates.unstyled_eq, hdecorates.closesRows_eq⟩
  · obtain ⟨hexit, hstdout, hstderr⟩ := decorates_run hwords hwords' hunset hfree
    exact ⟨hexit, ⟨hstdout.unstyled_eq, hstdout.closesRows_eq⟩, hstderr.unstyled_eq,
      hstderr.closesRows_eq⟩
  · cases token.kind <;> decide
  · have hbare : Text.render false (TokenTable.tokenRow token index) =
        Text.alignRight 4 (toString index) ++ ": " ++ Text.alignLeft 12 token.kind.name ++ " | " ++
          Text.quoteText token.lexeme ++ " @ " ++ token.location.display := by
      simp [TokenTable.tokenRow, Text.Span.render, Text.plain, Text.styled, String.append_assoc]
    have hdecorates := Text.decorates_render (TokenTable.isSound_tokenRow index hname)
    exact ⟨hdecorates.unstyled_eq.trans hbare, hbare⟩

/-- An error with its line of the source, a scan with a warning about a file, and a token of it. -/
theorem color_is_decoration_bracket :
    let d := (Diagnostic.ofError (.unexpectedCharacter '[' ⟨1, 4, 3, some "x"⟩)).withSource "(a [)"
    let around : Surroundings :=
      { stdin := .empty, lookup := fun _ => none, read := fun _ => .ok "(a [)".toUTF8 }
    let settings : Settings := ⟨.scan (.file "x"), .warn, .auto, 0⟩
    let colored := ["--color", "always", "--warn-skipped", "x"]
    let bare := ["--color", "never", "--warn-skipped", "x"]
    let token : Token := ⟨.identifier, "a", ⟨1, 2, 1, some "x"⟩⟩
    (d.Made ∧ d.EscapeFree ∧ Text.unstyled (d.render true) = d.render false) ∧
    (readArguments colored = .ok { settings with color := .always } ∧
      readArguments bare = .ok { settings with color := .never } ∧
      around.lookup "RUST_LOG" = none ∧ around.EscapeFree settings.mode ∧
      Text.unstyled (run colored around).stderr = (run bare around).stderr) ∧
    (∀ name, token.location.filename = some name → Text.EscapeFree name) ∧
    ∃ kind : String, kind.length = 12 ∧ Text.render false (TokenTable.tokenRow token 1) =
      Text.alignRight 4 (toString 1) ++ ": " ++ kind ++ " | " ++ Text.quoteText token.lexeme ++
        " @ " ++ token.location.display := by
  intro d around settings colored bare token
  have hname : ∀ name, token.location.filename = some name → Text.EscapeFree name := by
    intro name heq
    rw [← Option.some.inj heq]
    decide
  have hmade : d.Made := .withSource (.ofError _) _
  have hfree : d.EscapeFree := by
    have hmessage : Text.EscapeFree "unexpected character " := by decide
    refine ⟨hmessage.append (.quoteChar '['), fun location hlocation name heq => ?_,
      fun source hsource => ?_⟩
    · rw [← Option.some.inj hlocation] at heq
      rw [← Option.some.inj heq]
      decide
    · rw [← Option.some.inj hsource]
      decide
  have hcolored : readArguments colored = .ok { settings with color := .always } := by rfl
  have hbare : readArguments bare = .ok { settings with color := .never } := by rfl
  have hholds : around.source (.file "x") = .ok "(a [)" :=
    Surroundings.Holds.source_eq ⟨_, rfl, by decide⟩
  have haround : around.EscapeFree settings.mode := by
    refine ⟨by decide, fun source hsource => ?_, fun reason hreason => ?_⟩
    · have heq := hsource.source_eq.symm.trans hholds
      rw [Except.ok.inj heq]
      decide
    · have heq := hreason.source_eq.symm.trans hholds
      cases heq
  have hall := color_is_decoration
  obtain ⟨kind, hkind, -, hrow⟩ := hall.2.2 token 1 hname
  refine ⟨⟨hmade, hfree, (hall.1 d hmade hfree).1⟩, ⟨hcolored, hbare, rfl, haround, ?_⟩, hname,
    kind, hkind, hrow⟩
  exact (hall.2.1 colored bare around settings hcolored hbare rfl haround).2.2.1

end Command

end SexprLexer
