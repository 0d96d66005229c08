import SexprLexer.Command.Run
import SexprLexer.Proofs.Command.Sources
import SexprLexer.Proofs.Diagnostic.Excerpt
import SexprLexer.Proofs.Strict
import SexprLexer.Proofs.TokenTable

/-!
# Scanning a source from the command line

A command line that asks for no session scans one source. Its log is not looked at here: the filter
lets nothing through that is less important than a warning. Main statements: what a listing writes
to both streams, told from its source (`Listing.stdout_eq_outputText`,
`Listing.stderr_eq_reportText`); what a run leaves behind if its source cannot be read
(`run_of_withholds`) and if it can (`run_of_holds`); a run either fails as a whole, with diagnostics
only, or shows all tokens, and with `--strict` it fails exactly where strict tokenizing does
(`scan_all_or_nothing`).
-/

namespace SexprLexer

namespace Log

/-- The parts of the program that write to the log. -/
def targets : List String := ["sibil", ScanEvent.target]

/-- The filter lets through nothing of this program that is less important than a warning. -/
def Filter.Quiet (f : Filter) : Prop :=
  ∀ record, record.target ∈ targets → f.admits record = true →
    record.level.rank ≤ Level.warn.rank

theorem Filter.quiet_ofThreshold : (ofThreshold (.upTo .warn)).Quiet := by
  intro record _ h
  rw [admits_ofThreshold] at h
  exact of_decide_eq_true h

end Log

/-- The error and the warning about a character of the noise of a source show this character. -/
theorem Diagnostic.exists_shows_of_mem_noise {filename : Option String} {source : String}
    {s : Skipped} (h : s ∈ noise filename [] source.toList) :
    ∃ before more, ∀ d : Diagnostic, d.location = some s.location →
      d.Shows source s before more := by
  obtain ⟨read, after, hsource, hplace, hnoise⟩ := exists_of_mem_noise h
  have hne : ∀ d, isNoise d = false → s.character ≠ d := by
    rintro d hd rfl
    rw [hnoise] at hd
    cases hd
  obtain ⟨more, hshows⟩ :=
    exists_shows hsource hplace (hne '\n' (by decide)) (hne '\r' (by decide))
  exact ⟨_, more, hshows⟩

/-- The error about a source that cannot be read is one row, whatever the name and the reason. -/
theorem Diagnostic.render_unreadable (color : Bool) (name reason : String) :
    (ofError (.unreadable name reason)).render color =
      (if color then "\x1b[1;31mI/O Error\x1b[0m" else "I/O Error") ++
        ": failed to read '" ++ name ++ "': " ++ reason ++ "\n" := by
  have hrows : (ofError (.unreadable name reason)).rows =
      [[Text.styled .boldRed "I/O Error",
        Text.plain (": " ++ ("failed to read '" ++ name ++ "': " ++ reason))]] := rfl
  have hheading : (Text.styled .boldRed "I/O Error").render color =
      if color then "\x1b[1;31mI/O Error\x1b[0m" else "I/O Error" := by
    cases color <;> decide
  have hmessage : ∀ text, (Text.plain text).render color = text := by
    intro text
    cases color <;> rfl
  have hcolon : ": failed to read '" = ": " ++ "failed to read '" := by decide
  rw [render, hrows, Text.render_ofRows, hcolon]
  simp only [List.map_cons, List.map_nil, String.join_cons, String.join_nil, String.append_empty,
    Text.render_cons, Text.render_nil, hheading, hmessage, String.append_assoc]

namespace Command

open Text (plain styled)

/-! ### Transcripts -/

namespace Transcript

variable (color : Bool) {filter : Log.Filter}

theorem stdout_cons (entry : Entry) (t : Transcript) :
    stdout (entry :: t) color = entry.stdout color ++ t.stdout color := by
  rw [stdout, List.map_cons, String.join_cons, stdout]

theorem stderr_cons (filter : Log.Filter) (entry : Entry) (t : Transcript) :
    stderr (entry :: t) color filter = entry.stderr color filter ++ t.stderr color filter := by
  rw [stderr, List.map_cons, String.join_cons, stderr]

/-- Transcripts one after the other are seen one after the other. -/
theorem stdout_flatten (ts : List Transcript) :
    stdout ts.flatten color = String.join (ts.map (·.stdout color)) := by
  induction ts with
  | nil => rfl
  | cons t ts ih => rw [List.flatten_cons, stdout_append, ih, List.map_cons, String.join_cons]

theorem stderr_flatten (filter : Log.Filter) (ts : List Transcript) :
    stderr ts.flatten color filter = String.join (ts.map (·.stderr color filter)) := by
  induction ts with
  | nil => rfl
  | cons t ts ih => rw [List.flatten_cons, stderr_append, ih, List.map_cons, String.join_cons]

/-- Reports do not go to the standard output. -/
theorem stdout_reports (ds : List Diagnostic) :
    stdout (ds.map Entry.ofDiagnostic) color = "" := by
  induction ds with
  | nil => rfl
  | cons d ds ih =>
    rw [List.map_cons, stdout_cons, ih]
    rfl

/-- Reports go to the standard error stream one after the other. -/
theorem stderr_reports (filter : Log.Filter) (ds : List Diagnostic) :
    stderr (ds.map Entry.ofDiagnostic) color filter = String.join (ds.map (·.render color)) := by
  rw [stderr, List.map_map]
  rfl

/-- The log does not go to the standard output. -/
theorem stdout_records (events : List ScanEvent) :
    stdout (events.map fun event => .log event.record) color = "" := by
  induction events with
  | nil => rfl
  | cons event events ih =>
    rw [List.map_cons, stdout_cons, ih]
    rfl

/-- Nothing is seen of a record that is less important than a warning. -/
theorem stderr_log_of_quiet (hquiet : filter.Quiet) {record : Log.Record}
    (htarget : record.target ∈ Log.targets)
    (hrecord : Log.Level.warn.rank < record.level.rank) :
    (Entry.log record).stderr color filter = "" := by
  refine if_neg fun h => ?_
  have := hquiet record htarget h
  omega

/-- Nothing is seen of what happens during a scan. -/
theorem stderr_records (hquiet : filter.Quiet) (events : List ScanEvent) :
    stderr (events.map fun event => .log event.record) color filter = "" := by
  induction events with
  | nil => rfl
  | cons event events ih =>
    have htarget : event.record.target ∈ Log.targets := by
      simp [ScanEvent.record, Log.targets]
    have hrecord : Log.Level.warn.rank < event.record.level.rank := by
      cases event <;> simp [ScanEvent.record, ScanEvent.level, Log.Level.rank]
    rw [List.map_cons, stderr_cons, ih, stderr_log_of_quiet color hquiet htarget hrecord,
      String.append_empty]

end Transcript

/-! ### Listings -/

/-- A policy refuses what it rejects. -/
theorem SkipPolicy.accepts_eq_false_iff {policy : SkipPolicy} {records : List Skipped} :
    policy.accepts records = false ↔ policy = .reject ∧ records ≠ [] := by
  simp [accepts]

namespace Listing

variable (policy : SkipPolicy) (name source : String) (color : Bool)

/-- A policy is applied to the noise of a source. -/
theorem accepted_ofSource :
    (ofSource policy name source).accepted =
      policy.accepts (noise (some name) [] source.toList) := by
  rw [← Scanner.skipped_drain]
  rfl

/-- The standard output of a listing is the table of all tokens, or nothing. -/
theorem stdout_ofSource :
    (ofSource policy name source).transcript.stdout color =
      if policy.accepts (noise (some name) [] source.toList) then
        Text.render color (Text.ofRows (TokenTable.rows name
          (Scanner.ofString source (some name)).drain.1))
      else "" := by
  rw [← Scanner.skipped_drain]
  unfold ofSource
  simp only [Transcript.stdout_append, Transcript.stdout_records, Transcript.stdout_reports,
    String.empty_append]
  split
  · rw [Transcript.stdout_cons]
    exact String.append_empty
  · rfl

/-- The standard error stream of a listing is its log and then what the policy says about the
noise. -/
theorem stderr_ofSource (filter : Log.Filter) :
    (ofSource policy name source).transcript.stderr color filter =
      Transcript.stderr ((Scanner.ofString source (some name)).events.map
        fun event => .log event.record) color filter ++
      String.join ((skippedDiagnostics policy source
        (noise (some name) [] source.toList)).map (·.render color)) := by
  rw [← Scanner.skipped_drain]
  unfold ofSource
  simp only [Transcript.stderr_append, Transcript.stderr_reports, String.append_assoc]
  split
  · rw [Transcript.stderr_cons]
    exact congrArg _ String.append_empty
  · exact congrArg _ String.append_empty

/-- What a listing writes to the standard output: the table of all tokens, or nothing if the policy
rejects a character of the noise. -/
def outputText (policy : SkipPolicy) (color : Bool) (name source : String) : String :=
  if policy = .reject ∧ noise (some name) [] source.toList ≠ [] then ""
  else TokenTable.tableText color name (Scanner.ofString source (some name)).drain.1

/-- What a listing writes to the standard error stream: the records of the scan that the filter
admits, and then what the policy has to say about each character of the noise, with its line of the
source. -/
def reportText (policy : SkipPolicy) (color : Bool) (filter : Log.Filter) (name source : String) :
    String :=
  let records := noise (some name) [] source.toList
  let shown (d : Diagnostic) : String := (d.withSource source).render color
  String.join ((Scanner.ofString source (some name)).events.map fun event =>
    if filter.admits event.record then event.record.render else "") ++
  match policy with
  | .ignore => ""
  | .warn => String.join (records.map fun s => shown (.ofSkipped s))
  | .reject => String.join (records.map fun s => shown (.ofError s.toError))

theorem stdout_eq_outputText :
    (ofSource policy name source).transcript.stdout color =
      outputText policy color name source := by
  rw [stdout_ofSource, TokenTable.render_rows_drain]
  unfold outputText
  by_cases hrejects : policy = .reject ∧ noise (some name) [] source.toList ≠ []
  · rw [if_pos hrejects, if_neg]
    rw [SkipPolicy.accepts_eq_false_iff.2 hrejects]
    nofun
  · rw [if_neg hrejects, if_pos]
    rwa [← Bool.not_eq_false, SkipPolicy.accepts_eq_false_iff]

theorem stderr_eq_reportText (filter : Log.Filter) :
    (ofSource policy name source).transcript.stderr color filter =
      reportText policy color filter name source := by
  have hdiagnostics : ∀ records, String.join ((skippedDiagnostics policy source records).map
      (·.render color)) = match policy with
        | .ignore => ""
        | .warn => String.join (records.map fun s =>
            ((Diagnostic.ofSkipped s).withSource source).render color)
        | .reject => String.join (records.map fun s =>
            ((Diagnostic.ofError s.toError).withSource source).render color) := by
    intro records
    cases policy with
    | ignore => rfl
    | warn => rw [skippedDiagnostics, List.map_map]; rfl
    | reject => rw [skippedDiagnostics, List.map_map]; rfl
  rw [stderr_ofSource, Transcript.stderr, List.map_map, hdiagnostics]
  rfl

end Listing

/-! ### Runs -/

/-- The text of an input can be read, and is `source`: the bytes of the standard input or of the
file at the path are this text. -/
def Surroundings.Holds (around : Surroundings) (input : Input) (source : String) : Prop :=
  match input with
  | .standard => String.fromUTF8? around.stdin = some source
  | .file path => ∃ bytes, around.read path = .ok bytes ∧ String.fromUTF8? bytes = some source

/-- The text of an input cannot be read: the system does not give the bytes of the file at the path,
or the bytes of the file or of the standard input are not text. -/
def Surroundings.Withholds (around : Surroundings) (input : Input) (reason : String) : Prop :=
  match input with
  | .standard =>
    String.fromUTF8? around.stdin = none ∧ reason = "stream did not contain valid UTF-8"
  | .file path =>
    (∃ fault, around.read path = .error fault ∧ reason = fault.message) ∨
      ∃ bytes, around.read path = .ok bytes ∧ String.fromUTF8? bytes = none ∧
        reason = "stream did not contain valid UTF-8"

/-- An input can be read or not. -/
theorem Surroundings.holds_or_withholds (around : Surroundings) (input : Input) :
    (∃ source, around.Holds input source) ∨ ∃ reason, around.Withholds input reason := by
  cases input with
  | standard =>
    cases htext : String.fromUTF8? around.stdin with
    | none => exact .inr ⟨_, htext, rfl⟩
    | some source => exact .inl ⟨source, htext⟩
  | file path =>
    cases hbytes : around.read path with
    | error fault => exact .inr ⟨_, .inl ⟨fault, hbytes, rfl⟩⟩
    | ok bytes =>
      cases htext : String.fromUTF8? bytes with
      | none => exact .inr ⟨_, .inr ⟨bytes, hbytes, htext, rfl⟩⟩
      | some source => exact .inl ⟨source, bytes, hbytes, htext⟩

/-- Where the text of an input cannot be read, there is an error that says so. -/
theorem Surroundings.Withholds.source_eq {around : Surroundings} {input : Input} {reason : String}
    (h : around.Withholds input reason) :
    around.source input = .error (.unreadable input.name reason) := by
  unfold Surroundings.source Surroundings.bytes
  cases input with
  | standard =>
    obtain ⟨htext, rfl⟩ := h
    simp only [htext]
    rfl
  | file path =>
    rcases h with ⟨fault, hbytes, rfl⟩ | ⟨bytes, hbytes, htext, rfl⟩
    · simp only [hbytes]
    · simp only [hbytes, htext]
      rfl

/-- Where it can be read, it is the source. -/
theorem Surroundings.Holds.source_eq {around : Surroundings} {input : Input} {source : String}
    (h : around.Holds input source) : around.source input = .ok source := by
  unfold Surroundings.source Surroundings.bytes
  cases input with
  | standard =>
    have htext : String.fromUTF8? around.stdin = some source := h
    simp only [htext]
  | file path =>
    obtain ⟨bytes, hbytes, htext⟩ := h
    simp only [hbytes, htext]

section Outcome

variable {words : List String} {around : Surroundings} {settings : Settings} {input : Input}

/-- The beginning of a read is not seen. -/
theorem outcome_of_scan (haccepted : readArguments words = .ok settings)
    (hmode : settings.mode = .scan input) (hquiet : (settings.filter around).1.Quiet)
    (listing : Listing) (hlisting : Listing.ofInput settings.policy input around =
      { listing with transcript := .log (readingRecord input) :: listing.transcript }) :
    run words around =
      { exit := if listing.accepted then 0 else 1
        stdout := listing.transcript.stdout (settings.colored around)
        stderr := faultReports (settings.filter around).2 ++
          listing.transcript.stderr (settings.colored around) (settings.filter around).1 } := by
  have htarget : (readingRecord input).target ∈ Log.targets := by
    simp [readingRecord, Log.targets]
  have hlevel : Log.Level.warn.rank < (readingRecord input).level.rank := by
    show 2 < 3
    decide
  unfold run Settings.outcome Settings.perform
  rw [haccepted]
  simp only [hmode, hlisting, Transcript.stdout_cons, Transcript.stderr_cons,
    Transcript.stderr_log_of_quiet _ hquiet htarget hlevel, String.empty_append]
  rfl

/-- Where the text cannot be read, the run ends with this error only. -/
theorem run_of_withholds (haccepted : readArguments words = .ok settings)
    (hmode : settings.mode = .scan input) (hquiet : (settings.filter around).1.Quiet)
    {reason : String} (hreason : around.Withholds input reason) :
    run words around =
      { exit := 1
        stdout := ""
        stderr := faultReports (settings.filter around).2 ++
          (if settings.colored around then "\x1b[1;31mI/O Error\x1b[0m" else "I/O Error") ++
          ": failed to read '" ++ input.name ++ "': " ++ reason ++ "\n" } := by
  have hsource := hreason.source_eq
  have hlisting := outcome_of_scan haccepted hmode hquiet
    ⟨false, [.ofDiagnostic (.ofError (.unreadable input.name reason))]⟩
    (by unfold Listing.ofInput; rw [hsource])
  have hstderr := Transcript.stderr_reports (settings.colored around) (settings.filter around).1
    [.ofError (.unreadable input.name reason)]
  rw [hlisting]
  simp only [List.map_cons, List.map_nil, String.join_cons, String.join_nil, String.append_empty,
    Diagnostic.render_unreadable] at hstderr
  simp only [hstderr, String.append_assoc]
  rfl

/-- Where the text can be read, the policy is applied to its noise. -/
theorem run_of_holds (haccepted : readArguments words = .ok settings)
    (hmode : settings.mode = .scan input) (hquiet : (settings.filter around).1.Quiet)
    {source : String} (hsource : around.Holds input source) :
    let records := noise (some input.name) [] source.toList
    let tokens := (Scanner.ofString source (some input.name)).drain.1
    let color := settings.colored around
    run words around =
      { exit := if settings.policy.accepts records then 0 else 1
        stdout :=
          if settings.policy.accepts records then
            Text.render color (Text.ofRows (TokenTable.rows input.name tokens))
          else ""
        stderr := faultReports (settings.filter around).2 ++
          String.join
            ((skippedDiagnostics settings.policy source records).map (·.render color)) } := by
  intro records tokens color
  have htext := hsource.source_eq
  have hlisting := outcome_of_scan haccepted hmode hquiet
    (.ofSource settings.policy input.name source)
    (by unfold Listing.ofInput; rw [htext])
  rw [hlisting, Listing.accepted_ofSource, Listing.stdout_ofSource, Listing.stderr_ofSource,
    Transcript.stderr_records _ hquiet, String.empty_append]

end Outcome

/-- An accepted command line without `--repl` asks to scan one input: the standard input, which is
called `<stdin>`, if it names no source or the lone hyphen, and else the file that it names. If this
cannot be read, the run fails with one error, which has no place; only complaints about the filter
of the log come before it, and there are none without a filter. If it can be read, the run fails
exactly if there is `--strict` and strict tokenizing fails. Then there is no table, but an error with
its line of the source for each character of the noise, one after the other, and the first of them
is the error of strict tokenizing. Otherwise the run succeeds with the table of all tokens. -/
theorem scan_all_or_nothing {words : List String} {around : Surroundings} {settings : Settings}
    (haccepted : readArguments words = .ok settings) (hrepl : "--repl" ∉ options words)
    (hquiet : (settings.filter around).1.Quiet) :
    let (input, name) := inputOf words
    let color := settings.colored around
    let faults := faultReports (settings.filter around).2
    let outcome := run words around
    (sources words).length ≤ 1 ∧ settings.mode = .scan input ∧
    ((∃ source, around.Holds input source) ∨ ∃ reason, around.Withholds input reason) ∧
    (around.lookup "RUST_LOG" = none → faults = "") ∧
    (∀ reason, around.Withholds input reason →
      outcome.exit = 1 ∧ outcome.stdout = "" ∧
      outcome.stderr = faults ++
        (if color then "\x1b[1;31mI/O Error\x1b[0m" else "I/O Error") ++
        ": failed to read '" ++ name ++ "': " ++ reason ++ "\n") ∧
    ∀ source, around.Holds input source →
      let rejected := "--strict" ∈ options words ∧
        ∃ e, tokenizeStrict source (some name) = .error e
      (outcome.exit = 1 ↔ rejected) ∧
      (rejected → outcome.stdout = "" ∧
        ∃ first later, noise (some name) [] source.toList = first :: later ∧
          tokenizeStrict source (some name) = .error first.toError ∧
          (∀ s ∈ first :: later, ∃ before more,
            (Diagnostic.ofError s.toError).Shows source s before more) ∧
          outcome.stderr = faults ++ String.join ((first :: later).map fun s =>
            ((Diagnostic.ofError s.toError).withSource source).render color)) ∧
      (¬ rejected → outcome.exit = 0 ∧
        outcome.stdout = TokenTable.tableText color name
          (Scanner.ofString source (some name)).drain.1) := by
  obtain ⟨input, hmode⟩ : ∃ input, settings.mode = .scan input := by
    cases hmode : settings.mode with
    | scan input => exact ⟨input, rfl⟩
    | repl => exact absurd ((mode_eq_repl_iff haccepted).1 hmode) hrepl
  obtain ⟨hsources, hinput⟩ := mode_eq_scan_ok haccepted hmode
  rw [← hinput]
  refine ⟨hsources, hmode, around.holds_or_withholds input, ?_, ?_, ?_⟩
  · intro hunset
    unfold Settings.filter
    rw [hunset]
    rfl
  · intro reason hreason
    rw [run_of_withholds haccepted hmode hquiet hreason]
    exact ⟨rfl, rfl, rfl⟩
  · intro source hsource rejected
    -- The policy looks at the skipped characters; strict tokenizing is told by the same ones.
    have hrejected : rejected ↔
        settings.policy.accepts (noise (some input.name) [] source.toList) = false := by
      rw [SkipPolicy.accepts_eq_false_iff, policy_eq_reject_iff haccepted,
        ← exists_tokenizeStrict_eq_error_iff]
    have hrun := run_of_holds haccepted hmode hquiet hsource
    rw [hrun, hrejected]
    refine ⟨?_, fun hrejects => ?_, fun haccepts => ?_⟩
    · cases settings.policy.accepts _ <;> simp
    · obtain ⟨hpolicy, hnoise⟩ := SkipPolicy.accepts_eq_false_iff.1 hrejects
      obtain ⟨first, later, hrecords⟩ := List.exists_cons_of_ne_nil hnoise
      refine ⟨?_, first, later, hrecords, tokenizeStrict_of_noise_eq_cons hrecords, ?_, ?_⟩
      · rw [hrejects]
        rfl
      · intro s hs
        rw [← hrecords] at hs
        obtain ⟨before, more, hshows⟩ := Diagnostic.exists_shows_of_mem_noise hs
        exact ⟨before, more, hshows _ rfl⟩
      · rw [hpolicy, hrecords, skippedDiagnostics, List.map_map]
        rfl
    · rw [Bool.not_eq_false] at haccepts
      rw [haccepts, ← TokenTable.render_rows_drain]
      exact ⟨rfl, rfl⟩

/-- A file with a character that belongs to no token, under two policies, a file that is not there,
and a standard input that is not text. -/
theorem scan_all_or_nothing_strict :
    let around : Surroundings :=
      { stdin := [0xff].toByteArray
        lookup := fun _ => none
        read := fun path => if path = "x" then .ok "(a [)".toUTF8 else .error .notFound }
    let settings (input : Input) (policy : SkipPolicy) : Settings := ⟨.scan input, policy, .auto, 0⟩
    (∀ input policy, ((settings input policy).filter around).1.Quiet) ∧
    around.Holds (.file "x") "(a [)" ∧
    around.Withholds (.file "y") "No such file or directory (os error 2)" ∧
    around.Withholds .standard "stream did not contain valid UTF-8" ∧
    (readArguments ["--strict", "x"] = .ok (settings (.file "x") .reject) ∧
      "--repl" ∉ options ["--strict", "x"] ∧
      let outcome := run ["--strict", "x"] around
      outcome.exit = 1 ∧ outcome.stdout = "" ∧ outcome.stderr =
        "Lexer Error: unexpected character '['\n  --> x:1:4\n  1 (a [)\n       ^\n") ∧
    (readArguments ["x"] = .ok (settings (.file "x") .ignore) ∧ "--repl" ∉ options ["x"] ∧
      let outcome := run ["x"] around
      outcome.exit = 0 ∧ outcome.stdout = "Tokens for 'x':\n" ++ TokenTable.rulerText ++
        "\n   0: LeftParen    | \"(\" @ x:1:1\n   1: Identifier   | \"a\" @ x:1:2\n" ++
        "   2: RightParen   | \")\" @ x:1:5\n" ++ TokenTable.rulerText ++
        "\nTotal tokens: 3\n") ∧
    (readArguments ["y"] = .ok (settings (.file "y") .ignore) ∧ "--repl" ∉ options ["y"] ∧
      let outcome := run ["y"] around
      outcome.exit = 1 ∧ outcome.stdout = "" ∧ outcome.stderr =
        "I/O Error: failed to read 'y': No such file or directory (os error 2)\n") ∧
    (readArguments ["--strict"] = .ok (settings .standard .reject) ∧
      "--repl" ∉ options ["--strict"] ∧
      let outcome := run ["--strict"] around
      outcome.exit = 1 ∧ outcome.stdout = "" ∧ outcome.stderr =
        "I/O Error: failed to read '<stdin>': stream did not contain valid UTF-8\n") := by
  intro around settings
  have hquiet : ∀ input policy, ((settings input policy).filter around).1.Quiet :=
    fun _ _ => Log.Filter.quiet_ofThreshold
  have hsource : around.Holds (.file "x") "(a [)" := ⟨_, rfl, by decide⟩
  have hnone : around.Withholds (.file "y") "No such file or directory (os error 2)" :=
    .inl ⟨.notFound, rfl, rfl⟩
  have hbytes : around.Withholds .standard "stream did not contain valid UTF-8" :=
    ⟨by decide, rfl⟩
  refine ⟨hquiet, hsource, hnone, hbytes, ?_, ?_, ?_, ?_⟩
  · have haccepted : readArguments ["--strict", "x"] = .ok (settings (.file "x") .reject) := by rfl
    have hscans : "--repl" ∉ options ["--strict", "x"] := by decide
    obtain ⟨-, -, -, -, -, hread⟩ := scan_all_or_nothing haccepted hscans (hquiet _ _)
    obtain ⟨hexit, hrejected, -⟩ := hread _ hsource
    have hrejects : "--strict" ∈ options ["--strict", "x"] ∧
        ∃ e, tokenizeStrict "(a [)" (some "x") = .error e :=
      ⟨by decide, exists_tokenizeStrict_eq_error_iff.2 (by decide)⟩
    obtain ⟨hstdout, first, later, hnoise, -, -, hstderr⟩ := hrejected hrejects
    rw [← hnoise] at hstderr
    exact ⟨haccepted, hscans, hexit.2 hrejects, hstdout, hstderr.trans (by decide +kernel)⟩
  · have haccepted : readArguments ["x"] = .ok (settings (.file "x") .ignore) := by rfl
    have hscans : "--repl" ∉ options ["x"] := by decide
    obtain ⟨-, -, -, -, -, hread⟩ := scan_all_or_nothing haccepted hscans (hquiet _ _)
    obtain ⟨-, -, hshown⟩ := hread _ hsource
    have hlax : "--strict" ∉ options ["x"] := by decide
    obtain ⟨hexit, hstdout⟩ := hshown fun hrejected => hlax hrejected.1
    exact ⟨haccepted, hscans, hexit, hstdout.trans (by decide +kernel)⟩
  · have haccepted : readArguments ["y"] = .ok (settings (.file "y") .ignore) := by rfl
    have hscans : "--repl" ∉ options ["y"] := by decide
    obtain ⟨-, -, -, -, hfails, -⟩ := scan_all_or_nothing haccepted hscans (hquiet _ _)
    obtain ⟨hexit, hstdout, hstderr⟩ := hfails _ hnone
    exact ⟨haccepted, hscans, hexit, hstdout, hstderr.trans (by decide +kernel)⟩
  · have haccepted : readArguments ["--strict"] = .ok (settings .standard .reject) := by rfl
    have hscans : "--repl" ∉ options ["--strict"] := by decide
    obtain ⟨-, -, -, -, hfails, -⟩ := scan_all_or_nothing haccepted hscans (hquiet _ _)
    obtain ⟨hexit, hstdout, hstderr⟩ := hfails _ hbytes
    exact ⟨haccepted, hscans, hexit, hstdout, hstderr.trans (by decide +kernel)⟩

end Command

end SexprLexer
