import SexprLexer.Proofs.Command.Scan
import SexprLexer.Proofs.Command.Verbosity
import SexprLexer.Proofs.Log.Levels
import SexprLexer.Proofs.Log.Lines

/-!
# What the log adds to a run

The command line and the environment can ask for more or less of the log. All that depends on them
is the log itself, which comes before everything else on the standard error stream. Main statements:
the standard error stream of a scan is its log lines and then its diagnostics (`stderr_of_scan`);
two runs that ask for different parts of the log are the same but for these lines
(`verbosity_only_logs`).
-/

namespace SexprLexer.Command

/-! ### The log of a scan -/

/-- The records of the scan of an input: that of the beginning of the read and, if there is a
source, those of the scanner. -/
def recordsOf (input : Input) (around : Surroundings) : List Log.Record :=
  readingRecord input ::
    match around.source input with
    | .error _ => []
    | .ok source => (Scanner.ofString source (some input.name)).events.map ScanEvent.record

/-- The diagnostics of the scan of an input: that of the failure to read it, or those of the skipped
characters of its source. -/
def diagnosticsOf (policy : SkipPolicy) (input : Input) (around : Surroundings) :
    List Diagnostic :=
  match around.source input with
  | .error e => [.ofError e]
  | .ok source =>
    skippedDiagnostics policy source (Scanner.ofString source (some input.name)).drain.2.skipped

/-- The log lines of the records that a threshold admits, in their order. -/
def logLines (threshold : Log.Threshold) (records : List Log.Record) : List String :=
  (records.filter (threshold.admits ·.level)).map Log.Record.render

/-- A lower threshold leaves lines out. -/
theorem logLines_sublist {threshold threshold' : Log.Threshold}
    (h : threshold.rank ≤ threshold'.rank) (records : List Log.Record) :
    (logLines threshold records).Sublist (logLines threshold' records) :=
  (List.monotone_filter_right records fun _ => Log.Threshold.admits_mono h).map _

namespace Transcript

variable (color : Bool)

/-- Records go to the standard error stream one after the other, as far as they are admitted. -/
theorem stderr_logs {filter : Log.Filter} {threshold : Log.Threshold}
    (h : ∀ record, filter.admits record = threshold.admits record.level)
    (records : List Log.Record) :
    stderr (records.map .log) color filter = String.join (logLines threshold records) := by
  induction records with
  | nil => rfl
  | cons record records ih =>
    rw [List.map_cons, stderr_cons, ih]
    unfold logLines
    show (if filter.admits record then record.render else "") ++ _ = _
    rw [h, List.filter_cons]
    split
    · rw [List.map_cons, String.join_cons]
    · exact String.empty_append

/-- The standard output does not go to the standard error stream. -/
theorem stderr_outputs (filter : Log.Filter) (outputs : List (List Text.Span)) :
    stderr (outputs.map .output) color filter = "" := by
  induction outputs with
  | nil => rfl
  | cons output outputs ih =>
    rw [List.map_cons, stderr_cons, ih]
    rfl

end Transcript

/-- A scan says its records first, then its diagnostics, and then what goes to the standard
output. -/
theorem Listing.exists_transcript_ofInput (policy : SkipPolicy) (input : Input)
    (around : Surroundings) :
    ∃ outputs : List (List Text.Span), (ofInput policy input around).transcript =
      (recordsOf input around).map .log ++
        ((diagnosticsOf policy input around).map .ofDiagnostic ++ outputs.map .output) := by
  unfold ofInput recordsOf diagnosticsOf
  cases around.source input with
  | error e => exact ⟨[], rfl⟩
  | ok source =>
    refine ⟨if (ofSource policy input.name source).accepted then
      [Text.ofRows (TokenTable.rows input.name
        (Scanner.ofString source (some input.name)).drain.1)] else [], ?_⟩
    show Entry.log (readingRecord input) :: (ofSource policy input.name source).transcript = _
    unfold ofSource
    simp only [List.map_cons, List.map_map, List.cons_append, List.append_assoc]
    congr 3
    split
    · rfl
    · rfl

/-! ### What the environment says about the log -/

namespace Surroundings

/-- What surrounds two runs is the same, but for what the environment says about the log. -/
structure AgreesBesidesLog (around around' : Surroundings) : Prop where
  stdin_eq : around.stdin = around'.stdin
  read_eq : ∀ path, around.read path = around'.read path
  lookup_eq : ∀ name, name ≠ "RUST_LOG" → around.lookup name = around'.lookup name

/-- The environment says nothing about the log, or it names one level for it. -/
def NamesLevel (around : Surroundings) : Prop :=
  ∀ word, around.lookup "RUST_LOG" = some word → ∃ t, Log.Threshold.named? word = some t

/-- The threshold of the log of a run that asks for more of it `n` times. -/
def threshold (around : Surroundings) (n : Nat) : Log.Threshold :=
  match around.lookup "RUST_LOG" with
  | none => thresholdOfVerbosity n
  | some word => (Log.Threshold.named? word).getD .off

variable {around around' : Surroundings}

/-- Where the environment names a level at most, a threshold decides about the records of all parts
of the program, and there is nothing to complain about. -/
theorem NamesLevel.filter_eq (h : around.NamesLevel) (settings : Settings) :
    (settings.filter around).2 = [] ∧ ∀ record, (settings.filter around).1.admits record =
      (around.threshold settings.verbosity).admits record.level := by
  unfold Settings.filter threshold
  cases hlookup : around.lookup "RUST_LOG" with
  | none => exact ⟨rfl, fun record => Log.Filter.admits_ofThreshold _ record⟩
  | some word =>
    obtain ⟨t, ht⟩ := h word hlookup
    simp only [Log.Filter.extend_of_named ht, ht]
    exact ⟨trivial, fun record => Log.Filter.admits_of_named _ t record⟩

/-- More requests do not lower the threshold. -/
theorem rank_threshold_le (h : around.lookup "RUST_LOG" = none)
    (h' : around'.lookup "RUST_LOG" = none) {n n' : Nat} (hle : n ≤ n') :
    (around.threshold n).rank ≤ (around'.threshold n').rank := by
  unfold threshold
  rw [h, h']
  show (thresholdOfVerbosity n).rank ≤ (thresholdOfVerbosity n').rank
  rw [← thresholdOfVerbosity_min n (Nat.le_refl 3), ← thresholdOfVerbosity_min n' (Nat.le_refl 3)]
  have htable : ∀ m' ≤ 3, ∀ m ≤ m',
      (thresholdOfVerbosity m).rank ≤ (thresholdOfVerbosity m').rank := by decide
  exact htable _ (Nat.min_le_right _ _) _ (by omega)

namespace AgreesBesidesLog

variable (h : around.AgreesBesidesLog around')

include h

theorem source_eq (input : Input) : around.source input = around'.source input := by
  have hbytes : around.bytes input = around'.bytes input := by
    cases input with
    | standard => exact congrArg Except.ok h.stdin_eq
    | file path => exact h.read_eq path
  unfold source
  rw [hbytes]

theorem ofInput_eq (policy : SkipPolicy) (input : Input) :
    Listing.ofInput policy input around = Listing.ofInput policy input around' := by
  unfold Listing.ofInput
  rw [h.source_eq]

theorem perform_eq (settings : Settings) : settings.perform around = settings.perform around' := by
  unfold Settings.perform
  cases settings.mode with
  | scan input => exact h.ofInput_eq _ input
  | repl => rw [h.stdin_eq]

theorem recordsOf_eq (input : Input) : recordsOf input around = recordsOf input around' := by
  unfold recordsOf
  rw [h.source_eq]

theorem diagnosticsOf_eq (policy : SkipPolicy) (input : Input) :
    diagnosticsOf policy input around = diagnosticsOf policy input around' := by
  unfold diagnosticsOf
  rw [h.source_eq]

theorem colored_eq (settings : Settings) : settings.colored around = settings.colored around' := by
  unfold Settings.colored forcesColor
  rw [h.lookup_eq "CLICOLOR_FORCE" (by decide)]

theorem outcome_eq (stop : Stop) : stop.outcome around = stop.outcome around' := by
  have hshow : around.showNotice = around'.showNotice := by
    funext notice
    unfold showNotice mentions
    rw [h.lookup_eq "CLICOLOR_FORCE" (by decide), h.lookup_eq "NO_COLOR" (by decide)]
  unfold Stop.outcome
  rw [hshow]

end AgreesBesidesLog

end Surroundings

/-! ### Log lines -/

/-- The log lines of a scan print, but for the name of its input. -/
theorem printsBut_of_mem_recordsOf {input : Input} {around : Surroundings} {record : Log.Record}
    (h : record ∈ recordsOf input around) : Text.PrintsBut input.name record.line := by
  unfold recordsOf at h
  rcases List.mem_cons.1 h with rfl | h
  · have htarget : "sibil".toList.all Text.isPrinted = true := by decide
    refine Log.Record.printsBut_line (.of_all htarget) ?_
    cases input with
    | standard => exact .of_all (by decide)
    | file path => exact (Text.PrintsBut.of_all (by decide)).append (.self path)
  · cases hsource : around.source input with
    | error e =>
      rw [hsource] at h
      cases h
    | ok source =>
      rw [hsource] at h
      obtain ⟨event, hevent, rfl⟩ := List.mem_map.1 h
      have htarget : ScanEvent.target.toList.all Text.isPrinted = true := by decide
      exact Log.Record.printsBut_line (.of_all htarget) (Scanner.printsBut_of_mem_events hevent)

/-- A log line has a line feed at its end at most, as long as the name of the input has none. -/
theorem newline_not_mem_of_mem_recordsOf {input : Input} {around : Surroundings}
    {record : Log.Record} (h : record ∈ recordsOf input around)
    (hname : '\n' ∉ input.name.toList) : '\n' ∉ record.render.toList.dropLast := by
  apply Log.Record.newline_not_mem_dropLast_render
  intro hmem
  rcases printsBut_of_mem_recordsOf h _ hmem with hprinted | hnamed
  · exact Text.ne_newline_of_isPrinted hprinted rfl
  · exact hname hnamed

/-- A log line says the level, the part of the program and the message as they are, as long as every
character of the name of the input shows. -/
theorem render_eq_line_of_mem_recordsOf {input : Input} {around : Surroundings}
    {record : Log.Record} (h : record ∈ recordsOf input around)
    (hname : ∀ c ∈ input.name.toList, Text.isShown c = true ∧ c ≠ '\n') :
    record.render = record.line ++ "\n" := by
  apply Log.Record.render_eq_line
  intro c hc
  rcases printsBut_of_mem_recordsOf h c hc with hprinted | hnamed
  · exact ⟨Text.isShown_of_isPrinted hprinted, Text.ne_newline_of_isPrinted hprinted⟩
  · exact hname c hnamed

/-! ### Runs -/

section Runs

variable {words words' : List String} {around around' : Surroundings}

/-- The standard error stream of a scan holds the log lines and then the diagnostics. -/
theorem stderr_of_scan {settings : Settings} {input : Input}
    (haccepted : readArguments words = .ok settings) (hmode : settings.mode = .scan input)
    (hlevel : around.NamesLevel) :
    (run words around).stderr =
      String.join (logLines (around.threshold settings.verbosity) (recordsOf input around)) ++
        String.join ((diagnosticsOf settings.policy input around).map
          (·.render (settings.colored around))) := by
  obtain ⟨hfaults, hadmits⟩ := hlevel.filter_eq settings
  obtain ⟨outputs, htranscript⟩ := Listing.exists_transcript_ofInput settings.policy input around
  unfold run Settings.outcome Settings.perform
  rw [haccepted]
  simp only [hmode, htranscript, hfaults, Transcript.stderr_append,
    Transcript.stderr_logs _ hadmits, Transcript.stderr_reports, Transcript.stderr_outputs,
    String.append_empty]
  exact String.empty_append

/-- Two accepted command lines that differ only in their requests for more of the log, in
surroundings that differ only in the level that the environment names for the log, if any, lead to
the same exit status and the same standard output. If they ask for a scan, the standard error stream
holds log lines and then diagnostics, and the diagnostics are the same. The log lines are those of
the record of the read and of the scanner's records, as far as the threshold of the run admits them,
in their order; so a run with a lower threshold has fewer of the same lines. A name without line
feeds leaves each of them one line, and a name of which all shows leaves it as it is. -/
theorem verbosity_only_logs (haccepted : Accepted words) (haccepted' : Accepted words')
    (hwords : unheard words = unheard words') (haround : around.AgreesBesidesLog around')
    (hlevel : around.NamesLevel) (hlevel' : around'.NamesLevel) :
    (run words around).exit = (run words' around').exit ∧
    (run words around).stdout = (run words' around').stdout ∧
    ∀ settings input, readArguments words = .ok settings → settings.mode = .scan input →
      let records := recordsOf input around
      let diagnostics := String.join ((diagnosticsOf settings.policy input around).map
        (·.render (settings.colored around)))
      let threshold := around.threshold (requestsIn words)
      let threshold' := around'.threshold (requestsIn words')
      (run words around).stderr = String.join (logLines threshold records) ++ diagnostics ∧
      (run words' around').stderr = String.join (logLines threshold' records) ++ diagnostics ∧
      (threshold.rank ≤ threshold'.rank →
        (logLines threshold records).Sublist (logLines threshold' records)) ∧
      (around.lookup "RUST_LOG" = none → around'.lookup "RUST_LOG" = none →
        requestsIn words ≤ requestsIn words' → threshold.rank ≤ threshold'.rank) ∧
      ('\n' ∉ input.name.toList →
        ∀ record ∈ records, '\n' ∉ record.render.toList.dropLast) ∧
      ((∀ c ∈ input.name.toList, Text.isShown c = true ∧ c ≠ '\n') →
        ∀ record ∈ records, record.render = record.line ++ "\n") := by
  have hthreshold : ∀ (around : Surroundings) n,
      around.threshold (min n mostVerbose) = around.threshold n := by
    intro around n
    unfold Surroundings.threshold
    rw [thresholdOfVerbosity_min n (by decide)]
  rcases readArguments_of_unheard_eq haccepted haccepted' hwords with
    ⟨stop, hread, hread'⟩ | ⟨common, hread, hread'⟩
  · have hrun : run words around = run words' around' := by
      unfold run
      rw [hread, hread']
      exact haround.outcome_eq stop
    refine ⟨by rw [hrun], by rw [hrun], fun settings input hsettings => ?_⟩
    rw [hread] at hsettings
    cases hsettings
  · -- Both command lines amount to the same settings, but for the counts of the requests.
    have hperform : ∀ n, { common with verbosity := n }.perform around =
        common.perform around' := fun n => haround.perform_eq _
    have hcolored : ∀ n, { common with verbosity := n }.colored around =
        common.colored around' := fun n => haround.colored_eq _
    have hexit : (run words around).exit = (run words' around').exit := by
      unfold run
      rw [hread, hread']
      exact congrArg (fun listing : Listing => if listing.accepted then 0 else 1) (hperform _)
    have hstdout : (run words around).stdout = (run words' around').stdout := by
      unfold run
      rw [hread, hread']
      show ({ common with verbosity := _ }.perform around).transcript.stdout
        ({ common with verbosity := _ }.colored around) =
        (common.perform around').transcript.stdout (common.colored around')
      rw [hperform, hcolored]
    refine ⟨hexit, hstdout, fun settings input hsettings hmode => ?_⟩
    obtain rfl : { common with verbosity := min (requestsIn words) mostVerbose } = settings :=
      Except.ok.inj (hread.symm.trans hsettings)
    intro records diagnostics threshold threshold'
    have hstderr := stderr_of_scan hread hmode hlevel
    have hstderr' := stderr_of_scan hread' hmode hlevel'
    rw [hthreshold] at hstderr hstderr'
    rw [← haround.recordsOf_eq, ← haround.diagnosticsOf_eq, ← haround.colored_eq] at hstderr'
    exact ⟨hstderr, hstderr', fun hle => logLines_sublist hle records,
      fun hunset hunset' hle => Surroundings.rank_threshold_le hunset hunset' hle,
      fun hname _ hrecord => newline_not_mem_of_mem_recordsOf hrecord hname,
      fun hname _ hrecord => render_eq_line_of_mem_recordsOf hrecord hname⟩

/-- A quiet run and one with the whole log. -/
theorem verbosity_only_logs_trace :
    let around : Surroundings :=
      { stdin := .empty, lookup := fun _ => none, read := fun _ => .ok "(a [)".toUTF8 }
    let around' : Surroundings :=
      { around with lookup := fun name => if name = "RUST_LOG" then some "trace" else none }
    let traced (message : String) := "[TRACE sibil_lexer::lexer::scanner] " ++ message ++ "\n"
    Accepted ["x"] ∧ Accepted ["-vv", "x", "--verbose"] ∧
    unheard ["x"] = unheard ["-vv", "x", "--verbose"] ∧
    around.AgreesBesidesLog around' ∧ around.NamesLevel ∧ around'.NamesLevel ∧
    (run ["x"] around).exit = (run ["-vv", "x", "--verbose"] around').exit ∧
    (run ["x"] around).stdout = (run ["-vv", "x", "--verbose"] around').stdout ∧
    (run ["x"] around).stderr = "" ∧
    (run ["-vv", "x", "--verbose"] around').stderr = String.join
      ["[INFO  sibil] reading x\n", traced "Initial at current=0",
        traced "Emit(LeftParen, 1) at current=0", traced "emit LeftParen \"(\", current=1",
        traced "Initial at current=1", traced "identifier starts at 1",
        traced "Identifier(2) at current=1", traced "Emit(Identifier, 2) at current=1",
        traced "emit Identifier \"a\", current=2", traced "Initial at current=2",
        traced "Initial at current=3",
        "[DEBUG sibil_lexer::lexer::scanner] skipping unexpected character '[' at x:1:4\n",
        traced "Initial at current=4", traced "Emit(RightParen, 5) at current=4",
        traced "emit RightParen \")\", current=5", traced "Initial at current=5"] := by
  intro around around' traced
  have hread : readArguments ["x"] = .ok ⟨.scan (.file "x"), .ignore, .auto, 0⟩ := by rfl
  have hread' : readArguments ["-vv", "x", "--verbose"] =
      .ok ⟨.scan (.file "x"), .ignore, .auto, 3⟩ := by rfl
  have haccepted : Accepted ["x"] := by
    rintro ⟨why, hwhy⟩
    rw [hread] at hwhy
    cases hwhy
  have haccepted' : Accepted ["-vv", "x", "--verbose"] := by
    rintro ⟨why, hwhy⟩
    rw [hread'] at hwhy
    cases hwhy
  have hwords : unheard ["x"] = unheard ["-vv", "x", "--verbose"] := by decide
  have haround : around.AgreesBesidesLog around' :=
    ⟨rfl, fun _ => rfl, fun _ hname => (if_neg hname).symm⟩
  have hlevel : around.NamesLevel := nofun
  have hlevel' : around'.NamesLevel := by
    intro word hword
    obtain rfl : "trace" = word := Option.some.inj hword
    exact ⟨.upTo .trace, by rfl⟩
  obtain ⟨hexit, hstdout, hscan⟩ :=
    verbosity_only_logs haccepted haccepted' hwords haround hlevel hlevel'
  obtain ⟨hquiet, htraced, -, -, -, hrender⟩ := hscan _ _ hread rfl
  have hname : ∀ c ∈ "x".toList, Text.isShown c = true ∧ c ≠ '\n' :=
    List.forall_mem_singleton.2 (by decide)
  have hlines : ∀ threshold, logLines threshold (recordsOf (.file "x") around) =
      ((recordsOf (.file "x") around).filter (threshold.admits ·.level)).map (·.line ++ "\n") :=
    fun _ => List.map_congr_left fun record hrecord =>
      hrender hname record (List.mem_of_mem_filter hrecord)
  rw [hlines] at htraced
  exact ⟨haccepted, haccepted', hwords, haround, hlevel, hlevel', hexit, hstdout,
    hquiet.trans (by decide +kernel), htraced.trans (by decide +kernel)⟩

end Runs

end SexprLexer.Command
