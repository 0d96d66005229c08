import SexprLexer.Proofs.Command.Scan

/-!
# Scans under different policies

Policies see the same tokens and the same skipped characters; they differ in what is said about
these characters, and in whether there is a table. Main statements: the error and the warning about
a character are one report with different headings (`Report.rows_error`, `Report.rows_warning`); how
three runs on one source under the three policies are related (`policies_agree`).
-/

namespace SexprLexer.Command

open Text (Row plain styled)

/-! ### Reports -/

/-- What the error and the warning about one character have in common. -/
structure Report where
  quoted : String
  place : Row
  excerpt : Row
  padding : String

namespace Report

/-- The report about a character that is skipped in `source`. -/
def ofSkipped (source : String) (s : Skipped) : Report :=
  let line := (Diagnostic.lineAt? source s.location).getD []
  let number := s.location.line
  { quoted := Text.quoteChar s.character
    place := Diagnostic.locationRow s.location
    excerpt := Diagnostic.excerptRow number line
    padding := String.ofList (List.replicate ((toString number).length + 3) ' ' ++
      Diagnostic.caretPadding (line.take (s.location.column - 1))) }

/-- A report with the beginning of its first row and with the style of this and of the caret. -/
def rows (r : Report) (style : Text.Style) (heading message : String) : List Row :=
  [[styled style heading, plain (": " ++ message ++ r.quoted)], r.place, r.excerpt,
    [plain r.padding, styled style "^"]]

/-- A report as an error. -/
def errorRows (r : Report) : List Row := r.rows .boldRed "Lexer Error" "unexpected character "

/-- A report as a warning. -/
def warningRows (r : Report) : List Row := r.rows .boldYellow "Warning" "skipped character "

/-- A report without color, from the quoted character on. -/
def text (r : Report) : String :=
  r.quoted ++ "\n" ++
    Text.render false (Text.ofRows [r.place, r.excerpt, [plain (r.padding ++ "^")]])

/-- Without color two reports differ before the quoted character only. -/
theorem render_rows (r : Report) (style : Text.Style) (heading message : String) :
    Text.render false (Text.ofRows (r.rows style heading message)) =
      heading ++ ": " ++ message ++ r.text := by
  simp only [rows, text, Text.ofRows, List.flatMap_cons, List.flatMap_nil, Text.render_append,
    Text.render_cons, Text.render_nil, Text.Span.render, plain, styled, String.append_assoc,
    String.append_empty]

variable {filename : Option String} {source : String} {s : Skipped}

/-- A diagnostic at the place of a skipped character, about this character, is its report with the
heading and the style of the diagnostic. -/
theorem rows_eq (h : s ∈ noise filename [] source.toList) {d : Diagnostic} {message : String}
    (hlocation : d.location = some s.location)
    (hmessage : d.message = message ++ Text.quoteChar s.character) :
    (d.withSource source).rows = (ofSkipped source s).rows d.severity.style d.heading message := by
  have hline : ∃ line, Diagnostic.lineAt? source s.location = some line := by
    obtain ⟨before, more, hshows⟩ := Diagnostic.exists_shows_of_mem_noise h
    obtain ⟨hpos, -, hline, -⟩ := hshows d hlocation
    rw [Diagnostic.lineAt?, if_neg (by omega)]
    exact ⟨_, hline⟩
  obtain ⟨line, hline⟩ := hline
  rw [Diagnostic.rows_withSource hlocation hline, Diagnostic.headingRow, hmessage,
    ← String.append_assoc, ofSkipped, hline]
  rfl

/-- The error about a skipped character is its report as an error. -/
theorem rows_error (h : s ∈ noise filename [] source.toList) :
    ((Diagnostic.ofError s.toError).withSource source).rows = (ofSkipped source s).errorRows :=
  rows_eq h rfl rfl

/-- The warning about a skipped character is its report as a warning. -/
theorem rows_warning (h : s ∈ noise filename [] source.toList) :
    ((Diagnostic.ofSkipped s).withSource source).rows = (ofSkipped source s).warningRows :=
  rows_eq h rfl rfl

end Report

/-! ### Runs -/

/-- The command line is accepted and asks to scan an input, in color or not; of the log it shows
warnings and errors at most. -/
def Scans (words : List String) (around : Surroundings) (input : Input) (color : Bool) : Prop :=
  ∃ settings, readArguments words = .ok settings ∧ settings.mode = .scan input ∧
    settings.colored around = color ∧ (settings.filter around).1.Quiet ∧
    (settings.filter around).2 = []

section Runs

variable {words : List String} {around : Surroundings} {input : Input} {color : Bool}
  {source : String}

/-- By default the log shows warnings and errors only. -/
theorem scans_of_default (settings : Settings) (haccepted : readArguments words = .ok settings)
    (hmode : settings.mode = .scan input) (hverbosity : settings.verbosity = 0)
    (hunset : around.lookup "RUST_LOG" = none) :
    Scans words around input (settings.colored around) := by
  have hfilter : settings.filter around = (.ofThreshold (.upTo .warn), []) := by
    unfold Settings.filter
    rw [hunset, hverbosity]
    rfl
  refine ⟨settings, haccepted, hmode, rfl, ?_, ?_⟩
  · rw [hfilter]
    exact Log.Filter.quiet_ofThreshold
  · rw [hfilter]

/-- What a scan leaves behind is decided by its source and its policy. -/
theorem Scans.run_eq (h : Scans words around input color) (hsource : around.Holds input source) :
    let records := noise (some input.name) [] source.toList
    let tokens := (Scanner.ofString source (some input.name)).drain.1
    run words around =
      { exit := if (policyOf words).accepts records then 0 else 1
        stdout :=
          if (policyOf words).accepts records then
            Text.render color (Text.ofRows (TokenTable.rows input.name tokens))
          else ""
        stderr := String.join ((skippedDiagnostics (policyOf words) source records).map
          (·.render color)) } := by
  intro records tokens
  obtain ⟨settings, haccepted, hmode, hcolor, hquiet, hfaults⟩ := h
  rw [run_of_holds haccepted hmode hquiet hsource, policy_eq_policyOf haccepted, hcolor, hfaults]
  congr 1

/-- A scan reports each skipped character in the way of its policy. -/
theorem Scans.stderr_eq (h : Scans words around input color) (hsource : around.Holds input source)
    {ofRecord : Skipped → Diagnostic} {rows : Report → List Row}
    (hpolicy : ∀ records, skippedDiagnostics (policyOf words) source records =
      records.map ofRecord)
    (hrows : ∀ s ∈ noise (some input.name) [] source.toList,
      (ofRecord s).rows = rows (Report.ofSkipped source s)) :
    (run words around).stderr =
      String.join (((noise (some input.name) [] source.toList).map (Report.ofSkipped source)).map
        fun r => Text.render color (Text.ofRows (rows r))) := by
  rw [h.run_eq hsource, hpolicy, List.map_map, List.map_map]
  refine congrArg String.join (List.map_congr_left fun s hs => ?_)
  rw [Function.comp_apply, Function.comp_apply, Diagnostic.render, hrows s hs]

/-- An accepted command line with `--warn-skipped` is not strict. -/
theorem Scans.policyOf_eq_warn (h : Scans words around input color)
    (hwarn : "--warn-skipped" ∈ options words) : policyOf words = .warn := by
  obtain ⟨settings, haccepted, -⟩ := h
  rw [← policy_eq_policyOf haccepted]
  exact (policy_eq_warn_iff haccepted).2 hwarn

/-- Three accepted command lines ask to scan the same source, in color or all without; one of them
says nothing of skipped characters, one `--warn-skipped` and one `--strict`, and the log shows
nothing less important than warnings. The first two runs succeed with the same table, and the first
reports nothing. If no character is skipped, all three runs are the same. Otherwise the strict run
fails without a table. Its reports and those of the second run are about the same characters, one
after the other: they quote the character, show its place and its line, and put the caret, in the
same words. Without color they are the same text but for what comes before the quoted character. -/
theorem policies_agree {plain warning strict : List String}
    (hplain : Scans plain around input color) (hwarning : Scans warning around input color)
    (hstrict : Scans strict around input color) (hsource : around.Holds input source)
    (hignore : "--strict" ∉ options plain ∧ "--warn-skipped" ∉ options plain)
    (hwarn : "--warn-skipped" ∈ options warning) (hreject : "--strict" ∈ options strict) :
    let records := noise (some input.name) [] source.toList
    let reports := records.map (Report.ofSkipped source)
    ((run plain around).exit = 0 ∧ (run plain around).stderr = "") ∧
    ((run warning around).exit = 0 ∧ (run warning around).stdout = (run plain around).stdout) ∧
    (records = [] → run warning around = run plain around ∧ run strict around = run plain around) ∧
    (records ≠ [] → (run strict around).exit = 1 ∧ (run strict around).stdout = "") ∧
    (run strict around).stderr =
      String.join (reports.map fun r => Text.render color (Text.ofRows r.errorRows)) ∧
    (run warning around).stderr =
      String.join (reports.map fun r => Text.render color (Text.ofRows r.warningRows)) ∧
    (color = false →
      (run strict around).stderr =
        String.join (reports.map fun r => "Lexer Error: unexpected character " ++ r.text) ∧
      (run warning around).stderr =
        String.join (reports.map fun r => "Warning: skipped character " ++ r.text)) := by
  intro records reports
  have hplainPolicy : policyOf plain = .ignore := by
    rw [policyOf, if_neg hignore.1, if_neg hignore.2]
  have hwarningPolicy : policyOf warning = .warn := hwarning.policyOf_eq_warn hwarn
  have hstrictPolicy : policyOf strict = .reject := if_pos hreject
  have herrors := hstrict.stderr_eq hsource (fun _ => by rw [hstrictPolicy]; rfl)
    fun s hs => Report.rows_error hs
  have hwarnings := hwarning.stderr_eq hsource (fun _ => by rw [hwarningPolicy]; rfl)
    fun s hs => Report.rows_warning hs
  have hplainRun := hplain.run_eq hsource
  have hwarningRun := hwarning.run_eq hsource
  have hstrictRun := hstrict.run_eq hsource
  rw [hplainPolicy] at hplainRun
  rw [hwarningPolicy] at hwarningRun
  rw [hstrictPolicy] at hstrictRun
  refine ⟨⟨?_, ?_⟩, ⟨?_, ?_⟩, ?_, ?_, herrors, hwarnings, ?_⟩
  · rw [hplainRun]
    rfl
  · rw [hplainRun]
    rfl
  · rw [hwarningRun]
    rfl
  · rw [hplainRun, hwarningRun]
    rfl
  · intro hclean
    have hclean : noise (some input.name) [] source.toList = [] := hclean
    rw [hplainRun, hwarningRun, hstrictRun, hclean]
    exact ⟨rfl, rfl⟩
  · intro hnoise
    have hrejects := SkipPolicy.accepts_eq_false_iff.2 ⟨rfl, hnoise⟩
    rw [hstrictRun, hrejects]
    exact ⟨rfl, rfl⟩
  · rintro rfl
    rw [herrors, hwarnings]
    simp only [Report.errorRows, Report.warningRows, Report.render_rows]
    exact ⟨rfl, rfl⟩

/-- A file with a character that belongs to no token. -/
theorem policies_agree_bracket :
    let around : Surroundings :=
      { stdin := .empty, lookup := fun _ => none, read := fun _ => .ok "(a [)".toUTF8 }
    Scans ["x"] around (.file "x") false ∧
    Scans ["--warn-skipped", "x"] around (.file "x") false ∧
    Scans ["--strict", "x"] around (.file "x") false ∧
    around.Holds (.file "x") "(a [)" ∧
    ("--strict" ∉ options ["x"] ∧ "--warn-skipped" ∉ options ["x"]) ∧
    "--warn-skipped" ∈ options ["--warn-skipped", "x"] ∧
    "--strict" ∈ options ["--strict", "x"] ∧
    (run ["--warn-skipped", "x"] around).stdout = (run ["x"] around).stdout ∧
    (run ["--strict", "x"] around).exit = 1 := by
  intro around
  have hplain : Scans ["x"] around (.file "x") false :=
    scans_of_default ⟨_, .ignore, .auto, 0⟩ rfl rfl rfl rfl
  have hwarning : Scans ["--warn-skipped", "x"] around (.file "x") false :=
    scans_of_default ⟨_, .warn, .auto, 0⟩ rfl rfl rfl rfl
  have hstrict : Scans ["--strict", "x"] around (.file "x") false :=
    scans_of_default ⟨_, .reject, .auto, 0⟩ rfl rfl rfl rfl
  have hsource : around.Holds (.file "x") "(a [)" := ⟨_, rfl, by decide⟩
  have hignore : "--strict" ∉ options ["x"] ∧ "--warn-skipped" ∉ options ["x"] := by decide
  have hwarn : "--warn-skipped" ∈ options ["--warn-skipped", "x"] := by decide
  have hreject : "--strict" ∈ options ["--strict", "x"] := by decide
  obtain ⟨-, ⟨-, hsame⟩, -, hfails, -⟩ :=
    policies_agree hplain hwarning hstrict hsource hignore hwarn hreject
  exact ⟨hplain, hwarning, hstrict, hsource, hignore, hwarn, hreject, hsame,
    (hfails (by decide)).1⟩

end Runs

end SexprLexer.Command
