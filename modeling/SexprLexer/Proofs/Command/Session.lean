import SexprLexer.Proofs.Command.Scan
import SexprLexer.Proofs.Text.ByteLines

/-!
# Sessions line by line

A session answers each line by itself. What one line says to the next is its number only, and this
can be counted from the lines before. Main statements: what an answer is, whether the session ends
with it or not (`answer_of_isLast`, `answer_of_not_isLast`); the whole session, without recursion
(`continuation_eq`); what is seen of a run with `--repl` on both streams, which is such a session
(`run_session`).
-/

namespace SexprLexer

/-- In a text without line feeds everything stands on the first line. -/
theorem Scanner.line_eq_one {source : String} (h : '\n' ∉ source.toList)
    (filename : Option String) :
    (∀ t ∈ (ofString source filename).drain.1, t.location.line = 1) ∧
      ∀ s ∈ (ofString source filename).drain.2.skipped, s.location.line = 1 := by
  have hline : ∀ f ∈ records source filename, f.location.line = 1 := by
    intro f hf
    obtain ⟨before, after, htext, hplace, -⟩ := standsIn_of_mem_records hf
    rw [hplace]
    apply Text.lineAfter_eq_one_iff.2
    intro hmem
    apply h
    rw [htext]
    exact List.mem_append_left _ (List.mem_append_left _ hmem)
  refine ⟨fun t ht => ?_, fun s hs => ?_⟩
  · exact hline _ (token_mem_records ht)
  · exact hline _ (skipped_mem_records hs)

namespace Command.Repl

open Text (plain)

/-! ### Lines -/

/-- Whether a session ends with a line. -/
def isLast (line : List UInt8) : Bool :=
  match lineText? line with
  | none => true
  | some text => text == "exit" || text == "quit"

/-- Whether there is anything but blank characters on a line. -/
def hasText (line : List UInt8) : Bool := (lineText? line).any (· != "")

/-- The tokens of a line, if there is anything on it. -/
def reply (policy : SkipPolicy) (number : Nat) (line : List UInt8) : Transcript :=
  match lineText? line with
  | none => []
  | some text =>
    if text = "" then []
    else (Listing.ofSource policy ("<repl:" ++ toString number ++ ">") text).transcript

/-- What is said about the line with which a session ends, if there is one. -/
def lastWords : Option (List UInt8) → Transcript
  | none => []
  | some line =>
    match lineText? line with
    | none => [unreadableLine]
    | some _ => []

variable (policy : SkipPolicy) (number : Nat) {line : List UInt8}

/-- The session ends with the words that end it, and with a line that is not text. -/
theorem answer_of_isLast (h : isLast line = true) :
    answer policy number line = (lastWords (some line), none) := by
  unfold isLast at h
  unfold answer lastWords
  cases htext : lineText? line with
  | none => simp only [htext]
  | some text =>
    rw [htext] at h
    have hends : text = "exit" ∨ text = "quit" := by simpa using h
    simp only [htext, if_pos hends]

/-- After any other line the session goes on, with the next number if there was anything on it. -/
theorem answer_of_not_isLast (h : isLast line = false) :
    answer policy number line =
      (reply policy number line, some (number + if hasText line then 1 else 0)) := by
  unfold isLast at h
  unfold answer reply
  cases htext : lineText? line with
  | none =>
    rw [htext] at h
    cases h
  | some text =>
    rw [htext] at h
    have hends : ¬ (text = "exit" ∨ text = "quit") := by simpa using h
    by_cases hempty : text = ""
    · simp [hasText, htext, hempty]
    · simp [hasText, htext, hempty, hends, lineName]

/-! ### Sessions -/

/-- The lines after which a session goes on. -/
def answered (lines : List (List UInt8)) : List (List UInt8) :=
  lines.takeWhile fun line => !isLast line

/-- Numbers are counted line by line. -/
theorem number_after_cons (line : List UInt8) (lines : List (List UInt8)) :
    number + (line :: lines).countP hasText =
      number + (if hasText line then 1 else 0) + lines.countP hasText := by
  rw [List.countP_cons]
  omega

/-- A prompt and a reply for each of some lines. The number of a line is that of the first one and
the number of lines with text in between. -/
def exchanges (policy : SkipPolicy) (number : Nat) (lines : List (List UInt8)) : Transcript :=
  (lines.mapIdx fun k line =>
    let number := number + (lines.take k).countP hasText
    prompt number :: reply policy number line).flatten

/-- The first line only has the others begin with the next number. -/
theorem exchanges_cons (line : List UInt8) (lines : List (List UInt8)) :
    exchanges policy number (line :: lines) =
      prompt number :: reply policy number line ++
        exchanges policy (number + if hasText line then 1 else 0) lines := by
  unfold exchanges
  simp only [List.mapIdx_cons, List.flatten_cons, List.take_succ_cons, number_after_cons]
  rfl

/-- The rest of a session, line by line: after the lines that are answered there is one more prompt,
for the line with which the session ends or for the end of the input. -/
theorem continuation_eq (lines : List (List UInt8)) :
    continuation policy number lines =
      exchanges policy number (answered lines) ++
        prompt (number + (answered lines).countP hasText) ::
          lastWords lines[(answered lines).length]? ++ [farewell] := by
  -- Each line that is answered goes over from what is left to the exchanges, with its number.
  induction lines generalizing number with
  | nil => rfl
  | cons line lines ih =>
    unfold continuation
    cases hlast : isLast line with
    | true =>
      have hanswered : answered (line :: lines) = [] := by simp [answered, hlast]
      rw [answer_of_isLast policy number hlast, hanswered]
      rfl
    | false =>
      have hanswered : answered (line :: lines) = line :: answered lines := by
        simp [answered, hlast]
      rw [answer_of_not_isLast policy number hlast, hanswered, exchanges_cons,
        number_after_cons, List.length_cons, List.getElem?_cons_succ]
      show prompt number :: reply policy number line ++ continuation policy _ lines = _
      rw [ih]
      simp only [List.append_assoc, List.cons_append]

/-- The text of a line holds no line feed: the only one of the line is at its end, where blank
characters do not count. -/
theorem newline_not_mem_lineText {bytes : List UInt8} {lines : List (List UInt8)} {text : String}
    (hlines : Text.AreLines bytes lines) (hline : line ∈ lines)
    (htext : lineText? line = some text) : '\n' ∉ text.toList := by
  obtain ⟨whole, hwhole, rfl⟩ := Option.map_eq_some_iff.1 htext
  rw [String.toList_ofList]
  apply Text.newline_not_mem_trim
  intro hmem
  exact hlines.lineFeed_not_mem line hline (Text.lineFeed_mem_dropLast hwhole hmem)

/-! ### What is seen of a session -/

section Seen

variable (color : Bool) (filter : Log.Filter)

/-- What is seen of a prompt in the standard output. -/
theorem stdout_prompt_cons (rest : Transcript) :
    Transcript.stdout (prompt number :: rest) color =
      "sibil:" ++ toString number ++ " > " ++ rest.stdout color := by
  rw [Transcript.stdout_cons]
  congr 1
  exact Text.render_plain color _

/-- Nothing is seen of it in the standard error stream. -/
theorem stderr_prompt_cons (rest : Transcript) :
    Transcript.stderr (prompt number :: rest) color filter = rest.stderr color filter := by
  rw [Transcript.stderr_cons]
  exact String.empty_append

theorem stdout_greeting_cons (rest : Transcript) :
    Transcript.stdout (greeting :: rest) color =
      "Sibil v0.1.0 - Lexer\nType 'exit' to quit\n\n" ++ rest.stdout color := by
  have hgreeting : greeting.stdout color = "Sibil v0.1.0 - Lexer\nType 'exit' to quit\n\n" := by
    cases color <;> decide
  rw [Transcript.stdout_cons, hgreeting]

theorem stderr_greeting_cons (rest : Transcript) :
    Transcript.stderr (greeting :: rest) color filter = rest.stderr color filter := by
  rw [Transcript.stderr_cons]
  exact String.empty_append

theorem stdout_farewell : Transcript.stdout [farewell] color = "\nGoodbye!\n" := by
  cases color <;> decide

theorem stderr_farewell : Transcript.stderr [farewell] color filter = "" := rfl

/-- What is reported about the line with which a session ends, if there is one. -/
def lastReport : Option (List UInt8) → String
  | none => ""
  | some line =>
    if lineText? line = none then "Error reading input: stream did not contain valid UTF-8\n"
    else ""

theorem stdout_lastWords (line : Option (List UInt8)) : (lastWords line).stdout color = "" := by
  unfold lastWords
  split
  · rfl
  · split <;> rfl

theorem stderr_lastWords (line : Option (List UInt8)) :
    (lastWords line).stderr color filter = lastReport line := by
  unfold lastWords lastReport
  split
  · rfl
  · split
    · next htext =>
      have hreport : Text.render color (Text.ofRows [[plain ("Error reading input: " ++ notText)]]) =
          "Error reading input: stream did not contain valid UTF-8\n" := by
        cases color <;> decide
      rw [if_pos htext, Transcript.stderr_cons]
      exact (congrArg (· ++ "") hreport).trans String.append_empty
    · next htext =>
      rw [if_neg (by rw [htext]; nofun)]
      rfl

/-- The replies to some lines are seen in the standard output, each after its prompt. -/
theorem stdout_exchanges (lines : List (List UInt8)) :
    (exchanges policy number lines).stdout color =
      String.join (lines.mapIdx fun k line =>
        let number := number + (lines.take k).countP hasText
        "sibil:" ++ toString number ++ " > " ++ (reply policy number line).stdout color) := by
  rw [exchanges, Transcript.stdout_flatten, List.mapIdx_eq_zipIdx_map, List.mapIdx_eq_zipIdx_map,
    List.map_map]
  simp only [Function.comp_def, stdout_prompt_cons]

/-- In the standard error stream they are seen one after the other. -/
theorem stderr_exchanges (lines : List (List UInt8)) :
    (exchanges policy number lines).stderr color filter =
      String.join (lines.mapIdx fun k line =>
        (reply policy (number + (lines.take k).countP hasText) line).stderr color filter) := by
  rw [exchanges, Transcript.stderr_flatten, List.mapIdx_eq_zipIdx_map, List.mapIdx_eq_zipIdx_map,
    List.map_map]
  simp only [Function.comp_def, stderr_prompt_cons]

end Seen

/-- A run with `--repl` is a session on the lines of the standard input, and is always successful.
After the greeting there are a prompt and a reply for each line up to the first one that is not text
or that is one of the words that end a session, then one more prompt, for this line or for the end
of the input, and the farewell. Numbers count the lines with text. A reply is what the listing of
the text of the line shows, as a source of its own whose name holds the number of the prompt: its
table, and what there is to say about the characters of the noise. To a blank line there is none.
The session has nothing else to report but that a line is not text, with which it ends. All that a
listing shows stands on the first line of its source. -/
theorem run_session {words : List String} {around : Surroundings} {settings : Settings}
    (haccepted : readArguments words = .ok settings) (hrepl : "--repl" ∈ options words) :
    ∃ lines, Text.AreLines around.stdin.data.toList lines ∧
      let replied := answered lines
      let policy := policyOf words
      let color := settings.colored around
      let log := settings.filter around
      let number (k : Nat) := 1 + (replied.take k).countP hasText
      let asked (k : Nat) := "sibil:" ++ toString (number k) ++ " > "
      run words around =
        { exit := 0
          stdout := "Sibil v0.1.0 - Lexer\nType 'exit' to quit\n\n" ++
            String.join (replied.mapIdx fun k line =>
              asked k ++ (reply policy (number k) line).stdout color) ++
            asked replied.length ++ "\nGoodbye!\n"
          stderr := faultReports log.2 ++
            String.join (replied.mapIdx fun k line =>
              (reply policy (number k) line).stderr color log.1) ++
            lastReport lines[replied.length]? } ∧
      ∀ line ∈ replied, ∀ text, lineText? line = some text →
        (text = "" → ∀ n, reply policy n line = []) ∧
        (text ≠ "" → ∀ n,
          let name := "<repl:" ++ toString n ++ ">"
          let listing := (Listing.ofSource policy name text).transcript
          reply policy n line = listing ∧
          listing.stdout color = Listing.outputText policy color name text ∧
          listing.stderr color log.1 = Listing.reportText policy color log.1 name text) ∧
        ∀ filename,
          (∀ t ∈ (Scanner.ofString text filename).drain.1, t.location.line = 1) ∧
          ∀ s ∈ (Scanner.ofString text filename).drain.2.skipped, s.location.line = 1 := by
  have hlines := Text.areLines_byteLines around.stdin.data.toList
  refine ⟨_, hlines, ?_, ?_⟩
  · have hmode := (mode_eq_repl_iff haccepted).2 hrepl
    unfold run Settings.outcome Settings.perform
    rw [haccepted]
    simp only [hmode, session, continuation_eq, policy_eq_policyOf haccepted,
      stdout_greeting_cons, stderr_greeting_cons, Transcript.stdout_append,
      Transcript.stderr_append, stdout_exchanges, stderr_exchanges, stdout_prompt_cons,
      stderr_prompt_cons, stdout_lastWords, stderr_lastWords, stdout_farewell, stderr_farewell,
      String.append_empty, String.append_assoc, List.take_length]
    rfl
  · intro line hline text htext
    have hmem : line ∈ Text.byteLines around.stdin.data.toList :=
      (List.takeWhile_sublist _).subset hline
    refine ⟨fun hblank n => ?_, fun hnonblank n => ⟨?_, ?_, ?_⟩, fun filename => ?_⟩
    · unfold reply
      rw [htext]
      exact if_pos hblank
    · unfold reply
      rw [htext]
      exact if_neg hnonblank
    · exact Listing.stdout_eq_outputText _ _ _ _
    · exact Listing.stderr_eq_reportText _ _ _ _ _
    · exact Scanner.line_eq_one (newline_not_mem_lineText hlines hmem htext) filename

/-- A strict session that rejects a line, passes over a blank one, lists the tokens of a padded one
and ends with a word, and a session that ends with bytes that are not text. -/
theorem run_session_strict :
    let around (bytes : ByteArray) : Surroundings :=
      { stdin := bytes, lookup := fun _ => none, read := fun _ => .error .notFound }
    readArguments ["--strict", "--repl"] = .ok ⟨.repl, .reject, .auto, 0⟩ ∧
    "--repl" ∈ options ["--strict", "--repl"] ∧
    run ["--strict", "--repl"] (around "[\n \n (a)\nquit\n)\n".toUTF8) =
      { exit := 0
        stdout := "Sibil v0.1.0 - Lexer\nType 'exit' to quit\n\nsibil:1 > sibil:2 > sibil:2 > " ++
          "Tokens for '<repl:2>':\n" ++ TokenTable.rulerText ++
          "\n   0: LeftParen    | \"(\" @ <repl:2>:1:1\n" ++
          "   1: Identifier   | \"a\" @ <repl:2>:1:2\n" ++
          "   2: RightParen   | \")\" @ <repl:2>:1:3\n" ++ TokenTable.rulerText ++
          "\nTotal tokens: 3\nsibil:3 > \nGoodbye!\n"
        stderr :=
          "Lexer Error: unexpected character '['\n  --> <repl:1>:1:1\n  1 [\n    ^\n" } ∧
    readArguments ["--repl"] = .ok ⟨.repl, .ignore, .auto, 0⟩ ∧ "--repl" ∈ options ["--repl"] ∧
    run ["--repl"] (around [0xff, 0x0a, 0x61].toByteArray) =
      { exit := 0
        stdout :=
          "Sibil v0.1.0 - Lexer\nType 'exit' to quit\n\nsibil:1 > \nGoodbye!\n"
        stderr := "Error reading input: stream did not contain valid UTF-8\n" } := by
  intro around
  have haccepted : readArguments ["--strict", "--repl"] = .ok ⟨.repl, .reject, .auto, 0⟩ := by rfl
  have hrepl : "--repl" ∈ options ["--strict", "--repl"] := by decide
  have haccepted' : readArguments ["--repl"] = .ok ⟨.repl, .ignore, .auto, 0⟩ := by rfl
  have hrepl' : "--repl" ∈ options ["--repl"] := by decide
  refine ⟨haccepted, hrepl, ?_, haccepted', hrepl', ?_⟩
  · obtain ⟨lines, hlines, hrun, -⟩ :=
      @run_session _ (around "[\n \n (a)\nquit\n)\n".toUTF8) _ haccepted hrepl
    rw [hlines.eq_byteLines] at hrun
    exact hrun.trans (by decide +kernel)
  · obtain ⟨lines, hlines, hrun, -⟩ :=
      @run_session _ (around [0xff, 0x0a, 0x61].toByteArray) _ haccepted' hrepl'
    rw [hlines.eq_byteLines] at hrun
    exact hrun.trans (by decide +kernel)

end Command.Repl

end SexprLexer
