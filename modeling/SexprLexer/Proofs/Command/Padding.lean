import SexprLexer.Proofs.Command.Scan
import SexprLexer.Proofs.Command.Session
import SexprLexer.Proofs.Text.Rows

/-!
# Padding and what comes after the end of a session

A session looks at the trimmed text of a line only, and at no line after the one with which it ends.
Main statements: lines with the same texts make the same session (`continuation_congr`); what comes
after the last line of a session makes no difference (`continuation_append_of_isLast`); a blank line
adds a prompt (`continuation_cons_of_blank`); all of this as it is seen from a run with `--repl`
(`session_insensitive`).
-/

namespace SexprLexer.Command.Repl

variable (policy : SkipPolicy) (number : Nat)

/-! ### Lines -/

/-- The text of a line is trimmed of all padding, and of the line feed. -/
theorem lineText?_encode {left right : List Char} (hleft : Text.IsPadding left)
    (hright : Text.IsPadding right) (text : List Char) :
    lineText? (Text.encode (left ++ text ++ right ++ ['\n'])) =
      some (String.ofList (Text.trim text)) := by
  have hend : ∀ c ∈ right ++ ['\n'], Text.isBlank c = true := by
    rw [List.forall_mem_append, List.forall_mem_singleton]
    exact ⟨fun c hc => (hright c hc).1, by decide⟩
  rw [lineText?, Text.fromUTF8?_encode, Option.map_some, String.toList_ofList, List.append_assoc,
    Text.trim_append (fun c hc => (hleft c hc).1) hend]

/-- There is nothing on a line of padding. -/
theorem lineText?_encode_blank {blanks : List Char} (hblanks : Text.IsPadding blanks) :
    lineText? (Text.encode (blanks ++ ['\n'])) = some "" := by
  have hnone : Text.IsPadding [] := List.forall_mem_nil _
  have hpadded := lineText?_encode hblanks hnone []
  rwa [List.append_nil, List.append_nil] at hpadded

/-- A session answers the text of a line. -/
theorem answer_congr {line line' : List UInt8} (h : lineText? line = lineText? line') :
    answer policy number line = answer policy number line' := by
  unfold answer
  rw [h]

/-! ### Sessions -/

/-- Lines with the same texts make the same session. -/
theorem continuation_congr {lines lines' : List (List UInt8)}
    (h : lines.map lineText? = lines'.map lineText?) :
    continuation policy number lines = continuation policy number lines' := by
  induction lines generalizing number lines' with
  | nil =>
    rw [List.map_nil, eq_comm, List.map_eq_nil_iff] at h
    rw [h]
  | cons line lines ih =>
    obtain ⟨line', more, rfl, hline, hmore⟩ := List.map_eq_cons_iff.1 h.symm
    unfold continuation
    rw [answer_congr policy number hline]
    split
    · rfl
    · rw [ih _ hmore.symm]

/-- A session ends with its last line, whatever comes after it. -/
theorem continuation_cons_of_isLast {line : List UInt8} (h : isLast line = true)
    (lines : List (List UInt8)) :
    continuation policy number (line :: lines) =
      prompt number :: lastWords (some line) ++ [farewell] := by
  rw [continuation, answer_of_isLast policy number h]

/-- It goes on after any other line. -/
theorem continuation_cons_of_not_isLast {line : List UInt8} (h : isLast line = false)
    (lines : List (List UInt8)) :
    continuation policy number (line :: lines) =
      prompt number :: reply policy number line ++
        continuation policy (number + if hasText line then 1 else 0) lines := by
  rw [continuation, answer_of_not_isLast policy number h]

/-- No line after the last one of a session is looked at. -/
theorem continuation_append_of_isLast {lines : List (List UInt8)}
    (h : ∃ line ∈ lines, isLast line = true) (more : List (List UInt8)) :
    continuation policy number (lines ++ more) = continuation policy number lines := by
  induction lines generalizing number with
  | nil =>
    obtain ⟨line, hline, -⟩ := h
    cases hline
  | cons line lines ih =>
    rw [List.cons_append]
    cases hlast : isLast line with
    | true =>
      rw [continuation_cons_of_isLast policy number hlast,
        continuation_cons_of_isLast policy number hlast]
    | false =>
      have hrest : ∃ line ∈ lines, isLast line = true := by
        obtain ⟨last, hmem, hends⟩ := h
        rcases List.mem_cons.1 hmem with rfl | hmem
        · rw [hlast] at hends
          cases hends
        · exact ⟨last, hmem, hends⟩
      rw [continuation_cons_of_not_isLast policy number hlast,
        continuation_cons_of_not_isLast policy number hlast, ih _ hrest]

/-- After lines that are answered the session goes on with the next number. -/
theorem continuation_append {lines : List (List UInt8)} (h : ∀ line ∈ lines, isLast line = false)
    (more : List (List UInt8)) :
    continuation policy number (lines ++ more) =
      exchanges policy number lines ++
        continuation policy (number + lines.countP hasText) more := by
  induction lines generalizing number with
  | nil => rfl
  | cons line lines ih =>
    rw [List.forall_mem_cons] at h
    rw [List.cons_append, continuation_cons_of_not_isLast policy number h.1, ih _ h.2,
      exchanges_cons, number_after_cons, List.append_assoc]

/-- There is a prompt for a blank line, and nothing else. -/
theorem continuation_cons_of_blank {line : List UInt8} (h : lineText? line = some "")
    (lines : List (List UInt8)) :
    continuation policy number (line :: lines) =
      prompt number :: continuation policy number lines := by
  have hlast : isLast line = false := by
    rw [isLast, h]
    decide
  have htext : hasText line = false := by
    rw [hasText, h]
    decide
  have hreply : reply policy number line = [] := by
    rw [reply, h]
    rfl
  rw [continuation_cons_of_not_isLast policy number hlast, hreply, htext]
  rfl

/-- The rest of a session begins with a prompt. -/
theorem exists_continuation_eq_cons (lines : List (List UInt8)) :
    ∃ rest, continuation policy number lines = prompt number :: rest := by
  cases lines with
  | nil => exact ⟨_, rfl⟩
  | cons line lines =>
    cases hlast : isLast line with
    | true => exact ⟨_, continuation_cons_of_isLast policy number hlast lines⟩
    | false => exact ⟨_, continuation_cons_of_not_isLast policy number hlast lines⟩

/-! ### Inputs -/

/-- After whole lines with the last one of a session among them, the rest of the input makes no
difference. -/
theorem session_append_of_isLast {read : List UInt8} (hread : Text.IsWhole read)
    (hlast : ∃ line ∈ Text.byteLines read, isLast line = true) (more : List UInt8) :
    session policy (read ++ more) = session policy read := by
  rw [session, Text.byteLines_append hread, continuation_append_of_isLast policy 1 hlast, session]

/-- The padding of a line makes no difference. -/
theorem session_pad {before : List UInt8} (hbefore : Text.IsWhole before)
    {text left right : List Char} (htext : '\n' ∉ text) (hleft : Text.IsPadding left)
    (hright : Text.IsPadding right) (after : List UInt8) :
    session policy (before ++ Text.encode (left ++ text ++ right ++ ['\n']) ++ after) =
      session policy (before ++ Text.encode (text ++ ['\n']) ++ after) := by
  have hpadded : '\n' ∉ left ++ text ++ right := by
    rw [List.mem_append, List.mem_append, not_or, not_or]
    exact ⟨⟨fun h => (hleft _ h).2 rfl, htext⟩, fun h => (hright _ h).2 rfl⟩
  have hnone : Text.IsPadding [] := List.forall_mem_nil _
  have hbare := lineText?_encode hnone hnone text
  rw [List.nil_append, List.append_nil] at hbare
  rw [session, Text.byteLines_append_line hbefore hpadded, session,
    Text.byteLines_append_line hbefore htext]
  -- The two inputs have the same lines but for one, which has the same text in both.
  congr 1
  apply continuation_congr
  rw [List.map_append, List.map_append, List.map_cons, List.map_cons,
    lineText?_encode hleft hright, hbare]

/-- Before a line that a session comes to, a line of padding adds a prompt. -/
theorem exists_session_append_blank {before : List UInt8} (hbefore : Text.IsWhole before)
    (hlast : ∀ line ∈ Text.byteLines before, isLast line = false) {blanks : List Char}
    (hblanks : Text.IsPadding blanks) (after : List UInt8) :
    let number := 1 + (Text.byteLines before).countP hasText
    ∃ said rest, session policy (before ++ after) = said ++ prompt number :: rest ∧
      session policy (before ++ Text.encode (blanks ++ ['\n']) ++ after) =
        said ++ prompt number :: prompt number :: rest := by
  intro number
  obtain ⟨rest, hrest⟩ := exists_continuation_eq_cons policy number (Text.byteLines after)
  refine ⟨greeting :: exchanges policy 1 (Text.byteLines before), rest, ?_, ?_⟩
  · rw [session, Text.byteLines_append hbefore, continuation_append policy 1 hlast, hrest]
    rfl
  · rw [session, Text.byteLines_append_line hbefore fun h => (hblanks _ h).2 rfl,
      continuation_append policy 1 hlast,
      continuation_cons_of_blank policy number (lineText?_encode_blank hblanks), hrest]
    rfl

/-! ### Runs -/

section Outcome

variable {words : List String} {settings : Settings}

/-- A run with `--repl` is a session on the standard input, and is always successful. -/
theorem run_of_repl (haccepted : readArguments words = .ok settings)
    (hrepl : "--repl" ∈ options words) (around : Surroundings) (input : List UInt8) :
    run words { around with stdin := input.toByteArray } =
      { exit := 0
        stdout := (session settings.policy input).stdout (settings.colored around)
        stderr := faultReports (settings.filter around).2 ++
          (session settings.policy input).stderr (settings.colored around)
            (settings.filter around).1 } := by
  have hmode := (mode_eq_repl_iff haccepted).2 hrepl
  unfold run Settings.outcome Settings.perform
  rw [haccepted]
  simp only [hmode, List.toList_data_toByteArray]
  rfl

/-- A run with `--repl` looks at the trimmed text of each line up to the last one of the session,
and counts the lines with text only. So, whatever the policy is: after whole lines with the last one
of a session among them, the rest of the input makes no difference; blank characters that do not end
a line make none at the beginning and at the end of a line; and a line of nothing else that the
session comes to adds a prompt, which is the same as the next one, and changes nothing else of what
is said and nothing of the rest. -/
theorem session_insensitive (haccepted : readArguments words = .ok settings)
    (hrepl : "--repl" ∈ options words) (around : Surroundings) :
    let outcome (input : List UInt8) := run words { around with stdin := input.toByteArray }
    (∀ read more more', Text.IsWhole read → (∃ line ∈ Text.byteLines read, isLast line = true) →
      outcome (read ++ more) = outcome (read ++ more')) ∧
    (∀ before after text left right left' right', Text.IsWhole before → '\n' ∉ text →
      Text.IsPadding left → Text.IsPadding right → Text.IsPadding left' → Text.IsPadding right' →
      outcome (before ++ Text.encode (left ++ text ++ right ++ ['\n']) ++ after) =
        outcome (before ++ Text.encode (left' ++ text ++ right' ++ ['\n']) ++ after)) ∧
    ∀ before after blanks, Text.IsWhole before →
      (∀ line ∈ Text.byteLines before, isLast line = false) → Text.IsPadding blanks →
      let number := 1 + (Text.byteLines before).countP hasText
      let asked := "sibil:" ++ toString number ++ " > "
      let bare := before ++ after
      let padded := before ++ Text.encode (blanks ++ ['\n']) ++ after
      (∃ said rest, session settings.policy bare = said ++ prompt number :: rest ∧
        session settings.policy padded = said ++ prompt number :: prompt number :: rest) ∧
      (outcome padded).exit = (outcome bare).exit ∧
      (outcome padded).stderr = (outcome bare).stderr ∧
      ∃ first last, (outcome bare).stdout = first ++ asked ++ last ∧
        (outcome padded).stdout = first ++ asked ++ asked ++ last := by
  intro outcome
  have hrun := run_of_repl haccepted hrepl around
  refine ⟨?_, ?_, ?_⟩
  · intro read more more' hread hlast
    show run words _ = run words _
    rw [hrun, hrun, session_append_of_isLast _ hread hlast, session_append_of_isLast _ hread hlast]
  · intro before after text left right left' right' hbefore htext hleft hright hleft' hright'
    show run words _ = run words _
    rw [hrun, hrun, session_pad _ hbefore htext hleft hright,
      session_pad _ hbefore htext hleft' hright']
  · intro before after blanks hbefore hlast hblanks number asked bare padded
    have hsession : ∃ said rest, session settings.policy bare = said ++ prompt number :: rest ∧
        session settings.policy padded = said ++ prompt number :: prompt number :: rest :=
      exists_session_append_blank settings.policy hbefore hlast hblanks after
    refine ⟨hsession, ?_⟩
    obtain ⟨said, rest, hbare, hpadded⟩ := hsession
    have hbareRun : outcome bare = _ := hrun bare
    have hpaddedRun : outcome padded = _ := hrun padded
    rw [hbareRun, hpaddedRun, hbare, hpadded]
    refine ⟨rfl, ?_, said.stdout (settings.colored around),
      Transcript.stdout rest (settings.colored around), ?_, ?_⟩
    · simp only [Transcript.stderr_append, stderr_prompt_cons]
    · simp only [Transcript.stdout_append, stdout_prompt_cons, String.append_assoc, asked]
    · simp only [Transcript.stdout_append, stdout_prompt_cons, String.append_assoc, asked]

/-- Bytes that are not text after a word that ends the session, a wide space and a carriage return
around a line, and a line with a wide space after a line with an identifier. -/
theorem session_insensitive_spaces :
    let around : Surroundings :=
      { stdin := .empty, lookup := fun _ => none, read := fun _ => .error .notFound }
    let settings : Settings := ⟨.repl, .reject, .auto, 0⟩
    let words := ["--strict", "--repl"]
    let outcome (input : List UInt8) := run words { around with stdin := input.toByteArray }
    let quit := Text.encode ['q', 'u', 'i', 't', '\n']
    let first := Text.encode ['a', '\n']
    let junk : List UInt8 := [0xff]
    readArguments words = .ok settings ∧ "--repl" ∈ options words ∧
    Text.IsWhole quit ∧ (∃ line ∈ Text.byteLines quit, isLast line = true) ∧
    outcome (quit ++ junk) = outcome (quit ++ []) ∧
    Text.IsWhole first ∧ '\n' ∉ ['a'] ∧
    Text.IsPadding ['\u3000'] ∧ Text.IsPadding ['\r'] ∧ Text.IsPadding [] ∧
    outcome (first ++ Text.encode (['\u3000'] ++ ['a'] ++ ['\r'] ++ ['\n']) ++ junk) =
      outcome (first ++ Text.encode ([] ++ ['a'] ++ [] ++ ['\n']) ++ junk) ∧
    (∀ line ∈ Text.byteLines first, isLast line = false) ∧
    1 + (Text.byteLines first).countP hasText = 2 ∧
    ∃ before after, (outcome (first ++ junk)).stdout = before ++ "sibil:2 > " ++ after ∧
      (outcome (first ++ Text.encode (['\u3000'] ++ ['\n']) ++ junk)).stdout =
        before ++ "sibil:2 > " ++ "sibil:2 > " ++ after := by
  intro around settings words outcome quit first junk
  have haccepted : readArguments words = .ok settings := by rfl
  have hrepl : "--repl" ∈ options words := by decide
  have hquit : Text.IsWhole quit := by
    rintro b ⟨⟩
    rfl
  have hends : ∃ line ∈ Text.byteLines quit, isLast line = true := by decide +kernel
  have hfirst : Text.IsWhole first := by
    rintro b ⟨⟩
    rfl
  have hfeed : '\n' ∉ ['a'] := by decide
  have hwide : Text.IsPadding ['\u3000'] := List.forall_mem_singleton.2 (by decide)
  have hreturn : Text.IsPadding ['\r'] := List.forall_mem_singleton.2 (by decide)
  have hnone : Text.IsPadding [] := List.forall_mem_nil _
  have hanswered : ∀ line ∈ Text.byteLines first, isLast line = false := by decide +kernel
  have hnumber : 1 + (Text.byteLines first).countP hasText = 2 := by decide +kernel
  obtain ⟨hafter, hpadding, hblank⟩ := session_insensitive haccepted hrepl around
  obtain ⟨-, -, -, before, after, hbare, hpadded⟩ := hblank first junk _ hfirst hanswered hwide
  rw [hnumber] at hbare hpadded
  exact ⟨haccepted, hrepl, hquit, hends, hafter quit junk [] hquit hends, hfirst, hfeed, hwide,
    hreturn, hnone, hpadding first junk _ _ _ _ _ hfirst hfeed hwide hreturn hnone hnone, hanswered,
    hnumber, before, after, hbare, hpadded⟩

end Outcome

end SexprLexer.Command.Repl
