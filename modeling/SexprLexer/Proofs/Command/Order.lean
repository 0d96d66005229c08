import Mathlib.Data.List.Induction
import Mathlib.Data.List.Nodup
import SexprLexer.Command.Run
import SexprLexer.Proofs.Command.Closing

/-!
# The order of arguments

A command line without a request for help or for the version and without the separator is a list of
arguments, each of one or two words. What it amounts to is decided by the arguments and not by their
order. Main statements: what is known of a command line after some of its arguments
(`reads_commandLine`), and what it amounts to at its end (`readArguments_of_compatible`,
`refuses_of_not_compatible`); which command lines are accepted, what becomes of the others, and that
neither the order of the arguments nor more than three requests for more of the log make a
difference (`arguments_unordered`).
-/

namespace SexprLexer.Command

/-- A word that can only be a source: a lone hyphen, or a word that does not begin with one. -/
def NamesInput (word : String) : Prop :=
  word = "-" ∨ (word ≠ "" ∧ word.toList.head? ≠ some '-')

/-- Such a word is a plain one. -/
theorem NamesInput.ofString_eq {word : String} (h : NamesInput word) :
    Word.ofString word = .plain word := by
  rcases h with rfl | ⟨-, hhead⟩
  · rfl
  · unfold Word.ofString
    split
    · next htext => simp [htext] at hhead
    · next htext => simp [htext] at hhead
    · next htext => simp [htext] at hhead
    · rfl

/-- The word for a choice of when to color. -/
def ColorChoice.word : ColorChoice → String
  | auto => "auto"
  | always => "always"
  | never => "never"

/-- One argument of a command line. -/
inductive Argument where
  /-- An option without a value: `--strict`, `--warn-skipped` or `--repl`. -/
  | flag (setting : Setting) (isFlag : setting ∈ Setting.flags)
  /-- `--color=V` if the value is joined to the name, else `--color V`. -/
  | color (choice : ColorChoice) (joined : Bool)
  /-- `--verbose` -/
  | verbose
  /-- `-v` with some more letters `v`. -/
  | letters (more : Nat)
  /-- A source. -/
  | input (word : String) (isInput : NamesInput word)

namespace Argument

/-- The words of an argument. -/
def words : Argument → List String
  | flag setting _ => [setting.display]
  | color choice false => ["--color", choice.word]
  | color choice true => ["--color=" ++ choice.word]
  | verbose => ["--verbose"]
  | letters more => [String.ofList ('-' :: 'v' :: List.replicate more 'v')]
  | input word _ => [word]

/-- What an argument gives that can be given only once. -/
def setting? : Argument → Option Setting
  | flag setting _ => some setting
  | color _ _ => some .color
  | input _ _ => some .input
  | verbose | letters _ => none

/-- The choice of color that an argument makes. -/
def color? : Argument → Option ColorChoice
  | color choice _ => some choice
  | flag _ _ | verbose | letters _ | input _ _ => none

/-- The source that an argument names. -/
def input? : Argument → Option String
  | input word _ => some word
  | flag _ _ | color _ _ | verbose | letters _ => none

/-- How much more of the log an argument asks for. -/
def requests : Argument → Nat
  | verbose => 1
  | letters more => more + 1
  | flag _ _ | color _ _ | input _ _ => 0

/-- An option without a value is neither a choice of color nor a source. -/
theorem ne_of_isFlag {setting : Setting} (isFlag : setting ∈ Setting.flags) :
    setting ≠ .color ∧ setting ≠ .input := by
  revert setting
  decide

/-- What asks for more of the log gives nothing. -/
theorem setting?_eq_none {arg : Argument} (h : arg.requests ≠ 0) : arg.setting? = none := by
  cases arg with
  | verbose => rfl
  | letters more => rfl
  | flag setting isFlag => exact absurd rfl h
  | color choice joined => exact absurd rfl h
  | input word isInput => exact absurd rfl h

theorem isSome_color? (arg : Argument) :
    arg.color?.isSome = (arg.setting? == some Setting.color) := by
  cases arg with
  | flag setting isFlag => simp [color?, setting?, (ne_of_isFlag isFlag).1]
  | color choice joined => rfl
  | verbose => rfl
  | letters more => rfl
  | input word isInput => rfl

theorem isSome_input? (arg : Argument) :
    arg.input?.isSome = (arg.setting? == some Setting.input) := by
  cases arg with
  | flag setting isFlag => simp [input?, setting?, (ne_of_isFlag isFlag).2]
  | color choice joined => rfl
  | verbose => rfl
  | letters more => rfl
  | input word isInput => rfl

end Argument

/-- The words of some arguments, one after the other. -/
def commandLine (args : List Argument) : List String := args.flatMap Argument.words

/-- What some arguments give that can be given only once. -/
def settingsOf (args : List Argument) : List Setting := args.filterMap Argument.setting?

/-- How much more of the log some arguments ask for. -/
def requestsOf (args : List Argument) : Nat := args.foldr (fun arg n => arg.requests + n) 0

/-- Arguments that can stand together: nothing is given twice, skipped characters are not both
errors and warnings, and a session has no source of its own. -/
structure Compatible (args : List Argument) : Prop where
  count_le_one : ∀ setting, (settingsOf args).count setting ≤ 1
  not_strict_and_warnSkipped : ¬ (.strict ∈ settingsOf args ∧ .warnSkipped ∈ settingsOf args)
  not_repl_and_input : ¬ (.repl ∈ settingsOf args ∧ .input ∈ settingsOf args)

theorem commandLine_concat (args : List Argument) (arg : Argument) :
    commandLine (args ++ [arg]) = commandLine args ++ arg.words := by
  simp [commandLine]

theorem settingsOf_concat (args : List Argument) (arg : Argument) :
    settingsOf (args ++ [arg]) = settingsOf args ++ arg.setting?.toList := by
  rw [settingsOf, List.filterMap_append]
  cases h : arg.setting? <;> simp [settingsOf, h]

theorem requestsOf_concat (args : List Argument) (arg : Argument) :
    requestsOf (args ++ [arg]) = requestsOf args + arg.requests := by
  induction args with
  | nil => exact Nat.add_comm _ _
  | cons first args ih =>
    show first.requests + requestsOf (args ++ [arg]) =
      first.requests + requestsOf args + arg.requests
    rw [ih, Nat.add_assoc]

/-- One more argument gives nothing twice if it gives nothing that has been given before. -/
theorem nodup_settingsOf_concat {args : List Argument} {arg : Argument} :
    (settingsOf (args ++ [arg])).Nodup ↔
      (settingsOf args).Nodup ∧ ∀ setting ∈ arg.setting?, setting ∉ settingsOf args := by
  rw [settingsOf_concat]
  cases arg.setting? with
  | none => simp
  | some setting =>
    rw [Option.toList_some, ← List.concat_eq_append, List.nodup_concat]
    simp [and_comm]

/-! ### After some arguments -/

namespace Reading

/-- What is known of a command line after some arguments, once all of them have taken effect. -/
def afterArguments (args : List Argument) : Reading where
  given := settingsOf args
  color := (args.filterMap Argument.color?).getLast?.getD .auto
  input := (args.filterMap Argument.input?).getLast?
  verbosity := min (requestsOf args) mostVerbose
  openArgument := none
  optionsEnded := false

/-- What one more argument adds. -/
theorem afterArguments_concat (args : List Argument) (arg : Argument) :
    afterArguments (args ++ [arg]) =
      { afterArguments args with
        given := settingsOf args ++ arg.setting?.toList
        color := arg.color?.getD (afterArguments args).color
        input := arg.input?.or (afterArguments args).input
        verbosity := min (requestsOf args + arg.requests) mostVerbose } := by
  unfold afterArguments
  rw [settingsOf_concat, requestsOf_concat]
  cases arg <;> simp [Argument.color?, Argument.input?]

/-- Once all of some arguments have taken effect they are known, or something is given twice and
they are refused. -/
def TakesEffect (args : List Argument) (x : Except Stop Reading) : Prop :=
  ((settingsOf args).Nodup ∧ x = .ok (afterArguments args)) ∨
    (¬ (settingsOf args).Nodup ∧ Refuses x)

/-- A reading that stands after some arguments, of which the last one may still be open. -/
structure Awaits (args : List Argument) (r : Reading) : Prop where
  optionsEnded_eq : r.optionsEnded = false
  not_waiting : r.openArgument ≠ some (.color none)
  close_takesEffect : TakesEffect args r.close

/-- Some arguments are read, or something is given twice and they are refused. -/
def Reads (args : List Argument) (x : Except Stop Reading) : Prop :=
  (∃ r, x = .ok r ∧ Awaits args r) ∨ (¬ (settingsOf args).Nodup ∧ Refuses x)

theorem awaits_afterArguments {args : List Argument} (h : (settingsOf args).Nodup) :
    Awaits args (afterArguments args) :=
  ⟨rfl, nofun, .inl ⟨h, close_eq_self rfl⟩⟩

/-- Arguments that take effect at once are read. -/
theorem TakesEffect.reads {args : List Argument} {x : Except Stop Reading}
    (h : TakesEffect args x) : Reads args x := by
  rcases h with ⟨hnodup, rfl⟩ | h
  · exact .inl ⟨_, rfl, awaits_afterArguments hnodup⟩
  · exact .inr h

end Reading

/-! ### One argument after the others -/

namespace Argument

open Command.Reading

section

variable {args : List Argument} (hnodup : (settingsOf args).Nodup)

include hnodup

/-- An argument takes effect if what it gives has not been given before. -/
theorem takesEffect_of_mem_iff {arg : Argument} {setting : Setting}
    (harg : arg.setting? = some setting) {x : Except Stop Reading}
    (hnew : setting ∉ settingsOf args → x = .ok (afterArguments (args ++ [arg])))
    (hagain : setting ∈ settingsOf args → Refuses x) : TakesEffect (args ++ [arg]) x := by
  have hiff : (settingsOf (args ++ [arg])).Nodup ↔ setting ∉ settingsOf args := by
    rw [nodup_settingsOf_concat, harg]
    simp [hnodup]
  by_cases h : setting ∈ settingsOf args
  · exact .inr ⟨fun hnodup => hiff.1 hnodup h, hagain h⟩
  · exact .inl ⟨hiff.2 h, hnew h⟩

theorem takesEffect_give (setting : Setting) (hflag : setting ∈ Setting.flags) :
    TakesEffect (args ++ [flag setting hflag]) ((afterArguments args).give setting) := by
  refine takesEffect_of_mem_iff hnodup rfl (fun h => ?_) fun h => ⟨_, if_pos h⟩
  rw [give_eq_ok_iff.2 ⟨h, rfl⟩, afterArguments_concat]
  rfl

theorem takesEffect_giveColor (choice : ColorChoice) (joined : Bool) :
    TakesEffect (args ++ [color choice joined])
      ((afterArguments args).giveColor choice.word) := by
  refine takesEffect_of_mem_iff hnodup rfl (fun h => ?_) fun h => ?_
  · have hnamed : ColorChoice.named? choice.word = some choice := by cases choice <;> rfl
    rw [giveColor_eq_ok_iff.2 ⟨choice, hnamed, h, rfl⟩, afterArguments_concat]
    rfl
  · apply (giveColor_ok_or_refuses _ _).resolve_left
    rintro ⟨r, hr⟩
    obtain ⟨-, -, hnot, -⟩ := giveColor_eq_ok_iff.1 hr
    exact hnot h

theorem takesEffect_giveInput (word : String) (hinput : NamesInput word) :
    TakesEffect (args ++ [input word hinput]) ((afterArguments args).giveInput word) := by
  refine takesEffect_of_mem_iff hnodup rfl (fun h => ?_) fun h => ?_
  · have hne : word ≠ "" := by
      rcases hinput with rfl | ⟨hne, -⟩
      · decide
      · exact hne
    rw [giveInput_eq_ok_iff.2 ⟨hne, h, rfl⟩, afterArguments_concat]
    rfl
  · apply (giveInput_ok_or_refuses _ _).resolve_left
    rintro ⟨r, hr⟩
    obtain ⟨-, hnot, -⟩ := giveInput_eq_ok_iff.1 hr
    exact hnot h

/-- An option without a value takes effect at once. -/
theorem reads_flag (setting : Setting) (hflag : setting ∈ Setting.flags) :
    Reads (args ++ [flag setting hflag])
      ((flag setting hflag).words.foldlM readWord (afterArguments args)) := by
  have hread : (flag setting hflag).words.foldlM readWord (afterArguments args) =
      (afterArguments args).give setting := by
    rw [words, List.foldlM_cons]
    have hcases := hflag
    simp only [Setting.flags, List.mem_cons, List.not_mem_nil, or_false] at hcases
    rcases hcases with rfl | rfl | rfl
    · exact bind_pure _
    · exact bind_pure _
    · exact bind_pure _
  rw [hread]
  exact (takesEffect_give hnodup setting hflag).reads

/-- A choice of color takes effect at once if its value is joined to it, and else stays open. -/
theorem reads_color (choice : ColorChoice) (joined : Bool) :
    Reads (args ++ [color choice joined])
      ((color choice joined).words.foldlM readWord (afterArguments args)) := by
  have heffect := takesEffect_giveColor hnodup choice joined
  cases joined with
  | true =>
    have hread : (color choice true).words.foldlM readWord (afterArguments args) =
        (afterArguments args).giveColor choice.word := by
      rw [words, List.foldlM_cons]
      cases choice with
      | auto => exact bind_pure _
      | always => exact bind_pure _
      | never => exact bind_pure _
    rw [hread]
    exact heffect.reads
  | false =>
    -- The value is the last word, so that the choice takes effect with the next argument only.
    let r := { afterArguments args with openArgument := some (.color (some choice.word)) }
    have hread : (color choice false).words.foldlM readWord (afterArguments args) = .ok r := by
      cases choice with
      | auto => rfl
      | always => rfl
      | never => rfl
    exact .inl ⟨r, hread, rfl, nofun, heffect⟩

/-- A source stays open if there is none before. -/
theorem reads_input (word : String) (hinput : NamesInput word) :
    Reads (args ++ [input word hinput])
      ((input word hinput).words.foldlM readWord (afterArguments args)) := by
  have hread : (input word hinput).words.foldlM readWord (afterArguments args) =
      (afterArguments args).readInput word := by
    rw [words, List.foldlM_cons, readWord_eq_readAs rfl, hinput.ofString_eq]
    exact bind_pure _
  rw [hread]
  have hhas : (afterArguments args).hasInput = true ↔ Setting.input ∈ settingsOf args :=
    List.contains_iff_mem
  unfold readInput
  by_cases h : Setting.input ∈ settingsOf args
  · have hagain : ¬ (settingsOf (args ++ [input word hinput])).Nodup := by
      rw [nodup_settingsOf_concat]
      exact fun hnew => hnew.2 _ rfl h
    rw [if_pos (hhas.2 h)]
    exact .inr ⟨hagain, refuses_refuse _⟩
  · rw [if_neg (mt hhas.1 h), close_eq_self rfl]
    exact .inl ⟨_, rfl, rfl, nofun, takesEffect_giveInput hnodup word hinput⟩

omit hnodup in
/-- A bundle of letters is read letter by letter. -/
theorem ofString_letters (more : Nat) :
    Word.ofString (String.ofList ('-' :: 'v' :: List.replicate more 'v')) =
      .short (List.replicate (more + 1) 'v') := by
  unfold Word.ofString
  rw [String.toList_ofList]
  rfl

omit hnodup in
/-- Each letter of a bundle is one request for more of the log. -/
theorem readLetters_replicate {r : Reading} (hopen : r.openArgument = none)
    (hverbosity : r.verbosity ≤ mostVerbose) (n : Nat) :
    (List.replicate n 'v').foldlM readLetter r =
      .ok (r.withVerbosity (min (r.verbosity + n) mostVerbose)) := by
  induction n generalizing r with
  | zero =>
    rw [Nat.add_zero, Nat.min_eq_left hverbosity]
    rfl
  | succ n ih =>
    let next := r.withVerbosity (min (r.verbosity + 1) mostVerbose)
    have hletter : r.readLetter 'v' = .ok next := apply_verbose hopen
    have hcount : min (next.verbosity + n) mostVerbose =
        min (r.verbosity + (n + 1)) mostVerbose := by
      show min (min (r.verbosity + 1) mostVerbose + n) mostVerbose = _
      omega
    rw [List.replicate_succ, List.foldlM_cons, hletter]
    show List.foldlM readLetter next _ = _
    rw [ih (show next.openArgument = none from hopen) (Nat.min_le_right _ _), hcount]
    rfl

/-- Requests for more of the log take effect at once. -/
theorem reads_requests {arg : Argument} (hsetting : arg.setting? = none)
    (hcolor : arg.color? = none) (hinput : arg.input? = none)
    (hread : arg.words.foldlM readWord (afterArguments args) =
      .ok ((afterArguments args).withVerbosity
        (min ((afterArguments args).verbosity + arg.requests) mostVerbose))) :
    Reads (args ++ [arg]) (arg.words.foldlM readWord (afterArguments args)) := by
  have hcount : min ((afterArguments args).verbosity + arg.requests) mostVerbose =
      min (requestsOf args + arg.requests) mostVerbose := by
    show min (min (requestsOf args) mostVerbose + arg.requests) mostVerbose = _
    omega
  have hafter : arg.words.foldlM readWord (afterArguments args) =
      .ok (afterArguments (args ++ [arg])) := by
    rw [hread, hcount, afterArguments_concat, hsetting, hcolor, hinput, Option.toList_none,
      List.append_nil]
    rfl
  rw [hafter]
  refine .inl ⟨_, rfl, awaits_afterArguments ?_⟩
  rw [nodup_settingsOf_concat, hsetting]
  exact ⟨hnodup, nofun⟩

/-- One more argument is read after others that have taken effect. -/
theorem reads_words (arg : Argument) :
    Reads (args ++ [arg]) (arg.words.foldlM readWord (afterArguments args)) := by
  cases arg with
  | flag setting hflag => exact reads_flag hnodup setting hflag
  | color choice joined => exact reads_color hnodup choice joined
  | verbose =>
    refine reads_requests hnodup rfl rfl rfl ?_
    rw [words, List.foldlM_cons, readWord_eq_readAs rfl]
    exact (bind_pure _).trans (apply_verbose rfl)
  | letters more =>
    refine reads_requests hnodup rfl rfl rfl ?_
    rw [words, List.foldlM_cons, readWord_eq_readAs rfl, ofString_letters]
    exact (bind_pure _).trans (readLetters_replicate rfl (Nat.min_le_right _ _) _)
  | input word hinput => exact reads_input hnodup word hinput

end

/-- An argument begins with a word that is not the separator. -/
theorem exists_words_eq_cons (arg : Argument) :
    ∃ word words, arg.words = word :: words ∧ Word.ofString word ≠ .separator := by
  cases arg with
  | flag setting hflag =>
    refine ⟨_, [], rfl, fun h => ?_⟩
    exact Setting.display_ne_separator hflag (Word.eq_of_text? (by rw [h]; rfl))
  | color choice joined =>
    cases joined with
    | false => exact ⟨_, _, rfl, nofun⟩
    | true => cases choice <;> exact ⟨_, _, rfl, nofun⟩
  | verbose => exact ⟨_, _, rfl, nofun⟩
  | letters more =>
    refine ⟨_, _, rfl, ?_⟩
    rw [ofString_letters]
    nofun
  | input word hinput =>
    refine ⟨_, _, rfl, ?_⟩
    rw [hinput.ofString_eq]
    nofun

end Argument

/-! ### Whole command lines -/

namespace Reading

variable {args : List Argument}

/-- One more argument is read after others, whether or not all of them have taken effect. -/
theorem Awaits.reads_words {r : Reading} (h : Awaits args r) (arg : Argument) :
    Reads (args ++ [arg]) (arg.words.foldlM readWord r) := by
  -- The first word of the argument decides what becomes of the one that is still open.
  obtain ⟨word, words, hwords, hseparator⟩ := arg.exists_words_eq_cons
  have hletters := Word.ofString_ne_short_nil word
  rcases h.close_takesEffect with ⟨hnodup, hclose⟩ | ⟨hagain, hrefuses⟩
  · have hsame : arg.words.foldlM readWord r =
        arg.words.foldlM readWord (afterArguments args) := by
      rw [hwords, List.foldlM_cons, List.foldlM_cons, readWord_eq_readAs h.optionsEnded_eq,
        readWord_eq_readAs rfl, readAs_of_close hclose hseparator hletters]
    rw [hsame]
    exact Argument.reads_words hnodup arg
  · refine .inr ⟨fun hnodup => hagain (nodup_settingsOf_concat.1 hnodup).1, ?_⟩
    rw [hwords, List.foldlM_cons, readWord_eq_readAs h.optionsEnded_eq]
    exact (refuses_readAs hrefuses h.not_waiting hseparator hletters).bind _

/-- Some arguments are read one after the other. -/
theorem reads_commandLine (args : List Argument) :
    Reads args ((commandLine args).foldlM readWord .start) := by
  -- The induction is from the right: each argument is read after all those before it.
  induction args using List.reverseRecOn with
  | nil => exact .inl ⟨_, rfl, awaits_afterArguments List.nodup_nil⟩
  | append_singleton args arg ih =>
    rw [commandLine_concat, List.foldlM_append]
    rcases ih with ⟨r, hr, hawaits⟩ | ⟨hagain, hrefuses⟩
    · rw [hr]
      exact hawaits.reads_words arg
    · exact .inr ⟨fun hnodup => hagain (nodup_settingsOf_concat.1 hnodup).1, hrefuses.bind _⟩

/-- No two settings that exclude each other are given. -/
theorem firstOpposed?_eq_none_iff {given : List Setting} :
    firstOpposed? given = none ↔
      ¬ (.strict ∈ given ∧ .warnSkipped ∈ given) ∧ ¬ (.repl ∈ given ∧ .input ∈ given) := by
  constructor
  · intro h
    exact ⟨fun both => not_mem_opposite h rfl both.1 both.2,
      fun both => not_mem_opposite h rfl both.1 both.2⟩
  · rintro ⟨hskipped, hsource⟩
    rw [firstOpposed?, List.findSome?_eq_none_iff]
    intro setting hsetting
    cases setting with
    | strict => simpa [Setting.opposite?] using fun h => hskipped ⟨hsetting, h⟩
    | warnSkipped => simpa [Setting.opposite?] using fun h => hskipped ⟨h, hsetting⟩
    | repl => simpa [Setting.opposite?] using fun h => hsource ⟨hsetting, h⟩
    | input => simpa [Setting.opposite?] using fun h => hsource ⟨h, hsetting⟩
    | color => rfl

end Reading

section

variable {args args' : List Argument}

/-- Arguments can stand together if nothing is given twice and nothing excludes anything else. -/
theorem compatible_iff :
    Compatible args ↔
      (settingsOf args).Nodup ∧ Reading.firstOpposed? (settingsOf args) = none := by
  rw [List.nodup_iff_count_le_one, Reading.firstOpposed?_eq_none_iff]
  exact ⟨fun h => ⟨h.1, h.2, h.3⟩, fun h => ⟨h.1, h.2.1, h.2.2⟩⟩

/-- A command line ends with what is known after all of its arguments, unless something is given
twice. -/
theorem readArguments_commandLine (args : List Argument) :
    ((settingsOf args).Nodup ∧
      readArguments (commandLine args) = (Reading.afterArguments args).finish) ∨
    (¬ (settingsOf args).Nodup ∧ Refuses (readArguments (commandLine args))) := by
  unfold readArguments
  rcases Reading.reads_commandLine args with ⟨r, hr, hawaits⟩ | ⟨hagain, hrefuses⟩
  · rw [hr]
    show (_ ∧ r.finish = _) ∨ (_ ∧ Refuses r.finish)
    rcases hawaits.close_takesEffect with ⟨hnodup, hclose⟩ | ⟨hagain, hrefuses⟩
    · exact .inl ⟨hnodup, (Reading.finish_of_close hclose).symm⟩
    · exact .inr ⟨hagain, Reading.refuses_finish hrefuses⟩
  · exact .inr ⟨hagain, hrefuses.bind _⟩

theorem finish_afterArguments (args : List Argument) :
    (Reading.afterArguments args).finish =
      match Reading.firstOpposed? (settingsOf args) with
      | some (first, second) => .error (.refused (.opposed first second))
      | none => .ok (Reading.afterArguments args).settings := rfl

/-- Arguments that can stand together are accepted, and amount to all of them. -/
theorem readArguments_of_compatible (h : Compatible args) :
    readArguments (commandLine args) = .ok (Reading.afterArguments args).settings := by
  obtain ⟨hnodup, hopposed⟩ := compatible_iff.1 h
  obtain ⟨-, hfinish⟩ := (readArguments_commandLine args).resolve_right fun h => h.1 hnodup
  rw [hfinish, finish_afterArguments, hopposed]

/-- Arguments that cannot stand together are refused. -/
theorem refuses_of_not_compatible (h : ¬ Compatible args) :
    Refuses (readArguments (commandLine args)) := by
  rcases readArguments_commandLine args with ⟨hnodup, hfinish⟩ | ⟨-, hrefuses⟩
  · rw [hfinish, finish_afterArguments]
    cases hopposed : Reading.firstOpposed? (settingsOf args) with
    | none => exact absurd (compatible_iff.2 ⟨hnodup, hopposed⟩) h
    | some pair => exact ⟨.opposed pair.1 pair.2, rfl⟩
  · exact hrefuses

/-! ### Arguments in another order -/

/-- Arguments without those that ask for more of the log. -/
def besidesRequests (args : List Argument) : List Argument :=
  args.filter fun arg => arg.requests == 0

/-- Only arguments that do not ask for more of the log give anything. -/
theorem filterMap_besidesRequests {α : Type} {f : Argument → Option α}
    (hf : ∀ arg, arg.requests ≠ 0 → f arg = none) (args : List Argument) :
    (besidesRequests args).filterMap f = args.filterMap f := by
  rw [besidesRequests, List.filterMap_filter]
  congr 1
  funext arg
  by_cases h : arg.requests = 0
  · simp [h]
  · simp [h, hf arg h]

theorem settingsOf_besidesRequests (args : List Argument) :
    settingsOf (besidesRequests args) = settingsOf args :=
  filterMap_besidesRequests (fun _ h => Argument.setting?_eq_none h) args

/-- What can be given only once is given at most once by arguments that can stand together. -/
theorem length_filterMap_le_one {α : Type} {f : Argument → Option α} {setting : Setting}
    (hf : ∀ arg, (f arg).isSome = (arg.setting? == some setting)) (h : Compatible args) :
    (args.filterMap f).length ≤ 1 := by
  have hcount : (args.filterMap f).length = (settingsOf args).count setting := by
    rw [List.length_filterMap_eq_countP, settingsOf, List.count_eq_countP, List.countP_filterMap]
    congr 1
    funext arg
    rw [hf]
    cases arg.setting? <;> rfl
  rw [hcount]
  exact h.count_le_one setting

/-- A list of at most one entry has no other order. -/
theorem eq_of_perm_of_length_le_one {α : Type} {xs ys : List α} (h : xs.Perm ys)
    (hlength : xs.length ≤ 1) : xs = ys := by
  match xs, hlength with
  | [], _ => exact h.nil_eq
  | [x], _ => exact h.singleton_eq

/-- What can be given only once does not depend on the order of the arguments. -/
theorem filterMap_eq_of_perm {α : Type} {f : Argument → Option α} {setting : Setting}
    (hf : ∀ arg, (f arg).isSome = (arg.setting? == some setting)) (h : Compatible args)
    (hperm : (besidesRequests args).Perm (besidesRequests args')) :
    args.filterMap f = args'.filterMap f := by
  have hrequests : ∀ arg : Argument, arg.requests ≠ 0 → f arg = none := by
    intro arg harg
    rw [← Option.not_isSome_iff_eq_none, hf, Argument.setting?_eq_none harg]
    nofun
  refine eq_of_perm_of_length_le_one ?_ (length_filterMap_le_one hf h)
  rw [← filterMap_besidesRequests hrequests, ← filterMap_besidesRequests hrequests args']
  exact hperm.filterMap f

/-- What is given does not depend on the order of the arguments. -/
theorem perm_settingsOf (hperm : (besidesRequests args).Perm (besidesRequests args')) :
    (settingsOf args).Perm (settingsOf args') := by
  rw [← settingsOf_besidesRequests args, ← settingsOf_besidesRequests args']
  exact hperm.filterMap _

/-- How much more of the log is asked for does not depend on the order of the arguments. -/
theorem requestsOf_of_perm (hperm : args.Perm args') : requestsOf args = requestsOf args' := by
  refine hperm.foldr_eq' ?_ 0
  intro first _ second _ n
  exact Nat.add_left_comm second.requests first.requests n

/-- Whether arguments can stand together does not depend on their order. -/
theorem Compatible.of_perm (h : Compatible args)
    (hperm : (besidesRequests args).Perm (besidesRequests args')) : Compatible args' := by
  have hgiven := perm_settingsOf hperm
  obtain ⟨hcount, hskipped, hsource⟩ := h
  refine ⟨fun setting => ?_, ?_, ?_⟩
  · rw [← hgiven.count_eq]
    exact hcount setting
  · rw [← hgiven.mem_iff, ← hgiven.mem_iff]
    exact hskipped
  · rw [← hgiven.mem_iff, ← hgiven.mem_iff]
    exact hsource

/-- In another order arguments amount to the same, but for the requests for more of the log. -/
theorem settings_of_perm (h : Compatible args)
    (hperm : (besidesRequests args).Perm (besidesRequests args')) :
    (Reading.afterArguments args').settings =
      { (Reading.afterArguments args).settings with
        verbosity := min (requestsOf args') mostVerbose } := by
  have hcolor := filterMap_eq_of_perm Argument.isSome_color? h hperm
  have hinput := filterMap_eq_of_perm Argument.isSome_input? h hperm
  have hgiven := perm_settingsOf hperm
  unfold Reading.settings Reading.afterArguments
  simp only [hcolor, hinput, hgiven.mem_iff]

/-- Of the requests for more of the log a run sees only the threshold. -/
theorem outcome_of_threshold {settings : Settings} {n : Nat}
    (h : thresholdOfVerbosity n = thresholdOfVerbosity settings.verbosity)
    (around : Surroundings) :
    { settings with verbosity := n }.outcome around = settings.outcome around := by
  have hfilter : { settings with verbosity := n }.filter around = settings.filter around := by
    unfold Settings.filter
    rw [h]
  unfold Settings.outcome
  rw [hfilter]
  rfl

end

/-- A command line of some arguments is accepted exactly if nothing is given twice in it, it does
not say both `--strict` and `--warn-skipped`, and it does not say `--repl` and name a source. Any
other one ends with the refusal, whatever surrounds the run. An accepted one has the same outcome in
any order of its arguments, and however often more than three times it asks for more of the log. -/
theorem arguments_unordered (args : List Argument) :
    ((∃ settings, readArguments (commandLine args) = .ok settings) ↔ Compatible args) ∧
    (¬ Compatible args → ∃ why, ∀ around, run (commandLine args) around =
      { exit := 2, stdout := "", stderr := around.showNotice (refusalNotice why) }) ∧
    (Compatible args → ∀ args', args.Perm args' →
      ∀ around, run (commandLine args') around = run (commandLine args) around) ∧
    (Compatible args → ∀ args', (besidesRequests args).Perm (besidesRequests args') →
      min (requestsOf args) 3 = min (requestsOf args') 3 →
      ∀ around, run (commandLine args') around = run (commandLine args) around) := by
  have hrun : Compatible args → ∀ args', (besidesRequests args).Perm (besidesRequests args') →
      min (requestsOf args) 3 = min (requestsOf args') 3 →
      ∀ around, run (commandLine args') around = run (commandLine args) around := by
    intro h args' hperm hrequests around
    -- Neither the count that stops at `mostVerbose` nor the one up to three changes the threshold.
    have hthreshold : thresholdOfVerbosity (min (requestsOf args') mostVerbose) =
        thresholdOfVerbosity (min (requestsOf args) mostVerbose) :=
      calc thresholdOfVerbosity (min (requestsOf args') mostVerbose)
        _ = thresholdOfVerbosity (requestsOf args') := thresholdOfVerbosity_min _ (by decide)
        _ = thresholdOfVerbosity (min (requestsOf args') 3) :=
          (thresholdOfVerbosity_min _ (Nat.le_refl 3)).symm
        _ = thresholdOfVerbosity (min (requestsOf args) 3) := by rw [hrequests]
        _ = thresholdOfVerbosity (requestsOf args) := thresholdOfVerbosity_min _ (Nat.le_refl 3)
        _ = thresholdOfVerbosity (min (requestsOf args) mostVerbose) :=
          (thresholdOfVerbosity_min _ (by decide)).symm
    unfold run
    rw [readArguments_of_compatible h, readArguments_of_compatible (h.of_perm hperm),
      settings_of_perm h hperm]
    exact outcome_of_threshold hthreshold around
  refine ⟨⟨?_, fun h => ⟨_, readArguments_of_compatible h⟩⟩, ?_, ?_, hrun⟩
  · rintro ⟨settings, haccepted⟩
    by_contra h
    exact (refuses_of_not_compatible h).ne_ok settings haccepted
  · intro h
    obtain ⟨why, hrefused⟩ := refuses_of_not_compatible h
    refine ⟨why, fun around => ?_⟩
    unfold run
    rw [hrefused]
    rfl
  · intro h args' hperm
    refine hrun h args' (hperm.filter _) ?_
    rw [requestsOf_of_perm hperm]

/-- Many requests for more of the log, and few of them in other places. -/
theorem arguments_unordered_many :
    let strict : Argument := .flag .strict (by decide)
    let source : Argument := .input "x" (.inr (by decide))
    let args := [.letters 299, strict, source]
    let args' := [source, .verbose, strict, .letters 1]
    commandLine args' = ["x", "--verbose", "--strict", "-vv"] ∧
    Compatible args ∧
    (besidesRequests args).Perm (besidesRequests args') ∧
    min (requestsOf args) 3 = min (requestsOf args') 3 ∧
    ∀ around, run (commandLine args') around = run (commandLine args) around := by
  intro strict source args args'
  have hcompatible : Compatible args := compatible_iff.2 (by decide)
  have hperm : (besidesRequests args).Perm (besidesRequests args') := .swap _ _ _
  have hrequests : min (requestsOf args) 3 = min (requestsOf args') 3 := by decide
  exact ⟨rfl, hcompatible, hperm, hrequests,
    (arguments_unordered args).2.2.2 hcompatible args' hperm hrequests⟩

end SexprLexer.Command
