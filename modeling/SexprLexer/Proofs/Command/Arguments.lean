import SexprLexer.Command.Arguments

/-!
# What an accepted command line has asked for

A command line is read word by word, and an argument may be gathered from more than one of them.
Some options need no value and are written in one way only, so that they are given exactly if this
word stands among those before the separator. Main statements: how one word changes what has been
given (`Reading.readWord_ok`), and what the settings of an accepted command line say about its
words (`readArguments_ok`, `policy_eq_reject_iff`, `policy_eq_warn_iff`, `mode_eq_repl_iff`).
-/

namespace SexprLexer.Command

/-- The words of a command line that may be options: those before the separator. -/
def options (words : List String) : List String := words.takeWhile (· != "--")

@[simp]
theorem options_nil : options [] = [] := rfl

theorem options_cons (word : String) (words : List String) :
    options (word :: words) = if word = "--" then [] else word :: options words := by
  rw [options, List.takeWhile_cons, options]
  by_cases h : word = "--" <;> simp [h]

/-- The settings that are options without a value. -/
def Setting.flags : List Setting := [strict, warnSkipped, repl]

/-- The setting that an option without a value gives. -/
def Switch.flag? : Switch → Option Setting
  | strict => some .strict
  | warnSkipped => some .warnSkipped
  | repl => some .repl
  | color | verbose | help | version => none

/-- No option without a value is displayed as the separator. -/
theorem Setting.display_ne_separator {flag : Setting} (hflag : flag ∈ flags) :
    flag.display ≠ "--" := by
  revert flag
  decide

/-- The setting that a word gives, if it is an option without a value. -/
def Word.flag? : Word → Option Setting
  | long name none => (Switch.ofName? name).bind Switch.flag?
  | separator | long _ (some _) | short _ | plain _ => none

/-- The text of a word, where what it looks like leaves no doubt about it. -/
def Word.text? : Word → Option String
  | separator => some "--"
  | long name none => some ("--" ++ name)
  | plain text => some text
  | long _ (some _) | short _ => none

/-- What a text looks like tells the text. -/
theorem Word.eq_of_text? {text word : String} (h : (ofString text).text? = some word) :
    text = word := by
  unfold ofString at h
  split at h
  · next htext =>
    cases h
    exact String.toList_inj.1 htext
  · next body _ htext =>
    unfold ofLong at h
    split at h
    · next hdrop =>
      -- Without an equals sign the name is the whole body.
      have hbody := List.takeWhile_append_dropWhile (p := (· != '=')) (l := body)
      rw [hdrop, List.append_nil] at hbody
      rw [hbody] at h
      cases h
      simp [← String.toList_inj, htext]
    · cases h
  · cases h
  · cases h
    rfl

/-- The options without a value are displayed by their names. -/
theorem Switch.display_of_flag? {name : String} {switch : Switch} {flag : Setting}
    (hname : ofName? name = some switch) (hflag : switch.flag? = some flag) :
    flag.display = "--" ++ name := by
  unfold ofName? at hname
  split at hname <;> cases hname <;> cases hflag <;> rfl

/-- An option without a value is given by this one word only. -/
theorem Word.flag?_ofString_iff {flag : Setting} (hflag : flag ∈ Setting.flags) (text : String) :
    (ofString text).flag? = some flag ↔ text = flag.display := by
  constructor
  · intro h
    unfold flag? at h
    split at h
    · next name hlong =>
      obtain ⟨switch, hname, hswitch⟩ := Option.bind_eq_some_iff.1 h
      rw [Switch.display_of_flag? hname hswitch]
      apply eq_of_text?
      rw [hlong]
      rfl
    all_goals cases h
  · rintro rfl
    revert flag
    decide

/-- What succeeds in two steps succeeds in both. -/
theorem exists_of_bind {α β : Type} {x : Except Stop α} {f : α → Except Stop β} {b : β}
    (h : x >>= f = .ok b) : ∃ a, x = .ok a ∧ f a = .ok b := by
  cases x with
  | error stop => cases h
  | ok a => exact ⟨a, rfl, h⟩

namespace Reading

/-! ### What one step adds -/

/-- Between `r` and `r'` nothing is given but `new`, as far as it is a flag. -/
structure Adds (new : Option Setting) (r r' : Reading) : Prop where
  optionsEnded_eq : r'.optionsEnded = r.optionsEnded
  mem_given_iff : ∀ flag ∈ Setting.flags, flag ∈ r'.given ↔ flag ∈ r.given ∨ new = some flag

variable {r r' r'' : Reading} {new : Option Setting}

/-- A step that adds nothing may come before another one. -/
theorem Adds.trans (h : Adds none r r') (h' : Adds new r' r'') : Adds new r r'' where
  optionsEnded_eq := h'.optionsEnded_eq.trans h.optionsEnded_eq
  mem_given_iff := by
    intro flag hflag
    rw [h'.mem_given_iff flag hflag, h.mem_given_iff flag hflag]
    simp

/-- Giving a setting adds it, if it is a flag. -/
theorem give_ok {setting : Setting} (h : r.give setting = .ok r') : Adds (some setting) r r' := by
  unfold give at h
  split at h
  · cases h
  · cases h
    refine ⟨rfl, fun flag _ => ?_⟩
    rw [List.mem_append, List.mem_singleton, Option.some.injEq, eq_comm (a := flag)]

/-- Giving a setting that has a value adds no flag. -/
theorem Adds.of_not_flag {setting : Setting} (h : Adds (some setting) r r')
    (hsetting : setting ∉ Setting.flags) : Adds none r r' where
  optionsEnded_eq := h.optionsEnded_eq
  mem_given_iff := by
    intro flag hflag
    have hne : setting ≠ flag := fun heq => hsetting (heq ▸ hflag)
    rw [h.mem_given_iff flag hflag, Option.some.injEq]
    simp [hne]

/-- The choice of color is no flag. -/
theorem giveColor_ok {word : String} (h : r.giveColor word = .ok r') : Adds none r r' := by
  unfold giveColor at h
  obtain ⟨given, hgive, h⟩ := exists_of_bind h
  have hgiven := (give_ok hgive).of_not_flag (by decide)
  split at h
  · cases h
  · split at h
    · cases h
    · cases h
      exact ⟨hgiven.optionsEnded_eq, hgiven.mem_given_iff⟩

/-- A source is no flag. -/
theorem giveInput_ok {word : String} (h : r.giveInput word = .ok r') : Adds none r r' := by
  unfold giveInput at h
  split at h
  · cases h
  · obtain ⟨given, hgive, h⟩ := exists_of_bind h
    have hgiven := (give_ok hgive).of_not_flag (by decide)
    cases h
    exact ⟨hgiven.optionsEnded_eq, hgiven.mem_given_iff⟩

/-- Closing an argument adds no flag. -/
theorem close_ok (h : r.close = .ok r') : Adds none r r' := by
  have hclosed : Adds none r { r with openArgument := none } := ⟨rfl, by simp⟩
  unfold close at h
  split at h
  · cases h
    exact hclosed
  · cases h
  · exact hclosed.trans (giveColor_ok h)
  · exact hclosed.trans (giveInput_ok h)

/-- A word that is read as a source is no flag. -/
theorem readInput_ok {word : String} (h : r.readInput word = .ok r') : Adds none r r' := by
  unfold readInput at h
  split at h
  · cases h
  · obtain ⟨closed, hclose, h⟩ := exists_of_bind h
    have hclosed := close_ok hclose
    cases h
    exact ⟨hclosed.optionsEnded_eq, hclosed.mem_given_iff⟩

/-- A plain word is no flag. -/
theorem readPlain_ok {word : String} (h : r.readPlain word = .ok r') : Adds none r r' := by
  unfold readPlain at h
  split at h
  · cases h
    exact ⟨rfl, by simp⟩
  · exact readInput_ok h

/-- An option without a value adds itself, if it is a flag. -/
theorem apply_ok {switch : Switch} (h : r.apply switch = .ok r') : Adds switch.flag? r r' := by
  unfold apply at h
  obtain ⟨closed, hclose, h⟩ := exists_of_bind h
  have hclosed := close_ok hclose
  cases switch with
  | strict => exact hclosed.trans (give_ok h)
  | warnSkipped => exact hclosed.trans (give_ok h)
  | repl => exact hclosed.trans (give_ok h)
  | color =>
    cases h
    exact ⟨hclosed.optionsEnded_eq, hclosed.mem_given_iff⟩
  | verbose =>
    cases h
    exact ⟨hclosed.optionsEnded_eq, hclosed.mem_given_iff⟩
  | help => cases h
  | version => cases h

/-- A long name adds what the word is about. -/
theorem readLong_ok {name : String} {value : Option String} (h : r.readLong name value = .ok r') :
    Adds (Word.long name value).flag? r r' := by
  unfold readLong at h
  split at h
  · cases h
  · next switch hname =>
    rw [Word.flag?, hname]
    exact apply_ok h
  · obtain ⟨closed, hclose, h⟩ := exists_of_bind h
    exact (close_ok hclose).trans (giveColor_ok h)
  · cases h

/-- No option with a letter is a flag. -/
theorem readLetter_ok {letter : Char} (h : r.readLetter letter = .ok r') : Adds none r r' := by
  unfold readLetter at h
  split at h
  · cases h
  · next switch hletter =>
    have hflag : switch.flag? = none := by
      unfold Switch.ofLetter? at hletter
      split at hletter <;> cases hletter <;> rfl
    rw [← hflag]
    exact apply_ok h

/-- Letters add nothing, however many they are. -/
theorem readLetters_ok {letters : List Char} (h : letters.foldlM readLetter r = .ok r') :
    Adds none r r' := by
  induction letters generalizing r with
  | nil =>
    cases h
    exact ⟨rfl, by simp⟩
  | cons letter letters ih =>
    rw [List.foldlM_cons] at h
    obtain ⟨next, hletter, h⟩ := exists_of_bind h
    exact (readLetter_ok hletter).trans (ih h)

/-! ### Words -/

/-- Before the separator a word adds what it is about. -/
theorem adds_readWord {word : String} (hended : r.optionsEnded = false)
    (hword : Word.ofString word ≠ .separator) (h : r.readWord word = .ok r') :
    Adds (Word.ofString word).flag? r r' := by
  unfold readWord at h
  rw [if_neg (by simp [hended])] at h
  split at h
  · next hseparator => exact absurd hseparator hword
  · next hlong =>
    rw [hlong]
    exact readLong_ok h
  · next hshort =>
    rw [hshort]
    exact readLetters_ok h
  · next hplain =>
    rw [hplain]
    exact readPlain_ok h

/-- A word is an option only before the separator. -/
theorem readWord_ok {word : String} (h : r.readWord word = .ok r') :
    r'.optionsEnded = (r.optionsEnded || word == "--") ∧
    ∀ flag ∈ Setting.flags, flag ∈ r'.given ↔
      flag ∈ r.given ∨ (r.optionsEnded = false ∧ word = flag.display) := by
  cases hended : r.optionsEnded with
  | true =>
    unfold readWord at h
    rw [if_pos hended] at h
    have hadds := readInput_ok h
    refine ⟨?_, fun flag hflag => ?_⟩
    · rw [hadds.optionsEnded_eq, hended, Bool.true_or]
    · rw [hadds.mem_given_iff flag hflag]
      simp
  | false =>
    by_cases hword : Word.ofString word = .separator
    · have hhyphens : word = "--" := Word.eq_of_text? (by rw [hword]; rfl)
      unfold readWord at h
      rw [if_neg (by simp [hended]), hword] at h
      cases h
      refine ⟨by simp [hhyphens], fun flag hflag => ?_⟩
      simp [hhyphens, (Setting.display_ne_separator hflag).symm]
    · have hadds := adds_readWord hended hword h
      refine ⟨?_, fun flag hflag => ?_⟩
      · have hne : word ≠ "--" := by
          rintro rfl
          exact hword rfl
        rw [hadds.optionsEnded_eq, hended]
        simp [hne]
      · rw [hadds.mem_given_iff flag hflag, Word.flag?_ofString_iff hflag]
        simp

/-- What the words of a command line add, one after the other. -/
theorem readWords_ok {words : List String} (h : words.foldlM readWord r = .ok r') :
    ∀ flag ∈ Setting.flags, flag ∈ r'.given ↔
      flag ∈ r.given ∨ (r.optionsEnded = false ∧ flag.display ∈ options words) := by
  -- The induction is on the words, from any reading of those before them.
  induction words generalizing r with
  | nil =>
    cases h
    simp
  | cons word words ih =>
    rw [List.foldlM_cons] at h
    obtain ⟨next, hword, h⟩ := exists_of_bind h
    obtain ⟨hended, hgiven⟩ := readWord_ok hword
    intro flag hflag
    rw [ih h flag hflag, hgiven flag hflag, hended, options_cons]
    by_cases hword : word = "--"
    · simp [hword, (Setting.display_ne_separator hflag).symm]
    · simp [hword, and_or_left, or_assoc, eq_comm (a := word)]

end Reading

/-! ### Settings -/

/-- The settings of an accepted command line by its words: a flag is given exactly if it stands
before the separator, and no two flags exclude each other. -/
theorem readArguments_ok {words : List String} {settings : Settings}
    (h : readArguments words = .ok settings) :
    ∃ r : Reading, settings = r.settings ∧ Reading.firstOpposed? r.given = none ∧
      ∀ flag ∈ Setting.flags, flag ∈ r.given ↔ flag.display ∈ options words := by
  unfold readArguments at h
  obtain ⟨read, hwords, h⟩ := exists_of_bind h
  unfold Reading.finish at h
  obtain ⟨r, hclose, h⟩ := exists_of_bind h
  have hclosed := Reading.close_ok hclose
  split at h
  · cases h
  · next hopposed =>
    cases h
    refine ⟨r, rfl, hopposed, fun flag hflag => ?_⟩
    rw [hclosed.mem_given_iff flag hflag, Reading.readWords_ok hwords flag hflag]
    simp [Reading.start]

section Settings

variable {words : List String} {settings : Settings}

/-- Two settings that exclude each other are not both given. -/
theorem not_mem_opposite {given : List Setting} (h : Reading.firstOpposed? given = none)
    {first second : Setting} (hopposite : first.opposite? = some second) (hfirst : first ∈ given) :
    second ∉ given := by
  intro hsecond
  have hnone := List.findSome?_eq_none_iff.1 h first hfirst
  simp [hopposite, hsecond] at hnone

/-- Skipped characters are errors exactly if the command line says `--strict`. -/
theorem policy_eq_reject_iff (h : readArguments words = .ok settings) :
    settings.policy = .reject ↔ "--strict" ∈ options words := by
  obtain ⟨r, rfl, -, hgiven⟩ := readArguments_ok h
  refine Iff.trans ?_ (hgiven .strict (by decide))
  show (if Setting.strict ∈ r.given then _ else _) = _ ↔ _
  by_cases hstrict : Setting.strict ∈ r.given
  · simp [hstrict]
  · by_cases hwarn : Setting.warnSkipped ∈ r.given
    · simp [hstrict, hwarn]
    · simp [hstrict, hwarn]

/-- Skipped characters are warnings exactly if the command line says `--warn-skipped`. -/
theorem policy_eq_warn_iff (h : readArguments words = .ok settings) :
    settings.policy = .warn ↔ "--warn-skipped" ∈ options words := by
  obtain ⟨r, rfl, hopposed, hgiven⟩ := readArguments_ok h
  refine Iff.trans ?_ (hgiven .warnSkipped (by decide))
  show (if Setting.strict ∈ r.given then _ else _) = _ ↔ _
  by_cases hstrict : Setting.strict ∈ r.given
  · simp [hstrict, not_mem_opposite hopposed rfl hstrict]
  · by_cases hwarn : Setting.warnSkipped ∈ r.given
    · simp [hstrict, hwarn]
    · simp [hstrict, hwarn]

/-- The policy that the words of a command line ask for. -/
def policyOf (words : List String) : SkipPolicy :=
  if "--strict" ∈ options words then .reject
  else if "--warn-skipped" ∈ options words then .warn
  else .ignore

/-- The words decide the policy. -/
theorem policy_eq_policyOf (h : readArguments words = .ok settings) :
    settings.policy = policyOf words := by
  unfold policyOf
  simp only [← policy_eq_reject_iff h, ← policy_eq_warn_iff h]
  cases settings.policy <;> rfl

/-- A command line asks for a session exactly if it says `--repl`. -/
theorem mode_eq_repl_iff (h : readArguments words = .ok settings) :
    settings.mode = .repl ↔ "--repl" ∈ options words := by
  obtain ⟨r, rfl, -, hgiven⟩ := readArguments_ok h
  refine Iff.trans ?_ (hgiven .repl (by decide))
  show (if Setting.repl ∈ r.given then _ else _) = _ ↔ _
  by_cases hrepl : Setting.repl ∈ r.given
  · simp [hrepl]
  · simp [hrepl]

end Settings

end SexprLexer.Command
