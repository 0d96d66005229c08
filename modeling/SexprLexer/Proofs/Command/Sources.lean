import SexprLexer.Proofs.Command.Closing

/-!
# The source that a command line names

Which words of a command line name sources can be told without the rules by which it is read: behind
the separator all of them, and before it those that cannot be options, but for the values of
`--color`. Main statements: the sources that an accepted command line has read are exactly these
words (`Reading.named_of_readWords`), so that there is one at most, and this is what a scan is about
(`mode_eq_scan_ok`).
-/

namespace SexprLexer.Command

/-! ### Words that name sources -/

/-- The words of a command line that name sources: before the separator those that do not begin with
a hyphen, and the lone hyphen, and behind it every word. The word after `--color` is its value. -/
def sources : List String → List String
  | [] => []
  | "--" :: words => words
  | "--color" :: _ :: words => sources words
  | word :: words =>
    if word = "-" ∨ word.toList.head? ≠ some '-' then word :: sources words else sources words

theorem sources_separator (words : List String) : sources ("--" :: words) = words := by
  rw [sources]

theorem sources_color (words : List String) :
    sources ("--color" :: words) = sources words.tail := by
  cases words with
  | nil => rfl
  | cons word words => rw [sources, List.tail_cons]

/-- Of any other word it counts how it begins. -/
theorem sources_cons {word : String} (hseparator : word ≠ "--") (hcolor : word ≠ "--color")
    (words : List String) :
    sources (word :: words) =
      if word = "-" ∨ word.toList.head? ≠ some '-' then word :: sources words
      else sources words := by
  rw [sources]
  · exact hseparator
  · exact fun _ _ hword _ => hcolor hword

/-- The value of `--color` is no source, and behind the separator an option is one. -/
example : sources ["--color", "auto", "-v", "--", "--strict"] = ["--strict"] := by decide

/-- A word is plain if it does not begin with a hyphen, or if it is the lone hyphen. -/
theorem Word.ofString_eq_plain_iff {word : String} :
    ofString word = .plain word ↔ word = "-" ∨ word.toList.head? ≠ some '-' := by
  have hlone : ∀ letter letters, word.toList = '-' :: letter :: letters → word ≠ "-" := by
    rintro letter letters htext rfl
    cases htext
  have hlong : ∀ body, ofLong body ≠ .plain word := by
    intro body
    unfold ofLong
    split <;> simp
  unfold ofString
  split
  · next htext => simp [htext, hlone _ _ htext]
  · next htext => simp [htext, hlone _ _ htext, hlong]
  · next htext => simp [htext, hlone _ _ htext]
  · next hseparator hlong hshort =>
    -- What begins with a hyphen and is none of the above is the hyphen itself.
    refine ⟨fun _ => ?_, fun _ => rfl⟩
    cases htext : word.toList with
    | nil => exact .inr nofun
    | cons first letters =>
      by_cases hfirst : first = '-'
      · subst hfirst
        cases letters with
        | nil => exact .inl (String.toList_inj.1 htext)
        | cons letter letters => exact absurd htext (hshort letter letters)
      · simp [hfirst]

/-- A plain word names a source. -/
theorem sources_plain {word : String} (h : Word.ofString word = .plain word)
    (words : List String) : sources (word :: words) = word :: sources words := by
  have hseparator : word ≠ "--" := ne_of_apply_ne Word.ofString (by rw [h]; nofun)
  have hcolor : word ≠ "--color" := ne_of_apply_ne Word.ofString (by rw [h]; nofun)
  rw [sources_cons hseparator hcolor, if_pos (Word.ofString_eq_plain_iff.1 h)]

/-- An option names no source, and only `--color` takes the next word. -/
theorem sources_option {word : String} (hseparator : Word.ofString word ≠ .separator)
    (hcolor : Word.ofString word ≠ .long "color" none) (hplain : Word.ofString word ≠ .plain word)
    (words : List String) : sources (word :: words) = sources words := by
  have hseparator' : word ≠ "--" := ne_of_apply_ne Word.ofString hseparator
  have hcolor' : word ≠ "--color" := ne_of_apply_ne Word.ofString hcolor
  rw [sources_cons hseparator' hcolor', if_neg (mt Word.ofString_eq_plain_iff.2 hplain)]

/-- There is one name for the choice of color. -/
theorem Switch.eq_of_ofName?_eq_color {name : String} (h : ofName? name = some color) :
    name = "color" := by
  unfold ofName? at h
  split at h
  · cases h
  · cases h
  · cases h
  · rfl
  · cases h
  · cases h
  · cases h
  · cases h

namespace Reading

variable {r r' c : Reading}

/-! ### Sources in a reading -/

/-- The next word is the value of a choice of color. -/
def Waits (r : Reading) : Prop := r.openArgument = some (.color none)

instance (r : Reading) : Decidable r.Waits := inferInstanceAs (Decidable (_ = _))

/-- The source that has taken effect, and the one that is still open. -/
def named (r : Reading) : List String :=
  r.input.toList ++
    match r.openArgument with
    | some (.input word) => [word]
    | _ => []

/-- The words still to come that name sources. -/
def sourcesIn (r : Reading) (words : List String) : List String :=
  if r.optionsEnded then words
  else if r.Waits then sources words.tail
  else sources words

/-- A source that has taken effect is one of the settings, so that there is no other one. -/
def Sound (r : Reading) : Prop := r.input ≠ none → .input ∈ r.given

/-- From `r` to `r'` other settings may have been read, but no source, and nothing is left open. -/
structure Keeps (r r' : Reading) : Prop where
  input_eq : r'.input = r.input
  given_subset : r.given ⊆ r'.given
  openArgument_eq : r'.openArgument = none
  optionsEnded_eq : r'.optionsEnded = r.optionsEnded

namespace Keeps

theorem trans {r'' : Reading} (h : Keeps r r') (h' : Keeps r' r'') : Keeps r r'' where
  input_eq := h'.input_eq.trans h.input_eq
  given_subset := List.Subset.trans h.given_subset h'.given_subset
  openArgument_eq := h'.openArgument_eq
  optionsEnded_eq := h'.optionsEnded_eq.trans h.optionsEnded_eq

theorem sound (h : Keeps r r') (hsound : r.Sound) : r'.Sound := by
  intro hinput
  rw [h.input_eq] at hinput
  exact h.given_subset (hsound hinput)

theorem named_eq (h : Keeps r r') (hopen : r.openArgument = none) : r'.named = r.named := by
  unfold named
  rw [h.input_eq, h.openArgument_eq, hopen]

theorem sourcesIn_eq (h : Keeps r r') (hended : r.optionsEnded = false) (words : List String) :
    r'.sourcesIn words = sources words := by
  have hwaits : ¬ r'.Waits := by simp [Waits, h.openArgument_eq]
  rw [sourcesIn, h.optionsEnded_eq, hended, if_neg (by simp), if_neg hwaits]

end Keeps

/-! ### Options -/

theorem keeps_give {setting : Setting} (hopen : r.openArgument = none)
    (h : r.give setting = .ok r') : Keeps r r' := by
  obtain ⟨-, rfl⟩ := give_eq_ok_iff.1 h
  exact ⟨rfl, List.subset_append_left _ _, hopen, rfl⟩

theorem keeps_giveColor {word : String} (hopen : r.openArgument = none)
    (h : r.giveColor word = .ok r') : Keeps r r' := by
  obtain ⟨color, -, -, rfl⟩ := giveColor_eq_ok_iff.1 h
  exact ⟨rfl, List.subset_append_left _ _, hopen, rfl⟩

/-- An option without a value is no source. -/
theorem keeps_apply {switch : Switch} (hswitch : switch ≠ .color) (hopen : r.openArgument = none)
    (h : r.apply switch = .ok r') : Keeps r r' := by
  unfold apply at h
  rw [close_eq_self hopen] at h
  cases switch with
  | strict => exact keeps_give hopen h
  | warnSkipped => exact keeps_give hopen h
  | repl => exact keeps_give hopen h
  | color => exact absurd rfl hswitch
  | verbose =>
    cases h
    exact ⟨rfl, List.Subset.refl _, hopen, rfl⟩
  | help => cases h
  | version => cases h

/-- No option with a letter takes a value. -/
theorem keeps_readLetter {letter : Char} (hopen : r.openArgument = none)
    (h : r.readLetter letter = .ok r') : Keeps r r' := by
  unfold readLetter at h
  split at h
  · cases h
  · next switch hletter =>
    refine keeps_apply ?_ hopen h
    rintro rfl
    unfold Switch.ofLetter? at hletter
    split at hletter <;> cases hletter

theorem keeps_readLetters {letters : List Char} (hopen : r.openArgument = none)
    (h : letters.foldlM readLetter r = .ok r') : Keeps r r' := by
  induction letters generalizing r with
  | nil =>
    cases h
    exact ⟨rfl, List.Subset.refl _, hopen, rfl⟩
  | cons letter letters ih =>
    rw [List.foldlM_cons] at h
    obtain ⟨next, hletter, h⟩ := exists_of_bind h
    have hnext := keeps_readLetter hopen hletter
    exact hnext.trans (ih hnext.openArgument_eq h)

/-! ### One word -/

/-- A source that is open becomes the one that has taken effect, and there was none before. -/
theorem named_of_close (hsound : r.Sound) (h : r.close = .ok c) :
    c.Sound ∧ c.named = r.named ∧ c.optionsEnded = r.optionsEnded := by
  unfold close at h
  split at h
  · next hopen =>
    cases h
    exact ⟨hsound, by simp [named, hopen], rfl⟩
  · cases h
  · next hopen =>
    have hkeeps := keeps_giveColor rfl h
    refine ⟨hkeeps.sound hsound, ?_, hkeeps.optionsEnded_eq⟩
    rw [hkeeps.named_eq rfl]
    simp [named, hopen]
  · next word hopen =>
    obtain ⟨-, hnot, rfl⟩ := giveInput_eq_ok_iff.1 h
    have hnone : r.input = none := Classical.not_not.1 (mt hsound hnot)
    refine ⟨fun _ => by simp, ?_, rfl⟩
    simp [named, hopen, hnone]

/-- A word that is read as a source is the last one. -/
theorem named_of_readInput {word : String} (hsound : r.Sound) (h : r.readInput word = .ok r') :
    r'.Sound ∧ r'.named = r.named ++ [word] ∧ r'.optionsEnded = r.optionsEnded ∧ ¬ r'.Waits := by
  unfold readInput at h
  split at h
  · cases h
  · obtain ⟨closed, hclose, h⟩ := exists_of_bind h
    obtain ⟨hclosed, hnamed, hended⟩ := named_of_close hsound hclose
    cases h
    refine ⟨hclosed, ?_, hended, nofun⟩
    rw [← hnamed]
    simp [named, openArgument_of_close hclose]

/-- A choice of color that waits for its value cannot take effect. -/
theorem refuses_close_of_waits (h : r.Waits) : Refuses r.close := by
  unfold close
  rw [h]
  exact refuses_refuse _

/-- After one word of an accepted command line the sources that have been read and those still to
come are the same as before. -/
structure Accounts (r : Reading) (word : String) (words : List String) (r' : Reading) : Prop where
  sound : r'.Sound
  named_append : r'.named ++ r'.sourcesIn words = r.named ++ r.sourcesIn (word :: words)

/-- After the separator every word is a source. -/
theorem accounts_of_ended {word : String} {words : List String} (hsound : r.Sound)
    (hended : r.optionsEnded = true) (h : r.readWord word = .ok r') : Accounts r word words r' := by
  unfold readWord at h
  rw [if_pos hended] at h
  obtain ⟨hsound', hnamed, hended', -⟩ := named_of_readInput hsound h
  refine ⟨hsound', ?_⟩
  rw [hnamed, sourcesIn, sourcesIn, hended', hended, if_pos rfl, if_pos rfl, List.append_assoc,
    List.singleton_append]

/-- Where a value is awaited, it is the next word, unless this is the separator. -/
theorem accounts_of_waits {word : String} {words : List String} (hsound : r.Sound)
    (hended : r.optionsEnded = false) (hwaits : r.Waits)
    (hseparator : Word.ofString word ≠ .separator) (h : r.readWord word = .ok r') :
    Accounts r word words r' := by
  have hrefuses := refuses_close_of_waits hwaits
  have hletters := Word.ofString_ne_short_nil word
  rw [readWord_eq_readAs hended] at h
  cases hword : Word.ofString word with
  | separator => exact absurd hword hseparator
  | long name value =>
    rw [hword] at h
    exact absurd h ((refuses_readLong hrefuses name value).ne_ok r')
  | short letters =>
    rw [hword] at h hletters
    have hne : letters ≠ [] := by simpa using hletters
    exact absurd h ((refuses_readLetters hrefuses hne).ne_ok r')
  | plain text =>
    rw [hword] at h
    have hread : r.readPlain text = .ok { r with openArgument := some (.color (some text)) } := by
      unfold readPlain
      rw [hwaits]
    cases hread.symm.trans h
    refine ⟨hsound, ?_⟩
    have hopen : r.openArgument = some (.color none) := hwaits
    simp [named, sourcesIn, Waits, hended, hopen]

section Closed

variable {word : String} {words : List String} (hsound : c.Sound) (hended : c.optionsEnded = false)
  (hopen : c.openArgument = none)

include hended hopen in
theorem sourcesIn_of_closed : c.sourcesIn words = sources words := by
  have hwaits : ¬ c.Waits := by simp [Waits, hopen]
  rw [sourcesIn, hended, if_neg (by simp), if_neg hwaits]

include hsound hended hopen

/-- An option that leaves nothing open is no source. -/
theorem accounts_of_keeps (hkeeps : Keeps c r') (hseparator : Word.ofString word ≠ .separator)
    (hcolor : Word.ofString word ≠ .long "color" none) (hplain : Word.ofString word ≠ .plain word) :
    Accounts c word words r' := by
  refine ⟨hkeeps.sound hsound, ?_⟩
  rw [hkeeps.named_eq hopen, hkeeps.sourcesIn_eq hended, sourcesIn_of_closed hended hopen,
    sources_option hseparator hcolor hplain]

/-- Of the options with a long name only the choice of color takes the next word, and only where it
has no value yet. -/
theorem accounts_of_long {name : String} {value : Option String}
    (hword : Word.ofString word = .long name value) (h : c.readLong name value = .ok r') :
    Accounts c word words r' := by
  have hseparator : Word.ofString word ≠ .separator := by
    rw [hword]
    nofun
  have hplain : Word.ofString word ≠ .plain word := by
    rw [hword]
    nofun
  unfold readLong at h
  split at h
  · cases h
  · next switch hname =>
    by_cases hswitch : switch = .color
    · subst hswitch
      obtain rfl := Switch.eq_of_ofName?_eq_color hname
      obtain rfl : word = "--color" := Word.eq_of_text? (by rw [hword]; rfl)
      unfold apply at h
      rw [close_eq_self hopen] at h
      cases h
      refine ⟨hsound, ?_⟩
      rw [sourcesIn_of_closed hended hopen, sources_color]
      simp [named, sourcesIn, Waits, hended, hopen]
    · have hcolor : Word.ofString word ≠ .long "color" none := by
        rw [hword]
        rintro ⟨⟩
        exact hswitch (Option.some.inj hname).symm
      exact accounts_of_keeps hsound hended hopen (keeps_apply hswitch hopen h) hseparator hcolor
        hplain
  · have hcolor : Word.ofString word ≠ .long "color" none := by
      rw [hword]
      nofun
    rw [close_eq_self hopen] at h
    exact accounts_of_keeps hsound hended hopen (keeps_giveColor hopen h) hseparator hcolor hplain
  · cases h

/-- Where nothing is open, a word is read as what it looks like. -/
theorem accounts_of_closed (hseparator : Word.ofString word ≠ .separator)
    (h : c.readAs (Word.ofString word) = .ok r') : Accounts c word words r' := by
  cases hword : Word.ofString word with
  | separator => exact absurd hword hseparator
  | long name value =>
    rw [hword] at h
    exact accounts_of_long hsound hended hopen hword h
  | short letters =>
    rw [hword] at h
    exact accounts_of_keeps hsound hended hopen (keeps_readLetters hopen h) hseparator
      (by rw [hword]; nofun) (by rw [hword]; nofun)
  | plain text =>
    obtain rfl : word = text := Word.eq_of_text? (by rw [hword]; rfl)
    have hread : c.readPlain word = c.readInput word := by
      unfold readPlain
      rw [hopen]
    rw [hword] at h
    obtain ⟨hsound', hnamed, hended', hwaits⟩ := named_of_readInput hsound (hread.symm.trans h)
    refine ⟨hsound', ?_⟩
    rw [hnamed, sourcesIn, hended', hended, if_neg (by simp), if_neg hwaits,
      sourcesIn_of_closed hended hopen, sources_plain hword, List.append_assoc,
      List.singleton_append]

end Closed

/-- Where nothing is awaited, a word may as well be read after the open argument has taken effect. -/
theorem accounts_of_not_waits {word : String} {words : List String} (hsound : r.Sound)
    (hended : r.optionsEnded = false) (hwaits : ¬ r.Waits) (h : r.readWord word = .ok r') :
    Accounts r word words r' := by
  have hbefore : r.sourcesIn (word :: words) = sources (word :: words) := by
    rw [sourcesIn, hended, if_neg (by simp), if_neg hwaits]
  rw [readWord_eq_readAs hended] at h
  by_cases hseparator : Word.ofString word = .separator
  · obtain rfl : word = "--" := Word.eq_of_text? (by rw [hseparator]; rfl)
    rw [hseparator] at h
    cases h
    refine ⟨hsound, ?_⟩
    rw [hbefore, sources_separator]
    rfl
  · have hletters := Word.ofString_ne_short_nil word
    obtain ⟨c, hclose⟩ : ∃ c, r.close = .ok c :=
      (close_ok_or_refuses r).resolve_right fun hrefuses =>
        (refuses_readAs hrefuses hwaits hseparator hletters).ne_ok r' h
    obtain ⟨hsound', hnamed, hended'⟩ := named_of_close hsound hclose
    have hopen := openArgument_of_close hclose
    rw [hended] at hended'
    rw [← readAs_of_close hclose hseparator hletters] at h
    obtain ⟨hsound'', happend⟩ := accounts_of_closed hsound' hended' hopen hseparator h
    refine ⟨hsound'', ?_⟩
    rw [happend, hnamed, hbefore, sourcesIn_of_closed hended' hopen]

/-! ### Whole command lines -/

/-- A reading that awaits a value and has come to the separator is refused in the end. -/
theorem not_waits_of_ended {words : List String} (hended : r.optionsEnded = true)
    (h : words.foldlM readWord r = .ok r') (hclose : r'.close = .ok c) : ¬ r.Waits := by
  intro hwaits
  have hrefuses := refuses_close_of_waits hwaits
  cases words with
  | nil =>
    cases h
    exact hrefuses.ne_ok c hclose
  | cons word words =>
    have hread : r.readWord word = r.readInput word := if_pos hended
    rw [List.foldlM_cons, hread] at h
    exact ((refuses_readInput hrefuses word).bind _).ne_ok r' h

/-- The sources that a reading ends with are those that it had and those of the words to come. -/
theorem named_of_readWords {words : List String} (hsound : r.Sound)
    (h : words.foldlM readWord r = .ok r') (hclose : r'.close = .ok c) :
    c.named = r.named ++ r.sourcesIn words := by
  -- The induction is on the words, from any reading of those before them.
  induction words generalizing r with
  | nil =>
    have hnone : r.sourcesIn [] = [] := by
      unfold sourcesIn
      split
      · rfl
      · split <;> rfl
    cases h
    rw [hnone, List.append_nil, (named_of_close hsound hclose).2.1]
  | cons word words ih =>
    rw [List.foldlM_cons] at h
    obtain ⟨next, hword, h⟩ := exists_of_bind h
    have haccounts : Accounts r word words next := by
      by_cases hended : r.optionsEnded = true
      · exact accounts_of_ended hsound hended hword
      · rw [Bool.not_eq_true] at hended
        by_cases hwaits : r.Waits
        · refine accounts_of_waits hsound hended hwaits (fun hseparator => ?_) hword
          rw [readWord_eq_readAs hended, hseparator] at hword
          cases hword
          exact not_waits_of_ended rfl h hclose hwaits
        · exact accounts_of_not_waits hsound hended hwaits hword
    rw [← haccounts.named_append]
    exact ih haccounts.sound h

end Reading

/-- The input that the words of a command line name, and what it is called: the standard input if
they name no source or the lone hyphen, and else the file at the path that they name. -/
def inputOf (words : List String) : Input × String :=
  match (sources words).head? with
  | none | some "-" => (.standard, "<stdin>")
  | some path => (.file path, path)

/-- An accepted command line names one source at most, and where it asks for a scan this is the
input. -/
theorem mode_eq_scan_ok {words : List String} {settings : Settings} {input : Input}
    (h : readArguments words = .ok settings) (hmode : settings.mode = .scan input) :
    (sources words).length ≤ 1 ∧ (input, input.name) = inputOf words := by
  unfold readArguments at h
  obtain ⟨read, hwords, h⟩ := exists_of_bind h
  unfold Reading.finish at h
  obtain ⟨r, hclose, h⟩ := exists_of_bind h
  have hsources : r.named = sources words :=
    Reading.named_of_readWords (fun hinput => absurd rfl hinput) hwords hclose
  rw [Reading.named, Reading.openArgument_of_close hclose, List.append_nil] at hsources
  rw [inputOf, ← hsources]
  split at h
  · cases h
  · cases h
    change (if Setting.repl ∈ r.given then _ else _) = _ at hmode
    split at hmode
    · cases hmode
    · rw [Mode.scan.injEq] at hmode
      subst hmode
      cases r.input with
      | none => exact ⟨Nat.zero_le 1, rfl⟩
      | some word =>
        refine ⟨Nat.le_refl 1, ?_⟩
        show (Input.named word, (Input.named word).name) = _
        by_cases hhyphen : word = "-"
        · subst hhyphen
          rfl
        · rw [Input.named, if_neg hhyphen]
          simp [Input.name]

end SexprLexer.Command
