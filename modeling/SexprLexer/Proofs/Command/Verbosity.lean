import SexprLexer.Proofs.Command.Closing

/-!
# Requests for more of the log

An option that asks for more of the log is counted, and the reading of the command line goes on as
it would have gone on without it. Main statements: what is read of a command line without these
options follows what is read of the whole line (`follows_readUnheard`), so that two accepted command
lines that differ only in these options have the same settings but for the count
(`readArguments_of_unheard_eq`).
-/

namespace SexprLexer.Command

/-- The second step ends in a refusal, or both end in the same way, with related results. -/
inductive Follows {α β : Type} (rel : α → β → Prop) : Except Stop α → Except Stop β → Prop where
  | refused (x : Except Stop α) (why : Refusal) : Follows rel x (.error (.refused why))
  | stopped (stop : Stop) : Follows rel (.error stop) (.error stop)
  | ok {a : α} {b : β} (h : rel a b) : Follows rel (.ok a) (.ok b)

/-- Two steps one after the other are followed step by step. -/
theorem Follows.bind {α β α' β' : Type} {rel : α → β → Prop} {rel' : α' → β' → Prop}
    {x : Except Stop α} {y : Except Stop β} {f : α → Except Stop α'} {g : β → Except Stop β'}
    (h : Follows rel x y) (hnext : ∀ a b, rel a b → Follows rel' (f a) (g b)) :
    Follows rel' (x >>= f) (y >>= g) := by
  cases h with
  | refused x why => exact .refused _ why
  | stopped stop => exact .stopped stop
  | ok h => exact hnext _ _ h

/-- What is known of the results of the second step may be added to the relation. -/
theorem Follows.and {α β : Type} {rel : α → β → Prop} {x : Except Stop α} {y : Except Stop β}
    (h : Follows rel x y) {p : β → Prop} (hp : ∀ b, y = .ok b → p b) :
    Follows (fun a b => rel a b ∧ p b) x y := by
  cases h with
  | refused x why => exact .refused _ why
  | stopped stop => exact .stopped stop
  | ok h => exact .ok ⟨h, hp _ rfl⟩

/-! ### Words without requests -/

namespace Word

/-- How much more of the log a word asks for. -/
def requests : Word → Nat
  | long name none => if Switch.ofName? name = some .verbose then 1 else 0
  | short letters => letters.countP (Switch.ofLetter? · == some .verbose)
  | separator | long _ (some _) | plain _ => 0

/-- What is left of a word without the requests for more of the log, if anything is. -/
def besidesRequests? : Word → Option Word
  | long name none => if Switch.ofName? name = some .verbose then none else some (long name none)
  | short letters =>
    let left := letters.filter (Switch.ofLetter? · != some .verbose)
    if left = [] then none else some (short left)
  | separator => some separator
  | long name (some value) => some (long name (some value))
  | plain text => some (plain text)

/-- How much more of the log some words ask for together. -/
def requestsAmong (words : List Word) : Nat :=
  words.foldr (fun word n => word.requests + n) 0

end Word

/-- How much more of the log a command line asks for. -/
def requestsIn (words : List String) : Nat :=
  Word.requestsAmong ((options words).map Word.ofString)

/-- A command line without the requests for more of the log: what is left of the words before the
separator, and the words from the separator on. -/
def unheard (words : List String) : List Word × List String :=
  ((options words).filterMap fun word => (Word.ofString word).besidesRequests?,
    words.dropWhile (· != "--"))

namespace Reading

variable {q r c : Reading} {n : Nat}

/-! ### What does not depend on the count -/

/-- A step does the same with any count of the requests for more of the log, and leaves it. -/
def Ignores (f : Reading → Except Stop Reading) : Prop :=
  ∀ r n, f (r.withVerbosity n) = (f r).map (·.withVerbosity n)

theorem Ignores.bind {f g : Reading → Except Stop Reading} (hf : Ignores f) (hg : Ignores g) :
    Ignores fun r => f r >>= g := by
  intro r n
  show f (r.withVerbosity n) >>= g = (f r >>= g).map _
  rw [hf]
  cases f r with
  | error stop => rfl
  | ok r' => exact hg r' n

/-- The count is left as it was. -/
theorem Ignores.verbosity_eq {f : Reading → Except Stop Reading} (hf : Ignores f) {r' : Reading}
    (h : f r = .ok r') : r'.verbosity = r.verbosity := by
  have hsame := hf r r.verbosity
  have hr : r.withVerbosity r.verbosity = r := rfl
  rw [hr, h] at hsame
  have hr' : r' = r'.withVerbosity r.verbosity := Except.ok.inj hsame
  calc r'.verbosity
    _ = (r'.withVerbosity r.verbosity).verbosity := congrArg Reading.verbosity hr'
    _ = r.verbosity := rfl

theorem ignores_give (setting : Setting) : Ignores (give · setting) := by
  intro r n
  show (if setting ∈ r.given then _ else _) = Except.map _ (if setting ∈ r.given then _ else _)
  split
  · rfl
  · rfl

theorem ignores_giveColor (word : String) : Ignores (giveColor · word) := by
  refine (ignores_give .color).bind fun r n => ?_
  split
  · rfl
  · split
    · rfl
    · rfl

theorem ignores_giveInput (word : String) : Ignores (giveInput · word) := by
  by_cases h : word = ""
  · intro r n
    simp only [giveInput, if_pos h]
    rfl
  · have hgive := (ignores_give .input).bind
      (g := fun r => .ok { r with input := some word }) fun _ _ => rfl
    intro r n
    simp only [giveInput, if_neg h]
    exact hgive r n

theorem ignores_close : Ignores close := by
  intro r n
  obtain ⟨given, color, input, verbosity, openArgument, optionsEnded⟩ := r
  rcases openArgument with _ | (_ | word) | word
  · rfl
  · rfl
  · exact ignores_giveColor word ⟨given, color, input, verbosity, none, optionsEnded⟩ n
  · exact ignores_giveInput word ⟨given, color, input, verbosity, none, optionsEnded⟩ n

theorem ignores_readInput (word : String) : Ignores (readInput · word) := by
  have hopen := ignores_close.bind
    (g := fun r => .ok { r with openArgument := some (.input word) }) fun _ _ => rfl
  intro r n
  show (if r.hasInput then _ else _) = Except.map _ (if r.hasInput then _ else _)
  split
  · rfl
  · exact hopen r n

theorem ignores_apply {switch : Switch} (h : switch ≠ .verbose) : Ignores (apply · switch) := by
  refine ignores_close.bind ?_
  cases switch with
  | strict => exact ignores_give .strict
  | warnSkipped => exact ignores_give .warnSkipped
  | repl => exact ignores_give .repl
  | color => exact fun _ _ => rfl
  | verbose => exact absurd rfl h
  | help => exact fun _ _ => rfl
  | version => exact fun _ _ => rfl

theorem ignores_readLong {name : String} {value : Option String}
    (h : value = none → Switch.ofName? name ≠ some .verbose) : Ignores (readLong · name value) := by
  intro r n
  unfold readLong
  split
  · rfl
  · next switch hname =>
    exact ignores_apply (fun hverbose => h rfl (hverbose ▸ hname)) r n
  · exact ignores_close.bind (ignores_giveColor _) r n
  · rfl

theorem ignores_readLetter {letter : Char} (h : Switch.ofLetter? letter ≠ some .verbose) :
    Ignores (readLetter · letter) := by
  intro r n
  unfold readLetter
  split
  · rfl
  · next switch hletter =>
    exact ignores_apply (fun hverbose => h (hverbose ▸ hletter)) r n

theorem ignores_readPlain (text : String) : Ignores (readPlain · text) := by
  intro r n
  have hinput := ignores_readInput text r n
  obtain ⟨given, color, input, verbosity, openArgument, optionsEnded⟩ := r
  rcases openArgument with _ | (_ | word) | word
  · exact hinput
  · rfl
  · exact hinput
  · exact hinput

/-! ### Readings with and without the requests -/

/-- The reading `r` has counted `n` requests for more of the log, and `q` has read the same without
them. A request closes the argument before it, which may be open still in `q`. -/
structure Trails (n : Nat) (q r : Reading) : Prop where
  verbosity_eq : r.verbosity = min n mostVerbose
  close_eq : q = r.withVerbosity 0 ∨ (r.openArgument = none ∧ q.close = .ok (r.withVerbosity 0))

theorem trails_start : Trails 0 start start := ⟨rfl, .inl rfl⟩

namespace Trails

theorem optionsEnded_eq (h : Trails n q r) : q.optionsEnded = r.optionsEnded := by
  rcases h.close_eq with rfl | ⟨-, hclose⟩
  · rfl
  · exact (close_ok hclose).optionsEnded_eq.symm

/-- What ignores the requests, and can be done after closing as well as before, is done alike. -/
theorem follows (h : Trails n q r) {f : Reading → Except Stop Reading} (hf : Ignores f)
    (hclose : ∀ {q c : Reading}, q.close = .ok c → f c = f q) :
    Follows (Trails n) (f q) (f r) := by
  have hq : f q = (f r).map (·.withVerbosity 0) := by
    rcases h.close_eq with rfl | ⟨-, hq⟩
    · exact hf r 0
    · rw [← hclose hq, hf]
  rw [hq]
  cases hr : f r with
  | error stop => exact .stopped stop
  | ok r' => exact .ok ⟨(hf.verbosity_eq hr).trans h.verbosity_eq, .inl rfl⟩

/-- A request for more of the log is counted, and nothing else. -/
theorem apply_verbose (h : Trails n q r) :
    Follows (Trails (n + 1)) (.ok q) (r.apply .verbose) := by
  rcases close_ok_or_refuses r with ⟨c, hclose⟩ | hrefuses
  · -- What is open takes effect before the request in `r`, while `q` may leave it open.
    have hopen := openArgument_of_close hclose
    have hq : q.close = .ok (c.withVerbosity 0) := by
      rcases h.close_eq with rfl | ⟨hnone, hq⟩
      · rw [ignores_close, hclose]
        rfl
      · rw [close_eq_self hnone] at hclose
        cases hclose
        exact hq
    rw [← apply_of_close hclose, Reading.apply_verbose hopen]
    refine .ok ⟨?_, .inr ⟨hopen, hq⟩⟩
    show min (c.verbosity + 1) mostVerbose = _
    rw [ignores_close.verbosity_eq hclose, h.verbosity_eq]
    omega
  · obtain ⟨why, hwhy⟩ := refuses_apply hrefuses .verbose
    rw [hwhy]
    exact .refused _ why

/-- The letters of a bundle are read alike without those that are requests. -/
theorem readLetters (h : Trails n q r) (letters : List Char) :
    Follows (Trails (n + letters.countP (Switch.ofLetter? · == some .verbose)))
      ((letters.filter (Switch.ofLetter? · != some .verbose)).foldlM readLetter q)
      (letters.foldlM readLetter r) := by
  induction letters generalizing n q r with
  | nil => exact .ok h
  | cons letter letters ih =>
    rw [List.foldlM_cons]
    by_cases hletter : Switch.ofLetter? letter = some .verbose
    · have hread : r.readLetter letter = r.apply .verbose := by
        unfold readLetter
        rw [hletter]
      rw [List.filter_cons_of_neg (by simp [hletter]), List.countP_cons_of_pos (by simp [hletter]),
        hread, Nat.add_comm _ 1, ← Nat.add_assoc]
      exact h.apply_verbose.bind fun q r h => ih h
    · rw [List.filter_cons_of_pos (by simp [hletter]), List.countP_cons_of_neg (by simp [hletter]),
        List.foldlM_cons]
      exact (h.follows (ignores_readLetter hletter) fun hclose =>
        readLetter_of_close hclose letter).bind fun q r h => ih h

/-- A word before the separator is read alike without the requests in it. -/
theorem readAs (h : Trails n q r) {word : Word} (hseparator : word ≠ .separator) :
    Follows (Trails (n + word.requests))
      (match word.besidesRequests? with
        | none => .ok q
        | some word => q.readAs word)
      (r.readAs word) := by
  cases word with
  | separator => exact absurd rfl hseparator
  | long name value =>
    -- A request is a name without a value; with a value the same name is refused like any other.
    by_cases hverbose : value = none ∧ Switch.ofName? name = some .verbose
    · obtain ⟨rfl, hname⟩ := hverbose
      have hread : r.readAs (.long name none) = r.apply .verbose := by
        show r.readLong name none = _
        unfold readLong
        rw [hname]
      have hword : (Word.long name none).besidesRequests? = none := if_pos hname
      have hrequests : (Word.long name none).requests = 1 := if_pos hname
      rw [hread, hword, hrequests]
      exact h.apply_verbose
    · have hword : (Word.long name value).besidesRequests? = some (.long name value) := by
        cases value with
        | none => exact if_neg fun hname => hverbose ⟨rfl, hname⟩
        | some value => rfl
      have hrequests : (Word.long name value).requests = 0 := by
        cases value with
        | none => exact if_neg fun hname => hverbose ⟨rfl, hname⟩
        | some value => rfl
      rw [hword, hrequests]
      exact h.follows (ignores_readLong fun hnone hname => hverbose ⟨hnone, hname⟩)
        fun hclose => readLong_of_close hclose name value
  | short letters =>
    have hletters := h.readLetters letters
    by_cases hleft : letters.filter (Switch.ofLetter? · != some .verbose) = []
    · have hword : (Word.short letters).besidesRequests? = none := if_pos hleft
      rw [hleft] at hletters
      rw [hword]
      exact hletters
    · have hword : (Word.short letters).besidesRequests? =
          some (.short (letters.filter (Switch.ofLetter? · != some .verbose))) := if_neg hleft
      rw [hword]
      exact hletters
  | plain text =>
    exact h.follows (ignores_readPlain text) fun hclose => readPlain_of_close hclose text

/-- Words before the separator are read alike without the requests among them. -/
theorem readAll (h : Trails n q r) {words : List Word}
    (hwords : ∀ word ∈ words, word ≠ .separator) :
    Follows (Trails (n + Word.requestsAmong words))
      ((words.filterMap Word.besidesRequests?).foldlM Reading.readAs q)
      (words.foldlM Reading.readAs r) := by
  induction words generalizing n q r with
  | nil => exact .ok h
  | cons word words ih =>
    have hstep := h.readAs (hwords word (by simp))
    have hnext := fun {n q r} (h : Trails n q r) =>
      ih h fun word hword => hwords word (List.mem_cons_of_mem _ hword)
    rw [Word.requestsAmong, List.foldr_cons, ← Word.requestsAmong, ← Nat.add_assoc,
      List.foldlM_cons]
    cases hword : word.besidesRequests? with
    | none =>
      rw [List.filterMap_cons_none hword]
      rw [hword] at hstep
      exact hstep.bind fun q r h => hnext h
    | some left =>
      rw [List.filterMap_cons_some hword, List.foldlM_cons]
      rw [hword] at hstep
      exact hstep.bind fun q r h => hnext h

/-- Words after the separator are read alike. -/
theorem readInputs (h : Trails n q r) (words : List String) :
    Follows (Trails n) (words.foldlM readInput q) (words.foldlM readInput r) := by
  induction words generalizing q r with
  | nil => exact .ok h
  | cons word words ih =>
    rw [List.foldlM_cons, List.foldlM_cons]
    exact (h.follows (ignores_readInput word) fun hclose =>
      readInput_of_close hclose word).bind fun q r h => ih h

/-- The separator is read alike. -/
theorem ended (h : Trails n q r) :
    Trails n { q with optionsEnded := true } { r with optionsEnded := true } := by
  refine ⟨h.verbosity_eq, ?_⟩
  rcases h.close_eq with rfl | ⟨hopen, hclose⟩
  · exact .inl rfl
  · exact .inr ⟨hopen, close_ended hclose⟩

/-- A reading ends alike, but for the count. -/
theorem finish (h : Trails n q r) :
    Follows (fun s s' : Settings =>
      s'.verbosity = min n mostVerbose ∧ s = { s' with verbosity := 0 }) q.finish r.finish := by
  have hignores : (r.withVerbosity 0).finish =
      r.finish.map fun s : Settings => { s with verbosity := 0 } := by
    unfold Reading.finish
    rw [ignores_close]
    cases r.close with
    | error stop => rfl
    | ok c =>
      simp only [bind, Except.bind, Except.map, withVerbosity]
      cases firstOpposed? c.given <;> rfl
  have hq : q.finish = (r.withVerbosity 0).finish := by
    rcases h.close_eq with rfl | ⟨-, hclose⟩
    · rfl
    · exact (finish_of_close hclose).symm
  rw [hq, hignores]
  cases hr : r.finish with
  | error stop => exact .stopped stop
  | ok s =>
    -- Closing leaves the count, and the settings take it over.
    refine .ok ⟨?_, rfl⟩
    obtain ⟨c, hclose, hfinish⟩ := exists_of_bind hr
    split at hfinish
    · cases hfinish
    · cases hfinish
      exact (ignores_close.verbosity_eq hclose).trans h.verbosity_eq

end Trails

/-! ### Whole command lines -/

/-- Words without the separator leave the options open. -/
theorem optionsEnded_of_readWords {words : List String} (hwords : ∀ word ∈ words, word ≠ "--")
    {r' : Reading} (h : words.foldlM readWord r = .ok r') : r'.optionsEnded = r.optionsEnded := by
  induction words generalizing r with
  | nil =>
    cases h
    rfl
  | cons word words ih =>
    rw [List.foldlM_cons] at h
    obtain ⟨next, hword, h⟩ := exists_of_bind h
    rw [ih (fun w hw => hwords w (List.mem_cons_of_mem _ hw)) h, (readWord_ok hword).1]
    simp [hwords word (by simp)]

/-- Before the separator words are read as what they look like. -/
theorem readWords_eq_readAs (hended : r.optionsEnded = false) {words : List String}
    (hwords : ∀ word ∈ words, word ≠ "--") :
    words.foldlM readWord r = (words.map Word.ofString).foldlM readAs r := by
  induction words generalizing r with
  | nil => rfl
  | cons word words ih =>
    rw [List.map_cons, List.foldlM_cons, List.foldlM_cons, ← readWord_eq_readAs hended]
    cases hword : r.readWord word with
    | error stop => rfl
    | ok next =>
      have hnext : next.optionsEnded = false := by
        rw [(readWord_ok hword).1, hended]
        simp [hwords word (by simp)]
      exact ih hnext fun w hw => hwords w (List.mem_cons_of_mem _ hw)

/-- After the separator words are read as sources. -/
theorem readWords_eq_readInput (hended : r.optionsEnded = true) (words : List String) :
    words.foldlM readWord r = words.foldlM readInput r := by
  induction words generalizing r with
  | nil => rfl
  | cons word words ih =>
    have hread : r.readWord word = r.readInput word := if_pos hended
    rw [List.foldlM_cons, List.foldlM_cons, ← hread]
    cases hword : r.readWord word with
    | error stop => rfl
    | ok next =>
      refine ih ?_
      rw [(readWord_ok hword).1, hended, Bool.true_or]

/-- The words from the separator on are read alike. -/
theorem Trails.readWords (h : Trails n q r) (hended : r.optionsEnded = false)
    (words : List String) :
    let rest := words.dropWhile (· != "--")
    Follows (Trails n) (rest.foldlM readWord q) (rest.foldlM readWord r) := by
  intro rest
  have hhead := List.head?_dropWhile_not (· != "--") words
  have hsame : words.dropWhile (· != "--") = rest := rfl
  rw [hsame] at hhead
  cases hrest : rest with
  | nil => exact .ok h
  | cons word more =>
    rw [hrest] at hhead
    obtain rfl : word = "--" := by simpa using hhead
    have hseparator : ∀ r : Reading, r.optionsEnded = false →
        r.readWord "--" = .ok { r with optionsEnded := true } := by
      intro r hended
      rw [readWord_eq_readAs hended]
      rfl
    rw [List.foldlM_cons, List.foldlM_cons, hseparator r hended,
      hseparator q (h.optionsEnded_eq.trans hended)]
    show Follows _ (more.foldlM readWord { q with optionsEnded := true })
      (more.foldlM readWord { r with optionsEnded := true })
    rw [readWords_eq_readInput rfl, readWords_eq_readInput rfl]
    exact h.ended.readInputs more

end Reading

open Reading (Trails)

/-- What is read of a command line without the requests for more of the log. -/
def readUnheard (left : List Word × List String) : Except Stop Settings := do
  let q ← left.1.foldlM Reading.readAs Reading.start
  let q ← left.2.foldlM Reading.readWord q
  q.finish

/-- A command line is read like one without its requests for more of the log, which are counted. -/
theorem follows_readUnheard (words : List String) :
    Follows (fun s s' : Settings =>
        s'.verbosity = min (requestsIn words) mostVerbose ∧ s = { s' with verbosity := 0 })
      (readUnheard (unheard words)) (readArguments words) := by
  have hoptions : ∀ word ∈ options words, word ≠ "--" := by
    intro word hword
    simpa using List.all_eq_true.1 List.all_takeWhile word hword
  have hseparator : ∀ word ∈ (options words).map Word.ofString, word ≠ .separator := by
    intro word hword
    obtain ⟨text, htext, rfl⟩ := List.mem_map.1 hword
    exact fun h => hoptions text htext (Word.eq_of_text? (by rw [h]; rfl))
  have hbefore := Reading.trails_start.readAll hseparator
  rw [List.filterMap_map, Nat.zero_add, ← Reading.readWords_eq_readAs rfl hoptions] at hbefore
  have hended := hbefore.and fun r hr => Reading.optionsEnded_of_readWords hoptions hr
  have hwords : words.foldlM Reading.readWord .start =
      (options words).foldlM Reading.readWord .start >>= fun r =>
        (words.dropWhile (· != "--")).foldlM Reading.readWord r := by
    rw [← List.foldlM_append, options, List.takeWhile_append_dropWhile]
  unfold readArguments readUnheard
  rw [hwords, bind_assoc]
  exact hended.bind fun q r h => (h.1.readWords h.2 words).bind fun q r h => h.finish

/-- A command line is accepted: it asks for a run, for help or for the version. -/
def Accepted (words : List String) : Prop := ¬ Refuses (readArguments words)

/-- Two accepted command lines that differ only in their requests for more of the log ask for the
same, but for the counts of these. -/
theorem readArguments_of_unheard_eq {words words' : List String} (haccepted : Accepted words)
    (haccepted' : Accepted words') (h : unheard words = unheard words') :
    (∃ stop, readArguments words = .error stop ∧ readArguments words' = .error stop) ∨
    ∃ settings : Settings,
      readArguments words =
        .ok { settings with verbosity := min (requestsIn words) mostVerbose } ∧
      readArguments words' =
        .ok { settings with verbosity := min (requestsIn words') mostVerbose } := by
  have hfollows := follows_readUnheard words
  have hfollows' := follows_readUnheard words'
  rw [← h] at hfollows'
  -- Both lines follow the same one without requests.
  generalize readUnheard (unheard words) = x at hfollows hfollows'
  generalize hread : readArguments words = y at hfollows ⊢
  generalize hread' : readArguments words' = y' at hfollows' ⊢
  cases hfollows with
  | refused x why => exact absurd ⟨why, hread⟩ haccepted
  | stopped stop =>
    cases hfollows' with
    | refused x why => exact absurd ⟨why, hread'⟩ haccepted'
    | stopped stop => exact .inl ⟨stop, rfl, rfl⟩
  | @ok s settings hs =>
    cases hfollows' with
    | refused x why => exact absurd ⟨why, hread'⟩ haccepted'
    | @ok s settings' hs' =>
      obtain ⟨hcount, rfl⟩ := hs
      obtain ⟨hcount', hsame⟩ := hs'
      refine .inr ⟨settings, ?_, ?_⟩
      · rw [← hcount]
      · obtain ⟨mode, policy, color, verbosity⟩ := settings'
        rw [Settings.mk.injEq] at hsame
        obtain ⟨rfl, rfl, rfl, -⟩ := hsame
        rw [← hcount']

end SexprLexer.Command
