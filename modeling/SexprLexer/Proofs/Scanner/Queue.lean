import SexprLexer.Proofs.Scanner.Run
import SexprLexer.Scanner.Step

/-!
# A scanner is a queue of tokens

To its clients a scanner is a queue that holds the tokens of the source, whatever requests they
make and in whatever order. The scanner itself knows of no such list; it reads on when it is asked.
Main statements: a request is answered as from the list of the tokens that are left (`perform_eq`);
any sequence of requests gets the replies that the queue gives, and how far the scanner has read by
then depends only on the number of pulls that the queue counts (`performAll_refines`).
-/

namespace SexprLexer

/-- The reply to a request that is answered from the list of the tokens that are left. -/
def Scanner.Step.replyFrom (tokens : List Token) : Scanner.Step → Scanner.Step.Reply
  | .next => .token tokens.head?
  | .nth n => .token tokens[n]?
  | .take n => .tokens (tokens.take n)
  | .find kind text => .token (tokens.find? (Scanner.Step.wants kind text))
  | .count => .number tokens.length
  | .last => .token tokens.getLast?
  | .drain => .tokens tokens

/-- A queue of tokens, and the number of pulls made so far. -/
structure TokenQueue where
  left : List Token
  pulls : Nat

namespace TokenQueue

/-- A pull takes the first token off the queue, if there is one. -/
def pull (q : TokenQueue) : Option Token × TokenQueue :=
  (q.left.head?, ⟨q.left.tail, q.pulls + 1⟩)

theorem length_left_lt_of_pull {q after : TokenQueue} {token : Token}
    (h : q.pull = (some token, after)) : after.left.length < q.left.length := by
  obtain ⟨left, pulls⟩ := q
  cases left with
  | nil => cases h
  | cons first left =>
    cases h
    exact Nat.lt_succ_self _

/-- Pulls until nothing comes. -/
def drain (q : TokenQueue) : List Token × TokenQueue :=
  match h : q.pull with
  | (none, after) => ([], after)
  | (some token, after) =>
    have := length_left_lt_of_pull h
    let (tokens, last) := after.drain
    (token :: tokens, last)
termination_by q.left.length

/-- Pulls `n` times, or until nothing comes, and then once more if something did. -/
def nth (q : TokenQueue) : Nat → Option Token × TokenQueue
  | 0 => q.pull
  | n + 1 =>
    match q.pull with
    | (none, after) => (none, after)
    | (some _, after) => after.nth n

/-- Pulls `n` times, or until nothing comes. -/
def take (q : TokenQueue) : Nat → List Token × TokenQueue
  | 0 => ([], q)
  | n + 1 =>
    match q.pull with
    | (none, after) => ([], after)
    | (some token, after) =>
      let (tokens, last) := after.take n
      (token :: tokens, last)

/-- Pulls until what is wanted comes, or nothing. -/
def find (q : TokenQueue) (wanted : Token → Bool) : Option Token × TokenQueue :=
  match h : q.pull with
  | (none, after) => (none, after)
  | (some token, after) =>
    have := length_left_lt_of_pull h
    if wanted token then (some token, after) else after.find wanted
termination_by q.left.length

/-- The reply of a queue to a request, and the queue after it. -/
def perform (q : TokenQueue) : Scanner.Step → Scanner.Step.Reply × TokenQueue
  | .next => q.pull.map .token id
  | .nth n => (q.nth n).map .token id
  | .take n => (q.take n).map .tokens id
  | .find kind text => (q.find (Scanner.Step.wants kind text)).map .token id
  | .count => q.drain.map (fun tokens => .number tokens.length) id
  | .last => q.drain.map (fun tokens => .token tokens.getLast?) id
  | .drain => q.drain.map .tokens id

/-- The replies of a queue to a sequence of requests, and the queue after them. -/
def performAll (q : TokenQueue) : List Scanner.Step → List Scanner.Step.Reply × TokenQueue
  | [] => ([], q)
  | step :: steps =>
    let (reply, after) := q.perform step
    let (replies, last) := after.performAll steps
    (reply :: replies, last)

/-! ### Unfolding -/

theorem drain_of_none {q after : TokenQueue} (h : q.pull = (none, after)) :
    q.drain = ([], after) := by
  rw [drain]
  split
  · next h' =>
    rw [h, Prod.mk.injEq] at h'
    rw [h'.2]
  · next h' =>
    rw [h, Prod.mk.injEq] at h'
    cases h'.1

theorem drain_of_some {q after : TokenQueue} {token : Token} (h : q.pull = (some token, after)) :
    q.drain = (token :: after.drain.1, after.drain.2) := by
  rw [drain]
  split
  · next h' =>
    rw [h, Prod.mk.injEq] at h'
    cases h'.1
  · next h' =>
    rw [h, Prod.mk.injEq, Option.some.injEq] at h'
    rw [h'.1, h'.2]

theorem find_of_none {q after : TokenQueue} (wanted : Token → Bool)
    (h : q.pull = (none, after)) : q.find wanted = (none, after) := by
  rw [find]
  split
  · next h' =>
    rw [h, Prod.mk.injEq] at h'
    rw [h'.2]
  · next h' =>
    rw [h, Prod.mk.injEq] at h'
    cases h'.1

theorem find_of_some {q after : TokenQueue} {token : Token} (wanted : Token → Bool)
    (h : q.pull = (some token, after)) :
    q.find wanted = if wanted token then (some token, after) else after.find wanted := by
  rw [find]
  split
  · next h' =>
    rw [h, Prod.mk.injEq] at h'
    cases h'.1
  · next h' =>
    rw [h, Prod.mk.injEq, Option.some.injEq] at h'
    rw [h'.1, h'.2]

/-! ### What a queue gives -/

theorem pull_nil (pulls : Nat) : pull ⟨[], pulls⟩ = (none, ⟨[], pulls + 1⟩) := rfl

theorem pull_cons (token : Token) (left : List Token) (pulls : Nat) :
    pull ⟨token :: left, pulls⟩ = (some token, ⟨left, pulls + 1⟩) := rfl

/-- Draining a queue gives all that it holds, and takes one more pull to see that this is all. -/
theorem drain_eq (q : TokenQueue) :
    q.drain = (q.left, ⟨[], q.pulls + (q.left.length + 1)⟩) := by
  obtain ⟨left, pulls⟩ := q
  induction left generalizing pulls with
  | nil => exact drain_of_none (pull_nil pulls)
  | cons token left ih =>
    rw [drain_of_some (pull_cons token left pulls), ih, List.length_cons]
    have hpulls : pulls + 1 + (left.length + 1) = pulls + (left.length + 1 + 1) := by omega
    rw [hpulls]

/-- Taking tokens gives those at the front, and pulls in vain at most once. -/
theorem take_eq (q : TokenQueue) (n : Nat) :
    q.take n = (q.left.take n, ⟨q.left.drop n, q.pulls + min n (q.left.length + 1)⟩) := by
  obtain ⟨left, pulls⟩ := q
  induction n generalizing left pulls with
  | zero =>
    rw [take, List.take_zero, List.drop_zero, Nat.zero_min, Nat.add_zero]
  | succ n ih =>
    cases left with
    | nil =>
      have hmin : min (n + 1) (0 + 1) = 1 := by omega
      rw [take, pull_nil, List.take_nil, List.drop_nil, List.length_nil, hmin]
    | cons token left =>
      have hpulls : pulls + 1 + min n (left.length + 1) =
          pulls + min (n + 1) (left.length + 1 + 1) := by omega
      rw [take, pull_cons, List.take_succ_cons, List.drop_succ_cons, List.length_cons, ← hpulls]
      simp only [ih]

/-- Passing over tokens gives the one after them if the queue holds so many. -/
theorem nth_eq (q : TokenQueue) (n : Nat) :
    q.nth n =
      (q.left[n]?, ⟨q.left.drop (n + 1), q.pulls + min (n + 1) (q.left.length + 1)⟩) := by
  obtain ⟨left, pulls⟩ := q
  induction n generalizing left pulls with
  | zero =>
    have hmin : min (0 + 1) (left.length + 1) = 1 := by omega
    rw [nth, pull, hmin, List.head?_eq_getElem?, List.drop_one]
  | succ n ih =>
    cases left with
    | nil =>
      have hmin : min (n + 1 + 1) (0 + 1) = 1 := by omega
      rw [nth, pull_nil, List.getElem?_nil, List.drop_nil, List.length_nil, hmin]
    | cons token left =>
      have hpulls : pulls + 1 + min (n + 1) (left.length + 1) =
          pulls + min (n + 1 + 1) (left.length + 1 + 1) := by omega
      rw [nth, pull_cons, List.getElem?_cons_succ, List.drop_succ_cons, List.length_cons, ← hpulls]
      exact ih left (pulls + 1)

/-- Finding a token passes over all that are not wanted, and takes the first that is. -/
theorem find_eq (q : TokenQueue) (wanted : Token → Bool) :
    q.find wanted = (q.left.find? wanted,
      ⟨(q.left.dropWhile fun t => !wanted t).tail,
        q.pulls + ((q.left.takeWhile fun t => !wanted t).length + 1)⟩) := by
  obtain ⟨left, pulls⟩ := q
  induction left generalizing pulls with
  | nil => exact find_of_none wanted (pull_nil pulls)
  | cons token left ih =>
    rw [find_of_some wanted (pull_cons token left pulls)]
    cases hwanted : wanted token with
    | true =>
      rw [if_pos rfl, List.find?_cons_of_pos hwanted, List.dropWhile_cons, List.takeWhile_cons,
        hwanted]
      rfl
    | false =>
      have hpulls : ∀ n, pulls + 1 + (n + 1) = pulls + (n + 1 + 1) := fun n => by omega
      rw [if_neg Bool.false_ne_true, List.find?_cons_of_neg (by rw [hwanted]; decide),
        List.dropWhile_cons, List.takeWhile_cons, hwanted, ih, hpulls]
      rfl

/-- A queue answers every request from the list of the tokens that it holds. -/
theorem perform_eq (q : TokenQueue) (step : Scanner.Step) :
    (q.perform step).1 = step.replyFrom q.left := by
  cases step with
  | next => rfl
  | nth n =>
    rw [perform, nth_eq]
    rfl
  | take n =>
    rw [perform, take_eq]
    rfl
  | find kind text =>
    rw [perform, find_eq]
    rfl
  | count =>
    rw [perform, drain_eq]
    rfl
  | last =>
    rw [perform, drain_eq]
    rfl
  | drain =>
    rw [perform, drain_eq]
    rfl

end TokenQueue

namespace Scanner

/-- The replies to a sequence of requests, and the scanner after them. -/
def performAll (s : Scanner) : List Step → List Step.Reply × Scanner
  | [] => ([], s)
  | step :: steps =>
    let (reply, after) := s.perform step
    let (replies, last) := after.performAll steps
    (reply :: replies, last)

/-! ### Requests to both -/

/-- The scanner has come as far from `fresh` as the queue has counted pulls, and the queue holds
the tokens that are left. -/
structure Follows (fresh s : Scanner) (q : TokenQueue) : Prop where
  left_eq : q.left = s.drain.1
  eq_afterPulls : s = fresh.afterPulls q.pulls

namespace Follows

variable {fresh s : Scanner} {q : TokenQueue}

/-- A pull gives the same from both and leaves them together. -/
theorem pull (h : Follows fresh s q) :
    (∃ s' q', s.next = (none, s') ∧ q.pull = (none, q') ∧ Follows fresh s' q') ∨
      ∃ token s' q', s.next = (some token, s') ∧ q.pull = (some token, q') ∧
        Follows fresh s' q' := by
  obtain ⟨hhead, htail⟩ := drain_next s
  have hsame : q.pull.1 = s.next.1 := by rw [TokenQueue.pull, h.left_eq, hhead]
  have hafter : Follows fresh s.next.2 q.pull.2 := by
    refine ⟨?_, ?_⟩
    · rw [htail, TokenQueue.pull, h.left_eq]
    · exact congrArg (fun s => s.next.2) h.eq_afterPulls
  cases hnext : s.next.1 with
  | none => exact .inl ⟨_, _, Prod.ext hnext rfl, Prod.ext (hsame.trans hnext) rfl, hafter⟩
  | some token =>
    exact .inr ⟨token, _, _, Prod.ext hnext rfl, Prod.ext (hsame.trans hnext) rfl, hafter⟩

theorem nth (h : Follows fresh s q) (n : Nat) :
    (s.nth n).1 = (q.nth n).1 ∧ Follows fresh (s.nth n).2 (q.nth n).2 := by
  induction n generalizing s q with
  | zero =>
    rw [Scanner.nth, TokenQueue.nth]
    rcases h.pull with ⟨s', q', hs, hq, h'⟩ | ⟨token, s', q', hs, hq, h'⟩
    · rw [hs, hq]
      exact ⟨rfl, h'⟩
    · rw [hs, hq]
      exact ⟨rfl, h'⟩
  | succ n ih =>
    rw [Scanner.nth, TokenQueue.nth]
    rcases h.pull with ⟨s', q', hs, hq, h'⟩ | ⟨token, s', q', hs, hq, h'⟩
    · rw [hs, hq]
      exact ⟨rfl, h'⟩
    · rw [hs, hq]
      exact ih h'

theorem take (h : Follows fresh s q) (n : Nat) :
    (s.take n).1 = (q.take n).1 ∧ Follows fresh (s.take n).2 (q.take n).2 := by
  induction n generalizing s q with
  | zero => exact ⟨rfl, h⟩
  | succ n ih =>
    rw [Scanner.take, TokenQueue.take]
    rcases h.pull with ⟨s', q', hs, hq, h'⟩ | ⟨token, s', q', hs, hq, h'⟩
    · rw [hs, hq]
      exact ⟨rfl, h'⟩
    · rw [hs, hq]
      obtain ⟨hsame, hafter⟩ := ih h'
      exact ⟨congrArg (token :: ·) hsame, hafter⟩

theorem drain (h : Follows fresh s q) :
    s.drain.1 = q.drain.1 ∧ Follows fresh s.drain.2 q.drain.2 := by
  rw [TokenQueue.drain_eq]
  refine ⟨h.left_eq.symm, ?_, ?_⟩
  · show [] = s.drain.2.drain.1
    rw [drain_of_none (next_of_rest_eq_nil (rest_drain s))]
  · -- Draining is a run that goes one pull beyond the tokens that are left.
    show s.drain.2 = fresh.afterPulls (q.pulls + (q.left.length + 1))
    rw [afterPulls_add, ← h.eq_afterPulls, h.left_eq,
      afterPulls_of_length_lt (Nat.lt_succ_self _)]

theorem find (h : Follows fresh s q) (wanted : Token → Bool) :
    (s.find wanted).1 = (q.find wanted).1 ∧
      Follows fresh (s.find wanted).2 (q.find wanted).2 := by
  -- Each pull that gives a token leaves a shorter queue.
  induction hlength : q.left.length using Nat.strongRecOn generalizing s q with
  | ind n ih =>
    rcases h.pull with ⟨s', q', hs, hq, h'⟩ | ⟨token, s', q', hs, hq, h'⟩
    · rw [find_of_none wanted hs, TokenQueue.find_of_none wanted hq]
      exact ⟨rfl, h'⟩
    · have hlt := TokenQueue.length_left_lt_of_pull hq
      rw [find_of_some wanted hs, TokenQueue.find_of_some wanted hq]
      split
      · exact ⟨rfl, h'⟩
      · exact ih _ (hlength ▸ hlt) h' rfl

/-- Making replies of what both give keeps them together. -/
theorem map {α : Type} {a : α × Scanner} {b : α × TokenQueue} (reply : α → Step.Reply)
    (h : a.1 = b.1 ∧ Follows fresh a.2 b.2) :
    (a.map reply id).1 = (b.map reply id).1 ∧
      Follows fresh (a.map reply id).2 (b.map reply id).2 :=
  ⟨congrArg reply h.1, h.2⟩

/-- Every request gets the same reply from both and leaves them together. -/
theorem perform (h : Follows fresh s q) (step : Step) :
    (s.perform step).1 = (q.perform step).1 ∧
      Follows fresh (s.perform step).2 (q.perform step).2 := by
  cases step with
  | next => exact map .token (h.nth 0)
  | nth n => exact map .token (h.nth n)
  | take n => exact map .tokens (h.take n)
  | find kind text => exact map .token (h.find (Step.wants kind text))
  | count => exact map (fun tokens => .number tokens.length) h.drain
  | last => exact map (fun tokens => .token tokens.getLast?) h.drain
  | drain => exact map .tokens h.drain

/-- Every sequence of requests gets the same replies from both and leaves them together. -/
theorem performAll (h : Follows fresh s q) (steps : List Step) :
    (s.performAll steps).1 = (q.performAll steps).1 ∧
      Follows fresh (s.performAll steps).2 (q.performAll steps).2 := by
  induction steps generalizing s q with
  | nil => exact ⟨rfl, h⟩
  | cons step steps ih =>
    obtain ⟨hreply, hafter⟩ := h.perform step
    obtain ⟨hreplies, hlast⟩ := ih hafter
    rw [Scanner.performAll, TokenQueue.performAll]
    refine ⟨?_, hlast⟩
    show (s.perform step).1 :: _ = (q.perform step).1 :: _
    rw [hreply, hreplies]

end Follows

/-- A scanner answers every request from the list of the tokens that are left, though it never has
this list. -/
theorem perform_eq (s : Scanner) (step : Step) :
    (s.perform step).1 = step.replyFrom s.drain.1 := by
  have hstart : Follows s s ⟨s.drain.1, 0⟩ := ⟨rfl, rfl⟩
  rw [(hstart.perform step).1, TokenQueue.perform_eq]

/-! ### How far a scanner has read -/

/-- The offset at which a scanner stops that has made so many pulls from a source with the given
tokens: the beginning, the end of the token pulled last, or the end of the source. -/
def stopOf (source : String) (tokens : List Token) : Nat → Nat
  | 0 => 0
  | pulls + 1 =>
    match tokens[pulls]? with
    | some token => token.location.offset + Text.byteSize token.lexeme.toList
    | none => source.utf8ByteSize

/-- A pull that gives a token stops at the end of this token. -/
theorem position_of_next {s after : Scanner} {token : Token} (h : s.next = (some token, after)) :
    after.position = token.location.offset + Text.byteSize token.lexeme.toList := by
  obtain ⟨start, here, rest, skipped⟩ := s
  -- Characters are passed over until one of them begins the token.
  induction rest generalizing start here skipped with
  | nil =>
    rw [next_nil] at h
    cases h
  | cons c text ih =>
    cases hkind : Token.Kind.begunBy? c with
    | none =>
      rw [next_cons_of_none hkind] at h
      exact ih _ _ _ h
    | some kind =>
      rw [next_cons_of_some hkind] at h
      cases h
      rw [String.toList_ofList]
      rfl

/-- Where a scanner stops depends only on the number of pulls and on the tokens of the source. -/
theorem position_afterPulls (source : String) (filename : Option String) (pulls : Nat) :
    ((ofString source filename).afterPulls pulls).position =
      stopOf source (ofString source filename).drain.1 pulls := by
  cases pulls with
  | zero => rfl
  | succ pulls =>
    have hnext := (drain_next ((ofString source filename).afterPulls pulls)).1
    rw [drain_afterPulls, List.head?_drop] at hnext
    rw [stopOf]
    cases htoken : (ofString source filename).drain.1[pulls]? with
    | some token => exact position_of_next (Prod.ext (hnext.trans htoken) rfl)
    | none =>
      -- The run went beyond the last token, and so it has read everything.
      obtain ⟨found, hread, -⟩ := exists_hasRead_drain source filename
      rw [afterPulls_of_length_lt (Nat.lt_succ_of_le (List.getElem?_eq_none_iff.1 htoken)),
        hread.position_eq, ← Text.utf8ByteSize_ofList, String.ofList_toList]

namespace HasRead

variable {filename : Option String} {source read : List Char} {found : List Finding}
  {s : Scanner}

/-- Everything is read exactly if the cursor is at the end of the source. -/
theorem atEnd_iff (h : HasRead filename source read found s) :
    s.atEnd = true ↔ s.position = Text.byteSize source := by
  rw [atEnd, List.isEmpty_iff, h.position_eq, h.source_eq, Text.byteSize_append,
    ← Text.byteSize_eq_zero]
  omega

/-- The characters skipped so far are those of the whole source that stand before the cursor. -/
theorem skipped_eq_filter (h : HasRead filename source read found s) (n : Nat) :
    s.skipped = (s.afterPulls n).skipped.filter fun x => x.location.offset < s.position := by
  obtain ⟨more, new, hread, -, hnew⟩ := h.afterPulls n
  rw [hread.skipped_eq, Finding.skips_append, List.filter_append, h.skipped_eq, h.position_eq]
  -- What is found so far ends at the cursor or before it; what is found later begins there or after.
  have hbefore : ∀ x ∈ Finding.skips found,
      decide (x.location.offset < Text.byteSize read) = true := by
    intro x hx
    have hmem := Finding.mem_skips.1 hx
    have hlt := (h.reading.standsIn _ hmem).start_lt_stop
    have hle := h.reading.stop_le _ hmem
    exact decide_eq_true (Nat.lt_of_lt_of_le hlt hle)
  have hafter : ∀ x ∈ Finding.skips new,
      ¬ decide (x.location.offset < Text.byteSize read) = true := by
    intro x hx hlt
    have hle := hnew _ (Finding.mem_skips.1 hx)
    exact absurd (of_decide_eq_true hlt) (Nat.not_lt.2 hle)
  rw [List.filter_eq_self.2 hbefore, List.filter_eq_nil_iff.2 hafter, List.append_nil]

end HasRead

/-- Where everything is read, no sequence of requests changes anything. -/
theorem performAll_of_rest_eq_nil {s : Scanner} (h : s.rest = []) (steps : List Step) :
    (s.performAll steps).2 = s := by
  have hstart : Follows s s ⟨s.drain.1, 0⟩ := ⟨rfl, rfl⟩
  rw [(hstart.performAll steps).2.eq_afterPulls, afterPulls_of_rest_eq_nil h]

/-- Any sequence of requests to a scanner gets the replies of a queue that holds the tokens of the
source. How far the scanner has read, and what it has skipped, then depends only on the number of
pulls that the queue has counted: the scanner stops right after the last token that it gave, it has
skipped what stands before that, and beyond the last token nothing changes any more. -/
theorem performAll_refines (source : String) (filename : Option String) (steps : List Step) :
    let fresh := ofString source filename
    let tokens := fresh.drain.1
    let full := fresh.drain.2
    let s := (fresh.performAll steps).2
    let q := (TokenQueue.performAll ⟨tokens, 0⟩ steps).2
    (fresh.performAll steps).1 = (TokenQueue.performAll ⟨tokens, 0⟩ steps).1 ∧
    q.left = tokens.drop q.pulls ∧ s = fresh.afterPulls q.pulls ∧
    s.position = stopOf source tokens q.pulls ∧
    s.skipped <+: full.skipped ∧
    s.skipped = full.skipped.filter (fun x => x.location.offset < s.position) ∧
    (s.atEnd = true ↔ s.position = source.utf8ByteSize) ∧
    s.perform (.take 0) = (.tokens [], s) ∧
    (tokens.length < q.pulls → ∀ more, (s.performAll more).2 = s) := by
  intro fresh tokens full s q
  have hstart : Follows fresh fresh ⟨tokens, 0⟩ := ⟨rfl, rfl⟩
  obtain ⟨hreplies, hleft, hs⟩ := hstart.performAll steps
  replace hs : s = fresh.afterPulls q.pulls := hs
  obtain ⟨read, found, hread, -⟩ := exists_hasRead source filename q.pulls
  replace hread : HasRead filename source.toList read found s := hs ▸ hread
  -- The full run is what is left of it from here on.
  have hfull : full = s.afterPulls (s.drain.1.length + 1) := by
    rw [afterPulls_of_length_lt (Nat.lt_succ_self _), hs, drain_afterPulls]
  have hsize : source.utf8ByteSize = Text.byteSize source.toList := by
    rw [← Text.utf8ByteSize_ofList, String.ofList_toList]
  refine ⟨hreplies, ?_, hs, ?_, ?_, ?_, ?_, rfl, ?_⟩
  · rw [show q.left = s.drain.1 from hleft, hs, drain_afterPulls]
  · rw [hs]
    exact position_afterPulls source filename q.pulls
  · rw [hfull]
    exact skipped_isPrefix_afterPulls s _
  · rw [hfull]
    exact hread.skipped_eq_filter _
  · rw [hsize]
    exact hread.atEnd_iff
  · intro hlt more
    apply performAll_of_rest_eq_nil
    rw [hs, afterPulls_of_length_lt hlt]
    exact rest_drain fresh

end Scanner

end SexprLexer
