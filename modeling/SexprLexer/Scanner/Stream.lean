import SexprLexer.Scanner.Basic

/-!
# A scanner as a stream of tokens

Ways to take more than one token from a scanner. Each of them is so many pulls in a row and leaves
the scanner right after the last of them, so that the tokens not asked for are still to come.
-/

namespace SexprLexer.Scanner

/-- Every token that is left. -/
def drain (s : Scanner) : List Token × Scanner :=
  match h : s.next with
  | (none, after) => ([], after)
  | (some token, after) =>
    have := length_rest_lt_of_next h
    let (tokens, atEnd) := after.drain
    (token :: tokens, atEnd)
termination_by s.rest.length

/-- Every pull that is left, up to and including the one that finds no token. -/
def pulls (s : Scanner) : List Pull :=
  match h : s.next with
  | (none, _) => [s.pull]
  | (some _, after) =>
    have := length_rest_lt_of_next h
    s.pull :: after.pulls
termination_by s.rest.length

/-- What happens during every pull that is left. -/
def events (s : Scanner) : List ScanEvent := s.pulls.flatMap (·.events)

/-- Passes over `n` tokens and gives the one after them; stops where the tokens end. -/
def nth (s : Scanner) : Nat → Option Token × Scanner
  | 0 => s.next
  | n + 1 =>
    match s.next with
    | (none, after) => (none, after)
    | (some _, after) => after.nth n

/-- At most `n` tokens; stops where the tokens end. -/
def take (s : Scanner) : Nat → List Token × Scanner
  | 0 => ([], s)
  | n + 1 =>
    match s.next with
    | (none, after) => ([], after)
    | (some token, after) =>
      let (tokens, last) := after.take n
      (token :: tokens, last)

/-- The first token with the property `wanted`, passing over those before it. -/
def find (s : Scanner) (wanted : Token → Bool) : Option Token × Scanner :=
  match h : s.next with
  | (none, after) => (none, after)
  | (some token, after) =>
    have := length_rest_lt_of_next h
    if wanted token then (some token, after) else after.find wanted
termination_by s.rest.length

/-- How many tokens are left. -/
def count (s : Scanner) : Nat × Scanner :=
  let (tokens, after) := s.drain
  (tokens.length, after)

/-- The last token that is left. -/
def last (s : Scanner) : Option Token × Scanner :=
  let (tokens, after) := s.drain
  (tokens.getLast?, after)

/-! ### Draining -/

/-- Draining a scanner that has no token left. -/
theorem drain_of_none {s after : Scanner} (h : s.next = (none, after)) :
    s.drain = ([], after) := by
  rw [drain]
  split
  · next h' => rw [h, Prod.mk.injEq] at h'; rw [h'.2]
  · next h' => simp [h] at h'

/-- Draining a scanner that has a token left. -/
theorem drain_of_some {s after : Scanner} {token : Token} (h : s.next = (some token, after)) :
    s.drain = (token :: after.drain.1, after.drain.2) := by
  rw [drain]
  split
  · next h' => simp [h] at h'
  · next h' =>
    rw [h, Prod.mk.injEq, Option.some.injEq] at h'
    rw [h'.1, h'.2]

/-! ### All pulls -/

/-- Where no token is left, one pull sees this. -/
theorem pulls_of_none {s after : Scanner} (h : s.next = (none, after)) : s.pulls = [s.pull] := by
  rw [pulls]
  split
  · rfl
  · next h' => simp [h] at h'

/-- Where a token is left, other pulls come after the one that gives it. -/
theorem pulls_of_some {s after : Scanner} {token : Token} (h : s.next = (some token, after)) :
    s.pulls = s.pull :: after.pulls := by
  rw [pulls]
  split
  · next h' => simp [h] at h'
  · next h' =>
    rw [h, Prod.mk.injEq] at h'
    rw [h'.2]

/-! ### Finding -/

/-- Nothing is found where no token is left. -/
theorem find_of_none {s after : Scanner} (wanted : Token → Bool) (h : s.next = (none, after)) :
    s.find wanted = (none, after) := by
  rw [find]
  split
  · next h' =>
    rw [h, Prod.mk.injEq] at h'
    rw [h'.2]
  · next h' =>
    rw [h, Prod.mk.injEq] at h'
    cases h'.1

/-- The next token is found if it is wanted. -/
theorem find_of_some {s after : Scanner} {token : Token} (wanted : Token → Bool)
    (h : s.next = (some token, after)) :
    s.find wanted = if wanted token then (some token, after) else after.find wanted := by
  rw [find]
  split
  · next h' =>
    rw [h, Prod.mk.injEq] at h'
    cases h'.1
  · next h' =>
    rw [h, Prod.mk.injEq, Option.some.injEq] at h'
    rw [h'.1, h'.2]

end SexprLexer.Scanner
