import SexprLexer.Text.Bytes

/-!
# Slices between byte offsets

A byte offset marks a place in a text only if it lies between two characters. Cutting a text at an
offset, and taking the slice between two offsets, give nothing anywhere else. Main statements: the
slice from `start` to `stop` is `part` exactly if the text is `part` with `start` bytes before it,
and `stop` is where `part` ends (`slice?_eq_some_iff`); where one text is divided in two ways,
sizes in bytes tell how its parts lie to each other (`append_eq_append_of_byteSize_le`).
-/

namespace SexprLexer.Text

/-- Divides a text after its first `n` bytes, unless it has fewer or a character goes on there. -/
def cut? : Nat → List Char → Option (List Char × List Char)
  | 0, text => some ([], text)
  | _ + 1, [] => none
  | n + 1, c :: text =>
    if c.utf8Size ≤ n + 1 then
      (cut? (n + 1 - c.utf8Size) text).map fun parts => (c :: parts.1, parts.2)
    else none

/-- What a text holds from the offset `start` up to the offset `stop`, unless one of them lies
within a character or beyond the end, or they are in the wrong order. -/
def slice? (text : List Char) (start stop : Nat) : Option (List Char) :=
  if start ≤ stop then
    (cut? start text).bind fun parts => (cut? (stop - start) parts.2).map (·.1)
  else none

/-- Only the empty text takes no bytes. -/
theorem byteSize_eq_zero {text : List Char} : byteSize text = 0 ↔ text = [] := by
  constructor
  · intro h
    have hlen := length_le_byteSize text
    exact List.length_eq_zero_iff.1 (by omega)
  · rintro rfl
    rfl

/-- Cutting a text takes its first character off if there are bytes enough to come. -/
theorem cut?_cons (c : Char) (n : Nat) (text : List Char) :
    cut? (c.utf8Size + n) (c :: text) =
      (cut? n text).map fun parts => (c :: parts.1, parts.2) := by
  have hpos := c.utf8Size_pos
  cases hsize : c.utf8Size + n with
  | zero => omega
  | succ m =>
    have hleft : m + 1 - c.utf8Size = n := by omega
    rw [cut?, if_pos (by omega), hleft]

/-- A text that is put together from two parts is cut apart between them. -/
theorem cut?_append (before after : List Char) :
    cut? (byteSize before) (before ++ after) = some (before, after) := by
  induction before with
  | nil => rw [byteSize_nil, List.nil_append, cut?]
  | cons c before ih => rw [byteSize_cons, List.cons_append, cut?_cons, ih, Option.map_some]

/-- Cutting a text at an offset takes apart what the text was put together from. -/
theorem cut?_eq_some_iff {n : Nat} {text before after : List Char} :
    cut? n text = some (before, after) ↔ text = before ++ after ∧ byteSize before = n := by
  constructor
  · intro h
    fun_induction cut? n text generalizing before with
    | case1 text =>
      cases h
      exact ⟨rfl, rfl⟩
    | case2 n => cases h
    | case3 n c text hle ih =>
      obtain ⟨⟨first, last⟩, hcut, heq⟩ := Option.map_eq_some_iff.1 h
      cases heq
      obtain ⟨htext, hsize⟩ := ih hcut
      refine ⟨by rw [htext, List.cons_append], ?_⟩
      rw [byteSize_cons, hsize]
      omega
    | case4 n c text hgt => cases h
  · rintro ⟨rfl, rfl⟩
    exact cut?_append before after

/-- The slice between two offsets is the part of the text that begins at the one and ends at the
other. -/
theorem slice?_eq_some_iff {text part : List Char} {start stop : Nat} :
    slice? text start stop = some part ↔
      ∃ before after, text = before ++ part ++ after ∧ byteSize before = start ∧
        start + byteSize part = stop := by
  rw [slice?]
  constructor
  · intro h
    split at h
    · next hle =>
      obtain ⟨⟨before, later⟩, hbefore, h⟩ := Option.bind_eq_some_iff.1 h
      obtain ⟨⟨_, after⟩, hpart, heq⟩ := Option.map_eq_some_iff.1 h
      dsimp only at hpart heq
      subst heq
      obtain ⟨htext, hstart⟩ := cut?_eq_some_iff.1 hbefore
      obtain ⟨hlater, hsize⟩ := cut?_eq_some_iff.1 hpart
      refine ⟨before, after, ?_, hstart, by omega⟩
      rw [htext, hlater, List.append_assoc]
    · cases h
  · rintro ⟨before, after, htext, hstart, hstop⟩
    rw [List.append_assoc] at htext
    have hbefore : cut? start text = some (before, part ++ after) :=
      cut?_eq_some_iff.2 ⟨htext, hstart⟩
    have hpart : cut? (stop - start) (part ++ after) = some (part, after) :=
      cut?_eq_some_iff.2 ⟨rfl, by omega⟩
    rw [if_pos (by omega), hbefore, Option.bind_some, hpart, Option.map_some]

/-- A slice within multi-byte text, at places between its characters. -/
example : slice? ['a', 'λ', '(', 'é'] 1 4 = some ['λ', '('] := by decide

/-- There is no slice that begins within a character. -/
example : slice? ['a', 'λ', '(', 'é'] 2 4 = none := by decide

/-- The slice from the beginning of a text up to an offset is what comes before this offset. -/
theorem slice?_zero_eq_some {text before after : List Char} (h : text = before ++ after) :
    slice? text 0 (byteSize before) = some before :=
  slice?_eq_some_iff.2 ⟨[], after, h, rfl, Nat.zero_add _⟩

/-! ### The characters of a text and their offsets -/

/-- The characters of a text, each with the offset at which it stands if the text begins at
`start`. -/
def offsets (start : Nat) : List Char → List (Nat × Char)
  | [] => []
  | c :: text => (start, c) :: offsets (start + c.utf8Size) text

/-! ### Two ways to divide one text -/

/-- A character of a text that is put together from two parts stands in the first or in the second
of them. -/
theorem append_eq_append_cons {first second before after : List Char} {c : Char}
    (h : first ++ second = before ++ c :: after) :
    (∃ later, first = before ++ c :: later) ∨
      ∃ inner, before = first ++ inner ∧ second = inner ++ c :: after := by
  rcases List.append_eq_append_iff.1 h with ⟨inner, hbefore, hsecond⟩ | ⟨inner, hfirst, hafter⟩
  · exact .inr ⟨inner, hbefore, hsecond⟩
  · cases inner with
    | nil => exact .inr ⟨[], by rw [hfirst, List.append_nil, List.append_nil], hafter.symm⟩
    | cons d later =>
      rw [List.cons_append] at hafter
      obtain ⟨rfl, -⟩ := List.cons.inj hafter
      exact .inl ⟨later, hfirst⟩

/-- Of two beginnings of one text, the one with fewer bytes is a beginning of the other. -/
theorem append_eq_append_of_byteSize_le {first second before after : List Char}
    (h : first ++ second = before ++ after) (hle : byteSize first ≤ byteSize before) :
    ∃ inner, before = first ++ inner ∧ second = inner ++ after := by
  rcases List.append_eq_append_iff.1 h with ⟨inner, hbefore, hsecond⟩ | ⟨inner, hfirst, hafter⟩
  · exact ⟨inner, hbefore, hsecond⟩
  · have hinner : inner = [] := by
      rw [hfirst, byteSize_append] at hle
      exact byteSize_eq_zero.1 (by omega)
    subst hinner
    exact ⟨[], by rw [hfirst, List.append_nil, List.append_nil], hafter.symm⟩

end SexprLexer.Text
