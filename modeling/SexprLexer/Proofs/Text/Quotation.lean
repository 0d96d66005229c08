import SexprLexer.Proofs.Log.Lines
import SexprLexer.Proofs.Text.Rows

/-!
# Quoted texts can be told apart

Between quotation marks a character is written as itself or by an escape, and escapes are of
different lengths. Still it can be read back, whatever comes after it. Main statements: what was
quoted is read from the quotation (`unescape?_escape_append`), so that a quoted text is told from
the beginning of any text (`quote_append_inj`); nothing that is quoted shows a control character or
a separator of lines or paragraphs (`staysOnLine_of_mem_quote`).
-/

namespace SexprLexer.Text

/-! ### Numbers of characters -/

/-- The number that a hexadecimal digit stands for. -/
def digitValue (c : Char) : Nat :=
  if c.isDigit then c.toNat - '0'.toNat else c.toNat - 'a'.toNat + 10

/-- The number with the given hexadecimal digits. -/
def hexValue (digits : List Char) : Nat :=
  digits.foldl (fun n c => 16 * n + digitValue c) 0

theorem hexValue_append_singleton (digits : List Char) (c : Char) :
    hexValue (digits ++ [c]) = 16 * hexValue digits + digitValue c := by
  rw [hexValue, List.foldl_append]
  rfl

/-- A number is read back from its digits. -/
theorem hexValue_toDigits (n : Nat) : hexValue (Nat.toDigits 16 n) = n := by
  have hdigit : ∀ d < 16, digitValue d.digitChar = d := by decide
  -- The last digit is that of the remainder; the others are those of the quotient.
  induction n using Nat.strongRecOn with
  | ind n ih =>
    by_cases hn : n < 16
    · rw [Nat.toDigits_of_lt_base hn]
      show 16 * 0 + digitValue n.digitChar = n
      rw [hdigit n hn, Nat.mul_zero, Nat.zero_add]
    · have hmod : n % 16 < 16 := Nat.mod_lt n (by decide)
      rw [Nat.toDigits_of_base_le (by decide) (by omega), hexValue_append_singleton,
        ih (n / 16) (by omega), hdigit _ hmod]
      omega

/-- The brace that ends the number of a character is no digit. -/
theorem brace_not_mem_hexDigits (c : Char) : '}' ∉ hexDigits c := by
  have hdigit : ∀ d < 16, '}' ≠ d.digitChar := by decide
  intro hmem
  obtain ⟨d, hd, heq⟩ := exists_digitChar_of_mem_toDigits hmem
  exact hdigit d hd heq

/-! ### Reading what is quoted -/

/-- The character that is written first between quotation marks, and what comes after it. -/
def unescape? : List Char → Option (Char × List Char)
  | [] => none
  | '\\' :: '0' :: rest => some ('\x00', rest)
  | '\\' :: 't' :: rest => some ('\t', rest)
  | '\\' :: 'r' :: rest => some ('\r', rest)
  | '\\' :: 'n' :: rest => some ('\n', rest)
  | '\\' :: 'u' :: '{' :: rest =>
    some (Char.ofNat (hexValue (rest.takeWhile (· != '}'))), (rest.dropWhile (· != '}')).tail)
  | '\\' :: c :: rest => some (c, rest)
  | c :: rest => some (c, rest)

/-- The short form of a control character, the number of one that does not show, and a character
after a backslash. -/
example : unescape? ['\\', 'n', 'n'] = some ('\n', ['n']) := by decide

example : unescape? ['\\', 'u', '{', '2', '0', '0', 'b', '}', '}'] = some ('\u200b', ['}']) := by
  decide

example : unescape? ['\\', '\\', 'n'] = some ('\\', ['n']) := by decide

/-- A character that is no backslash stands for itself. -/
theorem unescape?_of_ne {c : Char} (h : c ≠ '\\') (rest : List Char) :
    unescape? (c :: rest) = some (c, rest) := by
  unfold unescape?
  split <;> simp_all

/-- The number of a character is read up to the brace that ends it. -/
theorem unescape?_hexDigits (c : Char) (rest : List Char) :
    unescape? ('\\' :: 'u' :: '{' :: (hexDigits c ++ '}' :: rest)) = some (c, rest) := by
  have hdigits : ∀ d ∈ hexDigits c, (d != '}') = true := by
    intro d hd
    rw [bne_iff_ne]
    rintro rfl
    exact brace_not_mem_hexDigits c hd
  have htake : (hexDigits c ++ '}' :: rest).takeWhile (· != '}') = hexDigits c := by
    rw [List.takeWhile_append_of_pos hdigits]
    simp
  have hdrop : (hexDigits c ++ '}' :: rest).dropWhile (· != '}') = '}' :: rest := by
    rw [List.dropWhile_append_of_pos hdigits]
    simp
  have hread : unescape? ('\\' :: 'u' :: '{' :: (hexDigits c ++ '}' :: rest)) =
      some (Char.ofNat (hexValue ((hexDigits c ++ '}' :: rest).takeWhile (· != '}'))),
        ((hexDigits c ++ '}' :: rest).dropWhile (· != '}')).tail) := rfl
  rw [hread, htake, hdrop, hexDigits, hexValue_toDigits, Char.ofNat_toNat, List.tail_cons]

variable {mark : Char}

/-- What is written for a character is read as this character, whatever comes after it. -/
theorem unescape?_escape_append (hmark : mark = charMark ∨ mark = textMark) (c : Char)
    (rest : List Char) : unescape? (escape mark c ++ rest) = some (c, rest) := by
  unfold escape
  split
  · next h => rw [h]; rfl
  split
  · next h => rw [h]; rfl
  split
  · next h => rw [h]; rfl
  split
  · next h => rw [h]; rfl
  split
  · next h =>
    rcases h with rfl | rfl
    · rfl
    · rcases hmark with rfl | rfl
      · rfl
      · rfl
  · next hmarked =>
    rw [not_or] at hmarked
    split
    · rw [List.append_assoc]
      exact unescape?_hexDigits c rest
    · exact unescape?_of_ne hmarked.1 rest

/-- What is written for a character does not begin with a quotation mark. -/
theorem head?_escape_ne (hmark : mark = charMark ∨ mark = textMark) (c : Char)
    (rest rest' : List Char) : mark :: rest ≠ escape mark c ++ rest' := by
  intro heq
  have hne : mark ≠ '\\' := by rcases hmark with rfl | rfl <;> decide
  have hread := congrArg unescape? heq
  rw [unescape?_escape_append hmark, unescape?_of_ne hne, Option.some.injEq, Prod.mk.injEq] at hread
  obtain ⟨rfl, rfl⟩ := hread
  have hescape : escape mark mark = ['\\', mark] := by rcases hmark with rfl | rfl <;> decide
  rw [hescape] at heq
  exact hne (List.cons.inj heq).1

/-- A quoted text ends at its second quotation mark, and holds what was quoted. -/
theorem quote_append_inj (hmark : mark = charMark ∨ mark = textMark)
    {text text' rest rest' : List Char} :
    quote mark text ++ rest = quote mark text' ++ rest' ↔ text = text' ∧ rest = rest' := by
  refine ⟨fun heq => ?_, fun ⟨htext, hrest⟩ => by rw [htext, hrest]⟩
  have hbody : text.flatMap (escape mark) ++ mark :: rest =
      text'.flatMap (escape mark) ++ mark :: rest' := by
    simpa [quote] using heq
  clear heq
  -- One character after the other is read from both.
  induction text generalizing text' with
  | nil =>
    cases text' with
    | nil => exact ⟨rfl, (List.cons.inj hbody).2⟩
    | cons d text' =>
      rw [List.flatMap_cons, List.append_assoc] at hbody
      exact absurd hbody (head?_escape_ne hmark d _ _)
  | cons c text ih =>
    cases text' with
    | nil =>
      rw [List.flatMap_cons, List.append_assoc] at hbody
      exact absurd hbody.symm (head?_escape_ne hmark c _ _)
    | cons d text' =>
      rw [List.flatMap_cons, List.flatMap_cons, List.append_assoc, List.append_assoc] at hbody
      have hread := congrArg unescape? hbody
      rw [unescape?_escape_append hmark, unescape?_escape_append hmark, Option.some.injEq,
        Prod.mk.injEq] at hread
      obtain ⟨rfl, htail⟩ := hread
      obtain ⟨rfl, hrest⟩ := ih htail
      exact ⟨rfl, hrest⟩

/-- A text is told from its quotation. -/
theorem quoteText_append_inj {text text' : String} {rest rest' : List Char} :
    (quoteText text).toList ++ rest = (quoteText text').toList ++ rest' ↔
      text = text' ∧ rest = rest' := by
  rw [quoteText, quoteText, String.toList_ofList, String.toList_ofList,
    quote_append_inj (.inr rfl), String.toList_inj]

/-- A character is told from its quotation. -/
theorem quoteChar_inj {c d : Char} : quoteChar c = quoteChar d ↔ c = d := by
  have hquote : quote charMark [c] ++ [] = quote charMark [d] ++ [] ↔ [c] = [d] ∧ _ :=
    quote_append_inj (.inl rfl)
  rw [List.append_nil, List.append_nil] at hquote
  rw [quoteChar, quoteChar, String.ofList_inj, hquote]
  simp

/-! ### Texts on one line -/

/-- Whether `c` is a control character. -/
def isControl (c : Char) : Bool :=
  decide (c.toNat < 0x20) || decide (0x7f ≤ c.toNat ∧ c.toNat < 0xa0)

/-- Whether `c` separates lines or paragraphs. -/
def isSeparator (c : Char) : Bool := c == '\u2028' || c == '\u2029'

/-- A text without control characters and without separators of lines and paragraphs. -/
def StaysOnLine (text : String) : Prop :=
  ∀ c ∈ text.toList, isControl c = false ∧ isSeparator c = false

instance (text : String) : Decidable (StaysOnLine text) := List.decidableBAll _ text.toList

/-- A printed character is neither among the first control characters nor the one that deletes. -/
theorem toNat_of_isPrinted {c : Char} (h : isPrinted c = true) :
    0x20 ≤ c.toNat ∧ c.toNat ≠ 0x7f := by
  obtain ⟨hblank, hdelete⟩ := of_decide_eq_true h
  refine ⟨UInt32.le_iff_toNat_le.1 hblank, fun heq => hdelete (Char.toNat_inj.1 ?_)⟩
  rw [heq]
  rfl

/-- A character that shows, and is none of those with short forms, stays on its line. -/
theorem staysOnLine_of_not_isUnprintable {c : Char} (hprinted : isPrinted c = true)
    (h : isUnprintable c = false) : isControl c = false ∧ isSeparator c = false := by
  obtain ⟨hblank, -⟩ := toNat_of_isPrinted hprinted
  have htable : ∀ code < 0xa0, 0x7f ≤ code → inRanges code unprintableRanges = true := by decide
  have hlisted : c.toNat < 0xa0 → ¬ 0x7f ≤ c.toNat := by
    intro hlt hle
    rw [isUnprintable, htable c.toNat hlt hle] at h
    cases h
  refine ⟨by simp [isControl]; omega, ?_⟩
  have hne : ∀ d, isUnprintable d = true → c ≠ d := by
    rintro d hd rfl
    rw [h] at hd
    cases hd
  simp [isSeparator, hne '\u2028' (by decide +kernel), hne '\u2029' (by decide +kernel)]

/-- A printed character of ASCII stays on its line. -/
theorem staysOnLine_of_lt {c : Char} (hprinted : isPrinted c = true) (h : c.toNat < 0x80) :
    isControl c = false ∧ isSeparator c = false := by
  obtain ⟨hblank, hdelete⟩ := toNat_of_isPrinted hprinted
  refine ⟨by simp [isControl]; omega, ?_⟩
  have hne : ∀ d : Char, 0x80 ≤ d.toNat → c ≠ d := by
    rintro d hd rfl
    omega
  simp [isSeparator, hne '\u2028' (by decide), hne '\u2029' (by decide)]

/-- A character that shows stands for itself, and all that stands for any other one is ASCII. -/
theorem escape_eq_self_or (hmark : mark = charMark ∨ mark = textMark) (c : Char) :
    (escape mark c = [c] ∧ isUnprintable c = false) ∨ ∀ d ∈ escape mark c, d.toNat < 0x80 := by
  unfold escape
  split
  · exact .inr (by simp)
  split
  · exact .inr (by simp)
  split
  · exact .inr (by simp)
  split
  · exact .inr (by simp)
  split
  · next h =>
    refine .inr ?_
    rcases h with rfl | rfl
    · simp
    · rcases hmark with rfl | rfl <;> simp [charMark, textMark]
  split
  · have hdigit : ∀ d < 16, d.digitChar.toNat < 0x80 := by decide
    have hopen : ∀ d ∈ ['\\', 'u', '{'], d.toNat < 0x80 := by simp
    refine .inr fun d hd => ?_
    rcases List.mem_append.1 hd with hd | hd
    · rcases List.mem_append.1 (show d ∈ ['\\', 'u', '{'] ++ hexDigits c from hd) with hd | hd
      · exact hopen d hd
      · obtain ⟨n, hn, rfl⟩ := exists_digitChar_of_mem_toDigits hd
        exact hdigit n hn
    · rw [List.mem_singleton.1 hd]
      decide
  · next hshows => exact .inl ⟨rfl, Bool.eq_false_iff.2 hshows⟩

/-- What is quoted stays on its line. -/
theorem staysOnLine_of_mem_quote (hmark : mark = charMark ∨ mark = textMark) {text : List Char}
    {d : Char} (h : d ∈ quote mark text) : isControl d = false ∧ isSeparator d = false := by
  have hprintedMark : isPrinted mark = true := by rcases hmark with rfl | rfl <;> decide
  have hprinted := isPrinted_of_mem_quote hprintedMark h
  have hmarkLine : isControl mark = false ∧ isSeparator mark = false := by
    rcases hmark with rfl | rfl <;> decide
  simp only [quote, List.mem_append, List.mem_cons, List.not_mem_nil, or_false,
    List.mem_flatMap] at h
  rcases h with (rfl | ⟨c, -, hd⟩) | rfl
  · exact hmarkLine
  · rcases escape_eq_self_or hmark c with ⟨hself, hshows⟩ | hascii
    · rw [hself, List.mem_singleton] at hd
      rw [← hd] at hshows
      exact staysOnLine_of_not_isUnprintable hprinted hshows
    · exact staysOnLine_of_lt hprinted (hascii d hd)
  · exact hmarkLine

namespace StaysOnLine

variable {text more : String}

theorem append (h : StaysOnLine text) (h' : StaysOnLine more) : StaysOnLine (text ++ more) := by
  intro c hc
  rw [String.toList_append, List.mem_append] at hc
  exact hc.elim (h c) (h' c)

theorem toString (n : Nat) : StaysOnLine (toString n) := by
  intro c hc
  have hdigit := isDigit_of_mem_toString hc
  have hlast := (Char.isDigit_iff_toNat.1 hdigit).2
  exact staysOnLine_of_lt (isPrinted_of_isDigit hdigit) (Nat.lt_of_le_of_lt hlast (by decide))

theorem quoteChar (c : Char) : StaysOnLine (quoteChar c) := by
  intro d hd
  rw [Text.quoteChar, String.toList_ofList] at hd
  exact staysOnLine_of_mem_quote (.inl rfl) hd

theorem quoteText (text : String) : StaysOnLine (quoteText text) := by
  intro d hd
  rw [Text.quoteText, String.toList_ofList] at hd
  exact staysOnLine_of_mem_quote (.inr rfl) hd

/-- A line feed is a control character. -/
theorem newline_not_mem (h : StaysOnLine text) : '\n' ∉ text.toList :=
  fun hmem => absurd (h '\n' hmem).1 (by decide)

end StaysOnLine

end SexprLexer.Text
