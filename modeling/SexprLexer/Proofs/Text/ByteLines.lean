import Mathlib.Data.List.TakeWhile
import SexprLexer.Text.Blank
import SexprLexer.Text.Lines

/-!
# Lines of bytes

A stream of bytes is read line by line, and each line is decoded and trimmed by itself. Main
statements: what the lines of a stream are, and that they are nothing else (`areLines_byteLines`,
`AreLines.eq_byteLines`); whole lines are read by themselves (`byteLines_append`), and one more line
is one more text (`byteLines_append_line`); a line feed within a text is one among its bytes
(`lineFeed_mem_dropLast`), so that a trimmed line holds none (`newline_not_mem_trim`); trimming
takes padding away (`trim_append`).
-/

namespace SexprLexer.Text

/-! ### Streams -/

/-- The lines of a stream of bytes: each goes up to and including the next line feed, which only the
last one may lack. -/
structure AreLines (bytes : List UInt8) (lines : List (List UInt8)) : Prop where
  flatten_eq : lines.flatten = bytes
  ne_nil : ∀ line ∈ lines, line ≠ []
  lineFeed_not_mem : ∀ line ∈ lines, lineFeed ∉ line.dropLast
  getLast?_eq : ∀ line ∈ lines.dropLast, line.getLast? = some lineFeed

namespace AreLines

variable {bytes : List UInt8} {lines : List (List UInt8)}

/-- A line feed before a stream is a line of its own. -/
theorem cons_lineFeed (h : AreLines bytes lines) :
    AreLines (lineFeed :: bytes) ([lineFeed] :: lines) where
  flatten_eq := by rw [List.flatten_cons, h.flatten_eq, List.singleton_append]
  ne_nil := by simpa using h.ne_nil
  lineFeed_not_mem := by simpa using h.lineFeed_not_mem
  getLast?_eq := by
    intro line hline
    cases lines with
    | nil => cases hline
    | cons first more =>
      rw [List.dropLast_cons_cons, List.mem_cons] at hline
      apply hline.elim
      · rintro rfl
        rfl
      · exact h.getLast?_eq line

/-- Any other byte before a stream belongs to the first line. -/
theorem cons_other {b : UInt8} (hb : b ≠ lineFeed) (h : AreLines bytes lines) :
    AreLines (b :: bytes) (consLine b lines) := by
  cases lines with
  | nil =>
    obtain rfl : [] = bytes := h.flatten_eq
    exact ⟨rfl, by simp [consLine], by simp [consLine], by simp [consLine]⟩
  | cons first more =>
    have hfirst : first ≠ [] := h.ne_nil first List.mem_cons_self
    refine ⟨?_, ?_, ?_, ?_⟩
    · rw [← h.flatten_eq]
      rfl
    · have hmore : ∀ line ∈ more, line ≠ [] := fun line hline =>
        h.ne_nil line (List.mem_cons_of_mem first hline)
      simpa [consLine] using hmore
    · intro line hline
      apply (List.mem_cons.1 hline).elim
      · rintro rfl
        rw [List.dropLast_cons_of_ne_nil hfirst, List.mem_cons, not_or]
        exact ⟨Ne.symm hb, h.lineFeed_not_mem first List.mem_cons_self⟩
      · exact fun hline => h.lineFeed_not_mem line (List.mem_cons_of_mem first hline)
    · intro line hline
      cases more with
      | nil => cases hline
      | cons second more =>
        have hdrop := h.getLast?_eq
        rw [List.dropLast_cons_cons] at hdrop
        rw [consLine, List.dropLast_cons_cons, List.mem_cons] at hline
        apply hline.elim
        · rintro rfl
          rw [List.getLast?_cons_of_ne_nil hfirst]
          exact hdrop first List.mem_cons_self
        · exact fun hline => hdrop line (List.mem_cons_of_mem first hline)

end AreLines

/-- A stream is read in lines. -/
theorem areLines_byteLines (bytes : List UInt8) : AreLines bytes (byteLines bytes) := by
  induction bytes with
  | nil => exact ⟨rfl, by simp [byteLines], by simp [byteLines], by simp [byteLines]⟩
  | cons b bytes ih =>
    rw [byteLines]
    split
    · next hb =>
      rw [hb]
      exact ih.cons_lineFeed
    · next hb => exact ih.cons_other hb

/-! ### Whole lines -/

/-- A stream leaves no line unfinished: it is empty, or a line feed is its last byte. -/
def IsWhole (bytes : List UInt8) : Prop := ∀ b ∈ bytes.getLast?, b = lineFeed

/-- There is a line in every stream that is not empty. -/
theorem byteLines_ne_nil {bytes : List UInt8} (h : bytes ≠ []) : byteLines bytes ≠ [] := by
  intro hnil
  have hflatten := (areLines_byteLines bytes).flatten_eq
  rw [hnil, List.flatten_nil] at hflatten
  exact h hflatten.symm

/-- What comes after whole lines is read by itself. -/
theorem byteLines_append {before : List UInt8} (h : IsWhole before) (after : List UInt8) :
    byteLines (before ++ after) = byteLines before ++ byteLines after := by
  induction before with
  | nil => rfl
  | cons b before ih =>
    by_cases hempty : before = []
    · subst hempty
      obtain rfl : b = lineFeed := h b rfl
      rfl
    · have hwhole : IsWhole before := by
        rwa [IsWhole, List.getLast?_cons_of_ne_nil hempty] at h
      rw [List.cons_append, byteLines, byteLines, ih hwhole]
      split
      · rfl
      · obtain ⟨line, lines, hlines⟩ := List.exists_cons_of_ne_nil (byteLines_ne_nil hempty)
        rw [hlines]
        rfl

/-- Bytes without a line feed are one line. -/
theorem byteLines_of_not_mem {content : List UInt8} (hne : content ≠ []) (h : lineFeed ∉ content) :
    byteLines content = [content] := by
  induction content with
  | nil => exact absurd rfl hne
  | cons b content ih =>
    rw [List.mem_cons, not_or] at h
    rw [byteLines, if_neg (Ne.symm h.1)]
    by_cases hcontent : content = []
    · rw [hcontent]
      rfl
    · rw [ih hcontent h.2, consLine]

/-- Bytes with a line feed at their end only are one line. -/
theorem byteLines_singleton {content : List UInt8} (h : lineFeed ∉ content) :
    byteLines (content ++ [lineFeed]) = [content ++ [lineFeed]] := by
  induction content with
  | nil => rfl
  | cons b content ih =>
    rw [List.mem_cons, not_or] at h
    rw [List.cons_append, byteLines, if_neg (Ne.symm h.1), ih h.2, consLine]

/-- There is one way to divide a stream into lines. -/
theorem AreLines.eq_byteLines {bytes : List UInt8} {lines : List (List UInt8)}
    (h : AreLines bytes lines) : lines = byteLines bytes := by
  -- The lines are taken off one by one, and each of them is read by itself.
  induction lines generalizing bytes with
  | nil =>
    rw [← h.flatten_eq]
    rfl
  | cons line lines ih =>
    have hne : line ≠ [] := h.ne_nil line List.mem_cons_self
    have hcontent : lineFeed ∉ line.dropLast := h.lineFeed_not_mem line List.mem_cons_self
    have hlast := List.dropLast_concat_getLast hne
    rw [← h.flatten_eq, List.flatten_cons]
    by_cases hfeed : line.getLast hne = lineFeed
    · have hwhole : IsWhole line := by
        intro b hb
        rw [List.getLast?_eq_some_getLast hne] at hb
        exact (Option.some.inj hb).symm.trans hfeed
      have hlines : AreLines lines.flatten lines := by
        refine ⟨rfl, fun other hother => h.ne_nil other (List.mem_cons_of_mem line hother),
          fun other hother => h.lineFeed_not_mem other (List.mem_cons_of_mem line hother),
          fun other hother => h.getLast?_eq other ?_⟩
        rw [List.dropLast_cons_of_ne_nil (List.ne_nil_of_mem (List.dropLast_subset lines hother))]
        exact List.mem_cons_of_mem line hother
      rw [hfeed] at hlast
      rw [byteLines_append hwhole, ← ih hlines, ← hlast, byteLines_singleton hcontent,
        List.singleton_append]
    · -- Only the last line may lack the line feed.
      have hnone : lines = [] := by
        by_contra hmore
        have hmem : line ∈ (line :: lines).dropLast := by
          rw [List.dropLast_cons_of_ne_nil hmore]
          exact List.mem_cons_self
        have hend := h.getLast?_eq line hmem
        rw [List.getLast?_eq_some_getLast hne] at hend
        exact hfeed (Option.some.inj hend)
      have hbytes : lineFeed ∉ line := by
        rw [← hlast, List.mem_append, List.mem_singleton, not_or]
        exact ⟨hcontent, Ne.symm hfeed⟩
      rw [hnone, List.flatten_nil, List.append_nil, byteLines_of_not_mem hne hbytes]

/-! ### Texts -/

/-- The bytes of a text. -/
def encode (text : List Char) : List UInt8 := text.flatMap String.utf8EncodeChar

/-- The bytes of a text are decoded to this text. -/
theorem fromUTF8?_encode (text : List Char) :
    String.fromUTF8? (encode text).toByteArray = some (String.ofList text) := by
  have hvalid : (encode text).toByteArray.IsValidUTF8 := ByteArray.isValidUTF8_utf8Encode
  rw [String.fromUTF8?, dif_pos hvalid]
  refine congrArg some (String.toByteArray_inj.1 ?_)
  rw [String.toByteArray_ofList]
  rfl

/-- The line feed is a byte of no other character. -/
theorem lineFeed_not_mem_utf8EncodeChar {c : Char} (h : c ≠ '\n') :
    lineFeed ∉ String.utf8EncodeChar c := by
  have hvalue : c.val.toNat ≠ 10 := fun heq => h (Char.ext (UInt32.toNat_inj.1 heq))
  -- All bytes of a character beyond ASCII have their highest bit set.
  have hbyte : ∀ n : Nat, n % 256 ≠ 10 → lineFeed ≠ UInt8.ofNat n := by
    intro n hn heq
    have hnat := congrArg UInt8.toNat heq
    rw [UInt8.toNat_ofNat'] at hnat
    exact hn hnat.symm
  simp only [String.utf8EncodeChar]
  generalize c.val.toNat = value at hvalue ⊢
  split
  · rw [List.mem_singleton]
    exact hbyte _ (by omega)
  · split
    · rw [List.mem_cons, List.mem_singleton, not_or]
      exact ⟨hbyte _ (by omega), hbyte _ (by omega)⟩
    · split
      · rw [List.mem_cons, List.mem_cons, List.mem_singleton, not_or, not_or]
        exact ⟨hbyte _ (by omega), hbyte _ (by omega), hbyte _ (by omega)⟩
      · rw [List.mem_cons, List.mem_cons, List.mem_cons, List.mem_singleton, not_or, not_or, not_or]
        exact ⟨hbyte _ (by omega), hbyte _ (by omega), hbyte _ (by omega), hbyte _ (by omega)⟩

/-- A text without line feeds has none among its bytes. -/
theorem lineFeed_not_mem_encode {text : List Char} (h : '\n' ∉ text) :
    lineFeed ∉ encode text := by
  intro hmem
  obtain ⟨c, hc, hbyte⟩ := List.mem_flatMap.1 hmem
  refine lineFeed_not_mem_utf8EncodeChar ?_ hbyte
  rintro rfl
  exact h hc

/-- The bytes of a text and of the line feed after it are one line after whole lines. -/
theorem byteLines_append_line {before : List UInt8} (hbefore : IsWhole before) {text : List Char}
    (htext : '\n' ∉ text) (after : List UInt8) :
    byteLines (before ++ encode (text ++ ['\n']) ++ after) =
      byteLines before ++ encode (text ++ ['\n']) :: byteLines after := by
  have hline : encode (text ++ ['\n']) = encode text ++ [lineFeed] := by
    rw [encode, List.flatMap_append, encode]
    rfl
  have hwhole : IsWhole (encode text ++ [lineFeed]) := by
    intro b hb
    rw [List.getLast?_concat] at hb
    exact (Option.some.inj hb).symm
  rw [List.append_assoc, byteLines_append hbefore, hline, byteLines_append hwhole,
    byteLines_singleton (lineFeed_not_mem_encode htext), List.singleton_append]

/-- A text that is decoded is what the bytes encode. -/
theorem flatMap_utf8EncodeChar {line : List UInt8} {text : String}
    (h : String.fromUTF8? line.toByteArray = some text) :
    text.toList.flatMap String.utf8EncodeChar = line := by
  have hbytes : text.toByteArray = line.toByteArray := by
    unfold String.fromUTF8? at h
    split at h
    · cases h
      rfl
    · cases h
  rw [← String.ofList_toList (s := text), String.toByteArray_ofList, List.utf8Encode] at hbytes
  rw [← List.toList_data_toByteArray (l := line), ← hbytes, List.toList_data_toByteArray]

/-- A line feed that is not the last character of a text is one of its bytes, and not the last. -/
theorem lineFeed_mem_dropLast {line : List UInt8} {text : String}
    (h : String.fromUTF8? line.toByteArray = some text) (hmem : '\n' ∈ text.toList.dropLast) :
    lineFeed ∈ line.dropLast := by
  obtain ⟨before, after, hsplit⟩ := List.append_of_mem hmem
  have hne : text.toList ≠ [] := by
    intro hnil
    rw [hnil] at hmem
    cases hmem
  have hlast := List.dropLast_concat_getLast hne
  generalize text.toList.getLast hne = last at hlast
  have hencoded : String.utf8EncodeChar '\n' = [lineFeed] := by decide
  have hmore : after.flatMap String.utf8EncodeChar ++ String.utf8EncodeChar last ≠ [] :=
    List.append_ne_nil_of_right_ne_nil _ String.utf8EncodeChar_ne_nil
  rw [← flatMap_utf8EncodeChar h, ← hlast, hsplit, List.flatMap_append, List.flatMap_append,
    List.flatMap_cons, hencoded, List.flatMap_singleton, List.append_assoc, List.append_assoc,
    List.singleton_append, List.dropLast_append_of_ne_nil (by simp),
    List.dropLast_cons_of_ne_nil hmore]
  simp

/-- Trimming takes something away at both ends only. -/
theorem exists_eq_append_trim (text : List Char) :
    ∃ before after, text = before ++ trim text ++ after := by
  refine ⟨text.takeWhile isBlank, ((text.dropWhile isBlank).reverse.takeWhile isBlank).reverse, ?_⟩
  rw [trim, List.append_assoc, ← List.reverse_append, List.takeWhile_append_dropWhile,
    List.reverse_reverse, List.takeWhile_append_dropWhile]

/-- A trimmed text does not end in a blank character. -/
theorem isBlank_getLast?_trim {text : List Char} {c : Char} (h : (trim text).getLast? = some c) :
    isBlank c = false := by
  rw [trim, List.getLast?_reverse] at h
  have hhead := List.head?_dropWhile_not isBlank (text.dropWhile isBlank).reverse
  rw [h] at hhead
  exact hhead

/-- A text that ends with its first line feed holds none when it is trimmed. -/
theorem newline_not_mem_trim {text : List Char} (h : '\n' ∉ text.dropLast) :
    '\n' ∉ trim text := by
  intro hmem
  obtain ⟨read, more, htrim⟩ := List.append_of_mem hmem
  obtain ⟨before, after, htext⟩ := exists_eq_append_trim text
  -- The line feed is not the last character of what is left, since this is not blank.
  have hmore : more ≠ [] := by
    rintro rfl
    have hlast : (trim text).getLast? = some '\n' := by
      rw [htrim]
      simp
    exact absurd (isBlank_getLast?_trim hlast) (by decide)
  apply h
  have hne : more ++ after ≠ [] := List.append_ne_nil_of_left_ne_nil hmore after
  rw [htext, htrim, List.append_assoc, List.append_assoc, List.cons_append,
    List.dropLast_append_of_ne_nil (by simp), List.dropLast_append_of_ne_nil (by simp),
    List.dropLast_cons_of_ne_nil hne]
  simp

/-! ### Padding -/

/-- Blank characters that do not end the line. -/
def IsPadding (text : List Char) : Prop := ∀ c ∈ text, isBlank c = true ∧ c ≠ '\n'

/-- Blank characters around a text do not count. -/
theorem trim_append {left right : List Char} (hleft : ∀ c ∈ left, isBlank c = true)
    (hright : ∀ c ∈ right, isBlank c = true) (text : List Char) :
    trim (left ++ text ++ right) = trim text := by
  have hreverse : ∀ c ∈ right.reverse, isBlank c = true :=
    fun c hc => hright c (List.mem_reverse.1 hc)
  unfold trim
  rw [List.append_assoc, List.dropWhile_append_of_pos hleft, List.dropWhile_append]
  split
  · next hempty =>
    rw [List.isEmpty_iff.1 hempty, List.dropWhile_eq_nil_iff.2 hright]
  · rw [List.reverse_append, List.dropWhile_append_of_pos hreverse]

end SexprLexer.Text
