import SexprLexer.Text.Blank
import SexprLexer.Token

/-!
# Lexemes

What a token is made of, said without the scanner: a parenthesis, or a run of identifier
characters that the text after it does not go on with. Main statements: the kind of the tokens
that begin with a character is decided by the classes of the grammar (`begunBy?_eq_none_iff`,
`begunBy?_eq_identifier_iff`); what the scanner takes for a token is a lexeme (`isLexeme_span`),
and where a lexeme stands the scanner takes just this (`IsLexeme.exists_span`).
-/

namespace SexprLexer

/-- Whether `c` belongs to a token wherever it stands. -/
def isTokenCharacter (c : Char) : Bool :=
  isLeftParen c || isRightParen c || isIdentifierSubsequent c

namespace Token.Kind

/-! ### The classes of the grammar -/

/-- Only `(` begins an opening parenthesis. -/
theorem begunBy?_eq_leftParen_iff {c : Char} : begunBy? c = some leftParen ↔ c = '(' := by
  rw [begunBy?]
  constructor
  · intro h
    split at h
    · next hc => exact beq_iff_eq.1 hc
    · split at h
      · cases h
      · split at h <;> cases h
  · rintro rfl
    rfl

/-- Only `)` begins a closing parenthesis. -/
theorem begunBy?_eq_rightParen_iff {c : Char} : begunBy? c = some rightParen ↔ c = ')' := by
  rw [begunBy?]
  constructor
  · intro h
    split at h
    · cases h
    · split at h
      · next hc => exact beq_iff_eq.1 hc
      · split at h <;> cases h
  · rintro rfl
    rfl

/-- An identifier begins with any character that one may go on with. -/
theorem begunBy?_eq_identifier_iff {c : Char} :
    begunBy? c = some identifier ↔ isIdentifierSubsequent c = true := by
  constructor
  · intro h
    rw [begunBy?] at h
    split at h
    · cases h
    · split at h
      · cases h
      · split at h
        · next hc =>
          rcases Bool.or_eq_true_iff.1 hc with hinitial | hsubsequent
          · exact isIdentifierSubsequent_of_initial hinitial
          · exact hsubsequent
        · cases h
  · intro h
    -- A parenthesis is no identifier character, so the first two branches are not taken.
    have hleft : ¬ isLeftParen c = true := by
      intro hc
      rw [beq_iff_eq.1 hc] at h
      exact absurd h (by decide)
    have hright : ¬ isRightParen c = true := by
      intro hc
      rw [beq_iff_eq.1 hc] at h
      exact absurd h (by decide)
    rw [begunBy?, if_neg hleft, if_neg hright, if_pos (by rw [h, Bool.or_true])]

/-- The characters that begin no token are those that belong to none. -/
theorem begunBy?_eq_none_iff {c : Char} : begunBy? c = none ↔ isTokenCharacter c = false := by
  constructor
  · intro h
    rw [← Bool.not_eq_true, isTokenCharacter, Bool.or_eq_true, Bool.or_eq_true]
    rintro ((hc | hc) | hc)
    · rw [begunBy?_eq_leftParen_iff.2 (beq_iff_eq.1 hc)] at h
      cases h
    · rw [begunBy?_eq_rightParen_iff.2 (beq_iff_eq.1 hc)] at h
      cases h
    · rw [begunBy?_eq_identifier_iff.2 hc] at h
      cases h
  · intro h
    rw [isTokenCharacter, Bool.or_eq_false_iff, Bool.or_eq_false_iff] at h
    obtain ⟨⟨hleft, hright⟩, hsubsequent⟩ := h
    cases hkind : begunBy? c with
    | none => rfl
    | some kind =>
      cases kind with
      | leftParen =>
        rw [begunBy?_eq_leftParen_iff.1 hkind] at hleft
        cases hleft
      | rightParen =>
        rw [begunBy?_eq_rightParen_iff.1 hkind] at hright
        cases hright
      | identifier =>
        rw [begunBy?_eq_identifier_iff.1 hkind] at hsubsequent
        cases hsubsequent

end Token.Kind

/-- A character that belongs to no token belongs to no identifier. -/
theorem isIdentifierSubsequent_eq_false {c : Char} (h : isTokenCharacter c = false) :
    isIdentifierSubsequent c = false := by
  rw [isTokenCharacter, Bool.or_eq_false_iff] at h
  exact h.2

/-- The characters of identifiers lie within ASCII. -/
theorem toNat_lt_of_isIdentifierSubsequent {c : Char} (h : isIdentifierSubsequent c = true) :
    c.toNat < 128 := by
  refine Nat.lt_of_not_le fun hle => ?_
  rw [isIdentifierSubsequent, AsciiSet.contains_of_le _ hle] at h
  cases h

/-- A character of an identifier takes one byte. -/
theorem utf8Size_of_isIdentifierSubsequent {c : Char} (h : isIdentifierSubsequent c = true) :
    c.utf8Size = 1 := by
  have hascii := toNat_lt_of_isIdentifierSubsequent h
  rw [Char.utf8Size_eq_one_iff, UInt32.le_iff_toNat_le]
  exact Nat.le_of_lt_succ hascii

/-- No character of a token is blank. -/
theorem isBlank_eq_false {c : Char} (h : isTokenCharacter c = true) : Text.isBlank c = false := by
  rw [isTokenCharacter, Bool.or_eq_true, Bool.or_eq_true] at h
  rcases h with (h | h) | h
  · rw [beq_iff_eq.1 h]
    decide
  · rw [beq_iff_eq.1 h]
    decide
  · -- An identifier character is one of 128 code points, and each of them can be looked up.
    have hcodes : ∀ code < 128, identifierSubsequents.bits.getLsbD code = true →
        Text.inRanges code Text.blankRanges = false := by decide +kernel
    exact hcodes c.toNat (toNat_lt_of_isIdentifierSubsequent h) h

/-- Between quotation marks a character of a token is written as it is. -/
theorem escape_eq_singleton {c : Char} (h : isTokenCharacter c = true) :
    Text.escape Text.textMark c = [c] := by
  rw [isTokenCharacter, Bool.or_eq_true, Bool.or_eq_true] at h
  rcases h with (h | h) | h
  · rw [beq_iff_eq.1 h]
    decide
  · rw [beq_iff_eq.1 h]
    decide
  · -- The code points with a form of their own are null, tab, line feed, return, `"` and the backslash.
    have hcodes : ∀ code < 128, identifierSubsequents.bits.getLsbD code = true →
        code ∉ [0, 9, 10, 13, 34, 92] ∧ Text.inRanges code Text.unprintableRanges = false := by
      decide +kernel
    obtain ⟨hcode, hprintable⟩ := hcodes c.toNat (toNat_lt_of_isIdentifierSubsequent h) h
    have hne : ∀ d : Char, d.toNat ∈ [0, 9, 10, 13, 34, 92] → c ≠ d := by
      rintro d hd rfl
      exact hcode hd
    have hmarks : ¬ (c = '\\' ∨ c = Text.textMark) :=
      not_or.2 ⟨hne _ (by decide), hne _ (by decide)⟩
    have hshows : ¬ Text.isUnprintable c = true := by rw [Text.isUnprintable, hprintable]; decide
    unfold Text.escape
    rw [if_neg (hne _ (by decide)), if_neg (hne _ (by decide)), if_neg (hne _ (by decide)),
      if_neg (hne _ (by decide)), if_neg hmarks, if_neg hshows]

/-- Between quotation marks a text made of characters of tokens is written as it is. -/
theorem quoteText_eq {text : String} (h : ∀ c ∈ text.toList, isTokenCharacter c = true) :
    Text.quoteText text = "\"" ++ text ++ "\"" := by
  have hescape : text.toList.flatMap (Text.escape Text.textMark) = text.toList := by
    generalize text.toList = chars at h
    induction chars with
    | nil => rfl
    | cons c chars ih =>
      rw [List.flatMap_cons, escape_eq_singleton (h c List.mem_cons_self),
        ih fun d hd => h d (List.mem_cons_of_mem c hd), List.singleton_append]
  unfold Text.quoteText Text.quote
  rw [hescape]
  apply String.toList_injective
  simp [Text.textMark]

/-! ### Lexemes where they stand -/

/-- Whether `text` goes on with an identifier that comes before it. -/
def GoesOn (text : List Char) : Prop := ∃ c ∈ text.head?, isIdentifierSubsequent c = true

/-- The characters `lexeme` are a token of the kind `kind` where `rest` comes after them. -/
inductive IsLexeme : Token.Kind → (lexeme rest : List Char) → Prop
  | leftParen (rest : List Char) : IsLexeme .leftParen ['('] rest
  | rightParen (rest : List Char) : IsLexeme .rightParen [')'] rest
  | identifier {run rest : List Char} (hne : run ≠ [])
      (hrun : ∀ c ∈ run, isIdentifierSubsequent c = true) (hstop : ¬ GoesOn rest) :
      IsLexeme .identifier run rest

/-- Nothing goes on where a text ends. -/
theorem not_goesOn_nil : ¬ GoesOn [] := by
  rintro ⟨c, hc, -⟩
  cases hc

/-- What remains after the longest run of identifier characters does not go on with it. -/
theorem not_goesOn_dropWhile (text : List Char) :
    ¬ GoesOn (text.dropWhile isIdentifierSubsequent) := by
  rintro ⟨c, hc, hsubsequent⟩
  have hhead := List.head?_dropWhile_not isIdentifierSubsequent text
  rw [Option.mem_def.1 hc] at hhead
  rw [hhead] at hsubsequent
  cases hsubsequent

/-- Where nothing goes on with an identifier there is no run of identifier characters. -/
theorem takeWhile_eq_nil_of_not_goesOn {text : List Char} (h : ¬ GoesOn text) :
    text.takeWhile isIdentifierSubsequent = [] := by
  cases text with
  | nil => rfl
  | cons c text =>
    have hc : ¬ isIdentifierSubsequent c = true := fun hc => h ⟨c, rfl, hc⟩
    rw [List.takeWhile_cons, if_neg hc]

/-- The scanner takes a whole lexeme for a token. -/
theorem isLexeme_span {c : Char} {kind : Token.Kind} (h : Token.Kind.begunBy? c = some kind)
    (text : List Char) : IsLexeme kind (c :: (kind.span text).1) (kind.span text).2 := by
  cases kind with
  | leftParen =>
    rw [Token.Kind.begunBy?_eq_leftParen_iff.1 h]
    exact .leftParen text
  | rightParen =>
    rw [Token.Kind.begunBy?_eq_rightParen_iff.1 h]
    exact .rightParen text
  | identifier =>
    refine .identifier (List.cons_ne_nil _ _) ?_ (not_goesOn_dropWhile text)
    intro d hd
    rcases List.mem_cons.1 hd with rfl | hd
    · exact Token.Kind.begunBy?_eq_identifier_iff.1 h
    · exact List.all_eq_true.1 List.all_takeWhile d hd

namespace IsLexeme

variable {kind : Token.Kind} {lexeme rest : List Char}

/-- Where a lexeme stands the scanner takes just this lexeme for a token. -/
theorem exists_span (h : IsLexeme kind lexeme rest) :
    ∃ c further, lexeme = c :: further ∧ Token.Kind.begunBy? c = some kind ∧
      kind.span (further ++ rest) = (further, rest) := by
  cases h with
  | leftParen rest => exact ⟨'(', [], rfl, rfl, rfl⟩
  | rightParen rest => exact ⟨')', [], rfl, rfl, rfl⟩
  | @identifier run rest hne hrun hstop =>
    obtain ⟨c, further, rfl⟩ := List.exists_cons_of_ne_nil hne
    have hfurther : ∀ d ∈ further, isIdentifierSubsequent d = true :=
      fun d hd => hrun d (List.mem_cons_of_mem c hd)
    refine ⟨c, further, rfl, ?_, ?_⟩
    · exact Token.Kind.begunBy?_eq_identifier_iff.2 (hrun c List.mem_cons_self)
    · have htaken : (further ++ rest).takeWhile isIdentifierSubsequent = further := by
        rw [List.takeWhile_append_of_pos hfurther, takeWhile_eq_nil_of_not_goesOn hstop,
          List.append_nil]
      -- What is left is determined by what is taken, since the two make up the whole.
      have hleft : (further ++ rest).dropWhile isIdentifierSubsequent = rest := by
        have hwhole := List.takeWhile_append_dropWhile (p := isIdentifierSubsequent)
          (l := further ++ rest)
        rw [htaken] at hwhole
        exact List.append_cancel_left hwhole
      rw [Token.Kind.span, htaken, hleft]

theorem ne_nil (h : IsLexeme kind lexeme rest) : lexeme ≠ [] := by
  obtain ⟨c, further, rfl, -, -⟩ := h.exists_span
  exact List.cons_ne_nil c further

/-- A lexeme holds nothing but characters of tokens. -/
theorem isTokenCharacter_of_mem (h : IsLexeme kind lexeme rest) :
    ∀ c ∈ lexeme, isTokenCharacter c = true := by
  intro c hc
  cases h with
  | leftParen rest =>
    rw [List.mem_singleton.1 hc]
    rfl
  | rightParen rest =>
    rw [List.mem_singleton.1 hc]
    rfl
  | identifier hne hrun hstop => rw [isTokenCharacter, hrun c hc, Bool.or_true]

/-- At most one lexeme begins at a place of a text. -/
theorem unique {kind' : Token.Kind} {lexeme' rest' : List Char} (h : IsLexeme kind lexeme rest)
    (h' : IsLexeme kind' lexeme' rest') (htext : lexeme ++ rest = lexeme' ++ rest') :
    kind = kind' ∧ lexeme = lexeme' ∧ rest = rest' := by
  obtain ⟨c, further, rfl, hkind, hspan⟩ := h.exists_span
  obtain ⟨c', further', rfl, hkind', hspan'⟩ := h'.exists_span
  -- The first character decides the kind, and with it how far the lexeme goes.
  rw [List.cons_append, List.cons_append] at htext
  obtain ⟨rfl, hfurther⟩ := List.cons.inj htext
  rw [hkind, Option.some.injEq] at hkind'
  subst hkind'
  rw [hfurther, hspan', Prod.mk.injEq] at hspan
  obtain ⟨rfl, rfl⟩ := hspan
  exact ⟨rfl, rfl, rfl⟩

/-- No lexeme begins within another one, unless an identifier goes on there. -/
theorem eq_nil_of_begins_within {kind' : Token.Kind} {before rest' inner more further : List Char}
    {c : Char} (h : IsLexeme kind lexeme rest) (h' : IsLexeme kind' (c :: further) rest')
    (hbefore : kind' = .identifier →
      ∀ d ∈ (before ++ inner).getLast?, isIdentifierSubsequent d = false)
    (hlexeme : lexeme = inner ++ c :: more) : inner = [] := by
  cases h with
  | leftParen rest =>
    obtain ⟨hinner, -⟩ | ⟨-, hmore⟩ := List.singleton_eq_append_iff.1 hlexeme
    · exact hinner
    · cases hmore
  | rightParen rest =>
    obtain ⟨hinner, -⟩ | ⟨-, hmore⟩ := List.singleton_eq_append_iff.1 hlexeme
    · exact hinner
    · cases hmore
  | identifier hne hrun hstop =>
    subst hlexeme
    have hc : isIdentifierSubsequent c = true := hrun c (by simp)
    have hkind : kind' = .identifier := by
      obtain ⟨d, further', hcons, hbegun, -⟩ := h'.exists_span
      obtain ⟨rfl, -⟩ := List.cons.inj hcons
      rw [Token.Kind.begunBy?_eq_identifier_iff.2 hc, Option.some.injEq] at hbegun
      exact hbegun.symm
    -- The last character of `inner` belongs to the run and would go on with the lexeme after it.
    rcases List.eq_nil_or_concat inner with rfl | ⟨inner, d, rfl⟩
    · rfl
    · have hd : isIdentifierSubsequent d = false := by
        apply hbefore hkind
        rw [List.concat_eq_append, ← List.append_assoc, List.getLast?_concat]
        rfl
      rw [hrun d (by simp)] at hd
      cases hd

/-- A lexeme that holds an identifier character is an identifier. -/
theorem eq_identifier (h : IsLexeme kind lexeme rest) {c : Char} (hc : c ∈ lexeme)
    (hsubsequent : isIdentifierSubsequent c = true) : kind = .identifier := by
  cases h with
  | leftParen rest =>
    rw [List.mem_singleton.1 hc] at hsubsequent
    exact absurd hsubsequent (by decide)
  | rightParen rest =>
    rw [List.mem_singleton.1 hc] at hsubsequent
    exact absurd hsubsequent (by decide)
  | identifier hne hrun hstop => rfl

/-- Nothing goes on with an identifier after a lexeme that holds an identifier character. -/
theorem not_goesOn (h : IsLexeme kind lexeme rest) :
    ∀ c ∈ lexeme, isIdentifierSubsequent c = true → ¬ GoesOn rest := by
  intro c hc hsubsequent
  obtain rfl := h.eq_identifier hc hsubsequent
  cases h with
  | identifier hne hrun hstop => exact hstop

/-- A lexeme is one also where nothing comes after it. -/
theorem alone (h : IsLexeme kind lexeme rest) : IsLexeme kind lexeme [] := by
  cases h with
  | leftParen rest => exact .leftParen []
  | rightParen rest => exact .rightParen []
  | identifier hne hrun hstop => exact .identifier hne hrun not_goesOn_nil

/-- A lexeme lies within one line. -/
theorem newline_not_mem (h : IsLexeme kind lexeme rest) : '\n' ∉ lexeme := by
  obtain ⟨c, further, rfl, hkind, hspan⟩ := h.exists_span
  have hnewline := Token.Kind.newline_not_mem hkind (further ++ rest)
  rwa [hspan] at hnewline

end IsLexeme

end SexprLexer
