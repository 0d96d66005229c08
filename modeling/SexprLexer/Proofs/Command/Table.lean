import SexprLexer.Proofs.Command.Color
import SexprLexer.Proofs.Command.Scan
import SexprLexer.Proofs.Messages
import SexprLexer.Proofs.TokenTable

/-!
# Token tables can be read back

A token table has one row for each token, and fields of varying width in its rows: numbers of any
length, and lexemes that may hold the same signs as the row around them. Main statements: a row
tells the kind, the lexeme, the line and the column of its token, and where it ends
(`TokenTable.render_tokenRow_append_inj`); so does a table, of all its tokens
(`TokenTable.render_rows_inj`); what is written for a source that is not rejected is such a table
(`Command.table_faithful`).
-/

namespace SexprLexer

/-! ### Fields of a row -/

/-- A number is told from its decimal digits. -/
theorem Text.toString_inj {m n : Nat} : toString m = toString n ↔ m = n := by
  refine ⟨fun h => ?_, fun h => by rw [h]⟩
  rw [Nat.toString_eq_ofList_toDigits, Nat.toString_eq_ofList_toDigits, String.ofList_inj] at h
  rw [← Nat.ofDigitChars_ten_toDigits (n := m), h, Nat.ofDigitChars_ten_toDigits]

/-- What is shown of a place tells its line and its column, whatever the name of the source holds
and whatever comes after the end of the row. -/
theorem Location.display_append_inj {here there : Location} {name : String}
    (h : here.filename = some name) (h' : there.filename = some name) {rest rest' : List Char} :
    here.display.toList ++ '\n' :: rest = there.display.toList ++ '\n' :: rest' ↔
      (here.line = there.line ∧ here.column = there.column) ∧ rest = rest' := by
  -- A number ends where the sign after it stands, since this is no digit.
  have hcolon : ∀ n : Nat, ':' ∉ (toString n).toList :=
    fun n hmem => absurd (Text.isDigit_of_mem_toString hmem) (by decide)
  have hnewline : ∀ n : Nat, '\n' ∉ (toString n).toList :=
    fun n hmem => absurd (Text.isDigit_of_mem_toString hmem) (by decide)
  have hplace : ∀ (p : Location) (more : List Char), p.filename = some name →
      p.display.toList ++ '\n' :: more = name.toList ++ ':' :: ((toString p.line).toList ++
        ':' :: ((toString p.column).toList ++ '\n' :: more)) := by
    intro p more hp
    simp [display_eq hp]
  rw [hplace _ _ h, hplace _ _ h', List.append_cancel_left_eq, List.cons_inj_right,
    Text.append_cons_inj (hcolon _) (hcolon _), Text.append_cons_inj (hnewline _) (hnewline _),
    String.toList_inj, String.toList_inj, Text.toString_inj, Text.toString_inj, and_assoc]

namespace TokenTable

open Text (plain styled)

/-! ### Rows -/

/-- What a row shows of its token, but for the name of the source. -/
def shown (t : Token) : Token.Kind × String × Nat × Nat :=
  (t.kind, t.lexeme, t.location.line, t.location.column)

/-- The cells of all kinds are of one width. -/
theorem length_kindCell (color : Bool) (kind kind' : Token.Kind) :
    (kindCell color kind).toList.length = (kindCell color kind').toList.length := by
  cases color <;> cases kind <;> cases kind' <;> decide

/-- Kinds have cells of their own. -/
theorem kindCell_inj (color : Bool) {kind kind' : Token.Kind} :
    kindCell color kind = kindCell color kind' ↔ kind = kind' := by
  refine ⟨fun h => ?_, fun h => by rw [h]⟩
  revert h
  cases color <;> cases kind <;> cases kind' <;> decide

/-- The characters that rows are numbered with. -/
def isNumbering (c : Char) : Bool := c.isDigit || c == ' ' || c == ':'

theorem isNumbering_of_mem {index : Nat} {c : Char} (h : c ∈ (numberCell index).toList) :
    isNumbering c = true := by
  have hend : ∀ d ∈ ": ".toList, isNumbering d = true := List.all_eq_true.1 (by decide)
  rw [numberCell, Text.alignRight_eq, String.toList_append, String.toList_append, String.toList_ofList,
    List.mem_append, List.mem_append] at h
  rcases h with (h | h) | h
  · rw [List.eq_of_mem_replicate h]
    decide
  · rw [isNumbering, Text.isDigit_of_mem_toString h]
    rfl
  · exact hend c h

/-- A row tells all that it shows of its token, and where it ends. -/
theorem render_tokenRow_append_inj {name : String} {t u : Token}
    (ht : t.location.filename = some name) (hu : u.location.filename = some name) (color : Bool)
    (index : Nat) {rest rest' : List Char} :
    (Text.render color (tokenRow t index)).toList ++ '\n' :: rest =
        (Text.render color (tokenRow u index)).toList ++ '\n' :: rest' ↔
      shown t = shown u ∧ rest = rest' := by
  have hrow : ∀ (v : Token) (more : List Char),
      (Text.render color (tokenRow v index)).toList ++ '\n' :: more =
        (numberCell index).toList ++ ((kindCell color v.kind).toList ++
          (" | ".toList ++ ((Text.quoteText v.lexeme).toList ++
            (" @ ".toList ++ (v.location.display.toList ++ '\n' :: more))))) := by
    intro v more
    simp [render_tokenRow]
  have hcell : ∀ s s' : List Char,
      (kindCell color t.kind).toList ++ s = (kindCell color u.kind).toList ++ s' ↔
        t.kind = u.kind ∧ s = s' := by
    intro s s'
    rw [← kindCell_inj color, ← String.toList_inj]
    exact ⟨fun h => List.append_inj h (length_kindCell color t.kind u.kind),
      fun ⟨hkind, hrest⟩ => by rw [hkind, hrest]⟩
  rw [hrow, hrow, List.append_cancel_left_eq, hcell, List.append_cancel_left_eq,
    Text.quoteText_append_inj, List.append_cancel_left_eq, Location.display_append_inj ht hu]
  simp only [shown, Prod.mk.injEq, and_assoc]

/-- A row does not go on to another one if the name of the source is on one line. -/
theorem newline_not_mem_tokenRow {t : Token} (index : Nat)
    (h : ∀ name, t.location.filename = some name → '\n' ∉ name.toList) :
    ∀ span ∈ tokenRow t index, '\n' ∉ span.text.toList := by
  have hnumber : '\n' ∉ (numberCell index).toList :=
    fun hmem => absurd (isNumbering_of_mem hmem) (by decide)
  have hkind : '\n' ∉ (Text.alignLeft 12 t.kind.name).toList := by
    cases t.kind <;> decide
  have hbar : Text.StaysOnLine " | " := by decide
  have hat : Text.StaysOnLine " @ " := by decide
  have hlexeme := ((hbar.append (.quoteText t.lexeme)).append hat).newline_not_mem
  rw [tokenRow, List.forall_mem_cons, List.forall_mem_cons, List.forall_mem_singleton]
  refine ⟨hnumber, hkind, fun hmem => ?_⟩
  rw [plain, String.toList_append, List.mem_append] at hmem
  exact hmem.elim hlexeme (Location.newline_not_mem_display h)

/-- A row does not begin like a ruler. -/
theorem exists_toList_render_tokenRow (color : Bool) (t : Token) (index : Nat) :
    ∃ c more, (Text.render color (tokenRow t index)).toList = c :: more ∧ c ≠ '=' := by
  have hne : (numberCell index).toList ≠ [] := by simp [numberCell]
  obtain ⟨c, more, hcons⟩ := List.exists_cons_of_ne_nil hne
  have hnumbering : isNumbering c = true :=
    isNumbering_of_mem (by rw [hcons]; exact List.mem_cons_self)
  refine ⟨c, more ++ (kindCell color t.kind ++ " | " ++ Text.quoteText t.lexeme ++ " @ " ++
    t.location.display).toList, ?_, ?_⟩
  · rw [← List.cons_append, ← hcons, ← String.toList_append, render_tokenRow]
    simp only [String.append_assoc]
  · rintro rfl
    exact absurd hnumbering (by decide)

/-! ### Tables -/

/-- The first row only has the others begin with the next number. -/
theorem rowTexts_cons (color : Bool) (first : Nat) (t : Token) (tokens : List Token) :
    rowTexts color first (t :: tokens) =
      Text.render color (tokenRow t first) :: rowTexts color (first + 1) tokens := by
  simp only [rowTexts, List.mapIdx_cons, Nat.add_zero, Nat.add_assoc, Nat.add_comm 1]

/-- The rows of some tokens, each of which is ended by a line feed. -/
def body (color : Bool) (first : Nat) (tokens : List Token) : String :=
  String.join ((rowTexts color first tokens).map (· ++ "\n"))

/-- The first row stands before the others, and ends with a line feed. -/
theorem toList_body_cons (color : Bool) (first : Nat) (t : Token) (tokens : List Token)
    (rest : List Char) :
    (body color first (t :: tokens)).toList ++ rest =
      (Text.render color (tokenRow t first)).toList ++
        '\n' :: ((body color (first + 1) tokens).toList ++ rest) := by
  simp [body, rowTexts_cons, String.join_cons]

/-- A ruler is not taken for a row. -/
theorem ruler_ne_body_cons (color : Bool) (first : Nat) (t : Token) (tokens : List Token)
    (rest rest' : List Char) :
    '=' :: rest ≠ (body color first (t :: tokens)).toList ++ rest' := by
  intro heq
  obtain ⟨c, more, hmore, hc⟩ := exists_toList_render_tokenRow color t first
  rw [toList_body_cons, hmore] at heq
  exact hc (List.cons.inj heq).1.symm

/-- The rows of a table tell how many tokens there are, and what they show of each of them. -/
theorem body_append_inj {name : String} (color : Bool) {ts us : List Token}
    (hts : ∀ t ∈ ts, t.location.filename = some name)
    (hus : ∀ u ∈ us, u.location.filename = some name) (first : Nat) {rest rest' : List Char} :
    (body color first ts).toList ++ '=' :: rest = (body color first us).toList ++ '=' :: rest' ↔
      ts.map shown = us.map shown ∧ rest = rest' := by
  -- Row after row is read from both, with the number that it has in both.
  induction ts generalizing first us with
  | nil =>
    cases us with
    | nil => simp
    | cons u us =>
      have hne := ruler_ne_body_cons color first u us rest ('=' :: rest')
      simpa [body, rowTexts] using hne
  | cons t ts ih =>
    cases us with
    | nil =>
      have hne := ruler_ne_body_cons color first t ts rest' ('=' :: rest)
      simpa [body, rowTexts] using hne.symm
    | cons u us =>
      rw [List.forall_mem_cons] at hts hus
      rw [toList_body_cons, toList_body_cons, render_tokenRow_append_inj hts.1 hus.1,
        List.map_cons, List.map_cons, List.cons.injEq, and_assoc]
      exact and_congr_right fun _ => ih hts.2 hus.2 (first + 1)

/-- A table tells how many tokens there are, and what it shows of each of them. -/
theorem render_rows_inj {name : String} (color : Bool) {ts us : List Token}
    (hts : ∀ t ∈ ts, t.location.filename = some name)
    (hus : ∀ u ∈ us, u.location.filename = some name) :
    Text.render color (Text.ofRows (rows name ts)) =
        Text.render color (Text.ofRows (rows name us)) ↔
      ts.map shown = us.map shown := by
  have htable : ∀ tokens : List Token, (Text.render color (Text.ofRows (rows name tokens))).toList =
      ("Tokens for '" ++ name ++ "':\n" ++ rulerText ++ "\n").toList ++
        ((body color 0 tokens).toList ++
          '=' :: (List.replicate 59 '=' ++
            ("\nTotal tokens: " ++ toString tokens.length ++ "\n").toList)) := by
    intro tokens
    have hruler : rulerText.toList = '=' :: List.replicate 59 '=' := by rfl
    rw [Text.render_ofRows, map_render_rows]
    simp [body, String.join_cons, String.join_append, hruler]
  rw [← String.toList_inj, htable, htable, List.append_cancel_left_eq,
    body_append_inj color hts hus]
  refine ⟨fun h => h.1, fun h => ⟨h, ?_⟩⟩
  have hlength : ts.length = us.length := by simpa using congrArg List.length h
  rw [hlength]

/-- No row goes on to another one if the name of the source is on one line. -/
theorem newline_not_mem_rows {name : String} (hname : '\n' ∉ name.toList) {tokens : List Token}
    (h : ∀ t ∈ tokens, t.location.filename = some name) :
    ∀ row ∈ rows name tokens, ∀ span ∈ row, '\n' ∉ span.text.toList := by
  have htitle : '\n' ∉ ("Tokens for '" ++ name ++ "':").toList := by
    have hbefore : '\n' ∉ "Tokens for '".toList := by decide
    have hafter : '\n' ∉ "':".toList := by decide
    rw [String.toList_append, String.toList_append, List.mem_append, List.mem_append, not_or,
      not_or]
    exact ⟨⟨hbefore, hname⟩, hafter⟩
  have hruler : ∀ span ∈ ruler, '\n' ∉ span.text.toList := by
    rw [ruler, List.forall_mem_singleton]
    decide
  have htotal : Text.StaysOnLine "Total tokens: " := by decide
  have htokens : ∀ row ∈ tokens.mapIdx fun index t => tokenRow t index,
      ∀ span ∈ row, '\n' ∉ span.text.toList := by
    intro row hrow
    obtain ⟨index, hindex, rfl⟩ := List.mem_mapIdx.1 hrow
    refine newline_not_mem_tokenRow index fun other hother => ?_
    rw [h _ (List.getElem_mem hindex)] at hother
    rwa [← Option.some.inj hother]
  exact List.forall_mem_append.2 ⟨List.forall_mem_cons.2
      ⟨List.forall_mem_singleton.2 htitle, List.forall_mem_cons.2 ⟨hruler, htokens⟩⟩,
    List.forall_mem_cons.2 ⟨hruler, List.forall_mem_singleton.2 (List.forall_mem_singleton.2
      (htotal.append (.toString _)).newline_not_mem)⟩⟩

/-- The rows of a table are those of its text. -/
theorem areRows_rows {name : String} (hname : '\n' ∉ name.toList) {tokens : List Token}
    (h : ∀ t ∈ tokens, t.location.filename = some name) (color : Bool) :
    Text.AreRows (Text.render color (Text.ofRows (rows name tokens)))
      (("Tokens for '" ++ name ++ "':") :: rulerText :: rowTexts color 0 tokens ++
        [rulerText, "Total tokens: " ++ toString (rowTexts color 0 tokens).length]) := by
  have hlength : (rowTexts color 0 tokens).length = tokens.length := List.length_mapIdx
  rw [hlength, ← map_render_rows]
  exact Text.areRows_ofRows (newline_not_mem_rows hname h) color

end TokenTable

namespace Command

/-- Of a source that is not rejected the table is shown. -/
theorem Listing.stdout_of_accepted {policy : SkipPolicy} {name source : String}
    (h : (ofSource policy name source).accepted = true) (color : Bool) :
    (ofSource policy name source).transcript.stdout color =
      Text.render color
        (Text.ofRows (TokenTable.rows name (Scanner.ofString source (some name)).drain.1)) := by
  rw [accepted_ofSource] at h
  rw [stdout_ofSource, if_pos h]

/-- A source that is not rejected is shown in a table. If its name is on one line, the rows of the
table are a title, a ruler, one row for each token, another ruler and the number of these rows. The
row of a token has its number, counted from zero and never cut off, the kind, the lexeme as it is
between quotes, and the place. Whatever the name is, two sources of this name have the same table
with the same setting of color exactly if their tokens are as many and are the same one by one in
kind, lexeme, line and column. -/
theorem table_faithful (name : String) (color : Bool) :
    let tokens (source : String) := (Scanner.ofString source (some name)).drain.1
    let accepted (policy : SkipPolicy) (source : String) :=
      (Listing.ofSource policy name source).accepted = true
    let table (policy : SkipPolicy) (source : String) :=
      (Listing.ofSource policy name source).transcript.stdout color
    ('\n' ∉ name.toList → ∀ policy source, accepted policy source →
      ∃ rows : List String,
        rows.length = (tokens source).length ∧
        Text.AreRows (table policy source)
          (("Tokens for '" ++ name ++ "':") :: TokenTable.rulerText :: rows ++
            [TokenTable.rulerText, "Total tokens: " ++ toString rows.length]) ∧
        ∀ (i : Nat) (t : Token), (tokens source)[i]? = some t → rows[i]? = some (
          String.ofList (List.replicate (4 - (toString i).length) ' ') ++ toString i ++ ": " ++
            TokenTable.kindCell color t.kind ++ " | " ++ ("\"" ++ t.lexeme ++ "\"") ++ " @ " ++
              (name ++ ":" ++ toString t.location.line ++ ":" ++ toString t.location.column))) ∧
    ∀ policy policy' source source', accepted policy source → accepted policy' source' →
      (table policy source = table policy' source' ↔
        (tokens source).map TokenTable.shown = (tokens source').map TokenTable.shown) := by
  intro tokens accepted table
  have hfilename : ∀ source, ∀ t ∈ tokens source, t.location.filename = some name :=
    fun source t ht => Scanner.filename_of_mem_records (Scanner.token_mem_records ht)
  have htable : ∀ policy source, accepted policy source →
      table policy source =
        Text.render color (Text.ofRows (TokenTable.rows name (tokens source))) :=
    fun policy source haccepted => Listing.stdout_of_accepted haccepted color
  refine ⟨fun hname policy source haccepted => ?_,
    fun policy policy' source source' haccepted haccepted' => ?_⟩
  · refine ⟨TokenTable.rowTexts color 0 (tokens source), List.length_mapIdx, ?_, fun i t ht => ?_⟩
    · rw [htable policy source haccepted]
      exact TokenTable.areRows_rows hname (hfilename source) color
    · have hmem : t ∈ tokens source := List.mem_of_getElem? ht
      rw [TokenTable.getElem?_rowTexts color 0 ht, Nat.zero_add, TokenTable.render_tokenRow,
        TokenTable.numberCell, Text.alignRight_eq, Scanner.quoteText_lexeme hmem,
        Location.display_eq (hfilename source t hmem)]
  · rw [htable policy source haccepted, htable policy' source' haccepted',
      TokenTable.render_rows_inj color (hfilename source) (hfilename source')]

/-- A source with two tokens, and the same with a skipped character at its end. -/
theorem table_faithful_skipped :
    let tokens (source : String) := (Scanner.ofString source (some "x")).drain.1
    let accepted (policy : SkipPolicy) (source : String) :=
      (Listing.ofSource policy "x" source).accepted = true
    let table (policy : SkipPolicy) (source : String) :=
      (Listing.ofSource policy "x" source).transcript.stdout false
    '\n' ∉ "x".toList ∧ accepted .reject "(a" ∧ accepted .warn "(a[" ∧
    (tokens "(a")[1]? = some ⟨.identifier, "a", ⟨1, 2, 1, some "x"⟩⟩ ∧
    (∃ rows : List String, rows.length = (tokens "(a").length ∧
      rows[1]? = some "   1: Identifier   | \"a\" @ x:1:2") ∧
    table .reject "(a" = table .warn "(a[" := by
  intro tokens accepted table
  have hname : '\n' ∉ "x".toList := by decide
  have haccepted : accepted .reject "(a" := by decide +kernel
  have haccepted' : accepted .warn "(a[" := by decide +kernel
  have htoken : (tokens "(a")[1]? = some ⟨.identifier, "a", ⟨1, 2, 1, some "x"⟩⟩ := by
    decide +kernel
  have hshown : (tokens "(a").map TokenTable.shown = (tokens "(a[").map TokenTable.shown := by
    decide +kernel
  obtain ⟨hrows, hinjective⟩ := table_faithful "x" false
  obtain ⟨rows, hlength, -, hrow⟩ := hrows hname .reject "(a" haccepted
  refine ⟨hname, haccepted, haccepted', htoken, ⟨rows, hlength, ?_⟩,
    (hinjective .reject .warn "(a" "(a[" haccepted haccepted').2 hshown⟩
  rw [hrow 1 _ htoken]
  decide +kernel

end Command

end SexprLexer
