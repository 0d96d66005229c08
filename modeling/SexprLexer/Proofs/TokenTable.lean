import SexprLexer.Proofs.Scanner.Places
import SexprLexer.Proofs.Text.Rows
import SexprLexer.TokenTable

/-!
# Token tables as they are written

A token table is made of spans, of which only the kinds of the tokens stand out. Main statements:
what is written for one row of a table (`render_tokenRow`) and for all of them (`map_render_rows`);
what is written for the table of a whole source, sign by sign (`render_rows_drain`).
-/

namespace SexprLexer

/-- A text at the right end of its column has spaces before it, as far as the column is wider. -/
theorem Text.alignRight_eq (width : Nat) (text : String) :
    alignRight width text = String.ofList (List.replicate (width - text.length) ' ') ++ text := by
  rw [alignRight, List.leftpad, String.length_toList, String.ofList_append, String.ofList_toList]

/-- Where the name of a source is known, a place in it is shown by its line and its column. -/
theorem Location.display_eq {here : Location} {name : String} (h : here.filename = some name) :
    here.display = name ++ ":" ++ toString here.line ++ ":" ++ toString here.column := by
  unfold display
  rw [h]
  simp only [String.append_assoc]

namespace Scanner

/-- Whatever a scan finds and skips carries the name of its source. -/
theorem filename_of_mem_records {source : String} {filename : Option String} {f : Finding}
    (h : f ∈ records source filename) : f.location.filename = filename := by
  obtain ⟨before, after, -, hplace, -⟩ := standsIn_of_mem_records h
  rw [hplace]
  rfl

/-- The lexeme of a token stands between quotes as it is. -/
theorem quoteText_lexeme {source : String} {filename : Option String} {t : Token}
    (h : t ∈ (ofString source filename).drain.1) :
    Text.quoteText t.lexeme = "\"" ++ t.lexeme ++ "\"" := by
  obtain ⟨before, after, -, -, hlexeme, -⟩ := standsIn_of_mem_records (token_mem_records h)
  exact quoteText_eq hlexeme.isTokenCharacter_of_mem

end Scanner

namespace TokenTable

open Text (plain styled)

/-! ### Rows -/

/-- The kind of a token as a row shows it, with or without color. -/
def kindCell (color : Bool) (kind : Token.Kind) : String :=
  (styled (kindStyle kind) (Text.alignLeft 12 kind.name)).render color

/-- The number of a token as a row shows it. -/
def numberCell (index : Nat) : String := Text.alignRight 4 (toString index) ++ ": "

/-- A row as it is written. -/
theorem render_tokenRow (color : Bool) (t : Token) (index : Nat) :
    Text.render color (tokenRow t index) =
      numberCell index ++ kindCell color t.kind ++ " | " ++ Text.quoteText t.lexeme ++ " @ " ++
        t.location.display := by
  cases color <;>
    simp [tokenRow, numberCell, kindCell, Text.Span.render, plain, styled, String.append_assoc]

/-! ### Tables -/

/-- The rows of some tokens as they are written, the first of them with the given number. -/
def rowTexts (color : Bool) (first : Nat) (tokens : List Token) : List String :=
  tokens.mapIdx fun k t => Text.render color (tokenRow t (first + k))

/-- Each token has its row. -/
theorem getElem?_rowTexts (color : Bool) (first : Nat) {tokens : List Token} {i : Nat} {t : Token}
    (h : tokens[i]? = some t) :
    (rowTexts color first tokens)[i]? =
      some (Text.render color (tokenRow t (first + i))) := by
  rw [rowTexts, List.getElem?_mapIdx, h, Option.map_some]

/-- A ruler as it is written. -/
def rulerText : String := String.ofList (List.replicate 60 '=')

/-- The rows of a table as they are written. -/
theorem map_render_rows (color : Bool) (name : String) (tokens : List Token) :
    (rows name tokens).map (Text.render color) =
      ("Tokens for '" ++ name ++ "':") :: rulerText :: rowTexts color 0 tokens ++
        [rulerText, "Total tokens: " ++ toString tokens.length] := by
  have hruler : Text.render color ruler = rulerText := Text.render_plain color rulerText
  have hrows : (tokens.mapIdx fun k t => tokenRow t k).map (Text.render color) =
      rowTexts color 0 tokens := by
    rw [rowTexts, List.mapIdx_eq_zipIdx_map, List.mapIdx_eq_zipIdx_map, List.map_map]
    simp only [Nat.zero_add, Function.comp_def]
  rw [rows, List.map_append, List.map_cons, List.map_cons, List.map_cons, List.map_cons,
    List.map_nil, hrows, hruler, Text.render_plain, Text.render_plain]

/-! ### Tables of whole sources -/

/-- The kind of a token in a table: it takes twelve characters, and is cyan or green if there is
color. -/
def kindText (color : Bool) (kind : Token.Kind) : String :=
  match color, kind with
  | false, .leftParen => "LeftParen   "
  | false, .rightParen => "RightParen  "
  | false, .identifier => "Identifier  "
  | true, .leftParen => "\x1b[36mLeftParen   \x1b[0m"
  | true, .rightParen => "\x1b[36mRightParen  \x1b[0m"
  | true, .identifier => "\x1b[32mIdentifier  \x1b[0m"

/-- The row of a token in the table of the source called `name`: its number, its kind, its lexeme
between quotes, and its place. -/
def rowText (color : Bool) (name : String) (index : Nat) (t : Token) : String :=
  String.ofList (List.replicate (4 - (toString index).length) ' ') ++ toString index ++ ": " ++
    kindText color t.kind ++ " | \"" ++ t.lexeme ++ "\" @ " ++ name ++ ":" ++
      toString t.location.line ++ ":" ++ toString t.location.column

/-- The table of the source called `name`: a title, the rows of the tokens between two rulers, and
the number of tokens. -/
def tableText (color : Bool) (name : String) (tokens : List Token) : String :=
  "Tokens for '" ++ name ++ "':\n" ++ rulerText ++ "\n" ++
    String.join ((tokens.mapIdx (rowText color name)).map (· ++ "\n")) ++
      rulerText ++ "\nTotal tokens: " ++ toString tokens.length ++ "\n"

theorem kindCell_eq_kindText (color : Bool) (kind : Token.Kind) :
    kindCell color kind = kindText color kind := by
  cases color <;> cases kind <;> decide

/-- A token of a source has its row. -/
theorem render_tokenRow_eq_rowText {source name : String} {t : Token}
    (h : t ∈ (Scanner.ofString source (some name)).drain.1) (color : Bool) (index : Nat) :
    Text.render color (tokenRow t index) = rowText color name index t := by
  have hname : t.location.filename = some name :=
    Scanner.filename_of_mem_records (Scanner.token_mem_records h)
  have hopen : " | \"" = " | " ++ "\"" := by decide
  have hclose : "\" @ " = "\"" ++ " @ " := by decide
  rw [render_tokenRow, numberCell, Text.alignRight_eq, kindCell_eq_kindText,
    Scanner.quoteText_lexeme h, Location.display_eq hname, rowText, hopen, hclose]
  simp only [String.append_assoc]

/-- Tokens whose rows are written in this way make a table. -/
theorem render_rows_eq_tableText {color : Bool} {name : String} {tokens : List Token}
    (h : ∀ t ∈ tokens, ∀ index,
      Text.render color (tokenRow t index) = rowText color name index t) :
    Text.render color (Text.ofRows (rows name tokens)) = tableText color name tokens := by
  have hrows : rowTexts color 0 tokens = tokens.mapIdx (rowText color name) := by
    apply List.ext_getElem?
    intro index
    rw [List.getElem?_mapIdx]
    cases ht : tokens[index]? with
    | none => rw [rowTexts, List.getElem?_mapIdx, ht, Option.map_none, Option.map_none]
    | some t =>
      rw [getElem?_rowTexts color 0 ht, h t (List.mem_of_getElem? ht), Nat.zero_add,
        Option.map_some]
  have htitle : "':\n" = "':" ++ "\n" := by decide
  have htotal : "\nTotal tokens: " = "\n" ++ "Total tokens: " := by decide
  rw [Text.render_ofRows, map_render_rows, hrows]
  unfold tableText
  simp only [htitle, htotal, List.map_append, List.map_cons, List.map_nil, List.cons_append,
    String.join_append, String.join_cons, String.join_nil, String.append_assoc, String.append_empty]

/-- All tokens of a source make its table. -/
theorem render_rows_drain (color : Bool) (name source : String) :
    Text.render color (Text.ofRows (rows name (Scanner.ofString source (some name)).drain.1)) =
      tableText color name (Scanner.ofString source (some name)).drain.1 :=
  render_rows_eq_tableText fun _ ht => render_tokenRow_eq_rowText ht color

end TokenTable

end SexprLexer
