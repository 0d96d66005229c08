import SexprLexer.Text.Padded
import SexprLexer.Text.Styled
import SexprLexer.Token

/-!
# Token tables

A token table shows the tokens of a source between two rulers, one numbered row for each, with a
title before and the number of tokens after them.
-/

namespace SexprLexer.TokenTable

open Text (Row plain styled)

/-- The style in which a kind of token stands out. -/
def kindStyle : Token.Kind → Text.Style
  | .leftParen | .rightParen => .cyan
  | .identifier => .green

/-- The row of the token with the given number. -/
def tokenRow (token : Token) (index : Nat) : Row :=
  [plain (Text.alignRight 4 (toString index) ++ ": "),
    styled (kindStyle token.kind) (Text.alignLeft 12 token.kind.name),
    plain (" | " ++ Text.quoteText token.lexeme ++ " @ " ++ token.location.display)]

/-- The row above and below the tokens. -/
def ruler : Row := [plain (String.ofList (List.replicate 60 '='))]

/-- The table of the tokens of the source called `name`. -/
def rows (name : String) (tokens : List Token) : List Row :=
  [plain ("Tokens for '" ++ name ++ "':")] :: ruler ::
    (tokens.mapIdx fun index token => tokenRow token index) ++
    [ruler, [plain ("Total tokens: " ++ toString tokens.length)]]

end SexprLexer.TokenTable
