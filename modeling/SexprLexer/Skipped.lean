import SexprLexer.Location

/-!
# Skipped characters

A character that is neither blank nor part of a token is left out of the token stream. It is kept
with its place, so that it can be reported afterwards.
-/

namespace SexprLexer

/-- A character that no token holds, and where it stands. -/
structure Skipped where
  character : Char
  location : Location
  deriving DecidableEq

end SexprLexer
