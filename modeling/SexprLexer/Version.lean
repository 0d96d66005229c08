/-!
# Version

The number that the command and its sessions show.
-/

namespace SexprLexer

/-- The version of the lexer. -/
def version : String := "0.1.0"

end SexprLexer
