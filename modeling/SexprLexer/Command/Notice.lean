import SexprLexer.Command.Arguments
import SexprLexer.Command.Surroundings
import SexprLexer.Version

/-!
# Notices

What the command says where its command line asks for no run: that the line is refused, how it is
used, and which version it is.
-/

namespace SexprLexer.Command

open Text (Row Span plain styled)

/-- The notice that a command line is refused. -/
def refusalNotice (why : Refusal) : List Span :=
  styled .boldAndRed "error:" :: plain " " :: why.spans ++ [plain "\n"]

/-- The title of a part of the help. -/
def title (text : String) : Span := styled .boldUnderlined text

/-- What is typed as it stands. -/
def typed (text : String) : Span := styled .bold text

/-- The rows of the help. -/
def helpRows : List Row :=
  [[plain "Tokenize Sibil S-expression source"],
    [],
    [title "Usage:", plain " ", typed "sibil", plain " [OPTIONS] [INPUT]"],
    [],
    [title "Arguments:"],
    [plain "  [INPUT]  Source file to scan (`-` or omitted reads stdin)"],
    [],
    [title "Options:"],
    [plain "      ", typed "--strict",
      plain "         Treat skipped characters other than whitespace as errors"],
    [plain "      ", typed "--warn-skipped",
      plain "   Report skipped characters other than whitespace as warnings"],
    [plain "      ", typed "--repl",
      plain "           Start an interactive session that tokenizes each line"],
    [plain "      ", typed "--color",
      plain " <COLOR>  When to color output [default: auto] ",
      plain "[possible values: auto, always, never]"],
    [plain "  ", typed "-v", plain ", ", typed "--verbose",
      plain "...     Increase logging verbosity (repeatable)"],
    [plain "  ", typed "-h", plain ", ", typed "--help", plain "           Print help"],
    [plain "  ", typed "-V", plain ", ", typed "--version", plain "        Print version"]]

/-- The answer to a request for help. -/
def helpNotice : List Span := Text.ofRows helpRows

/-- The answer to a request for the version. -/
def versionNotice : List Span := Text.ofRows [[plain ("sibil " ++ version)]]

end SexprLexer.Command
