import SexprLexer.Command.Directory
import SexprLexer.Main
import SexprLexer.Proofs.Scanner.Conservation
import SexprLexer.Proofs.Scanner.Grammar
import SexprLexer.Proofs.Scanner.Locations
import SexprLexer.Proofs.Scanner.Logging
import SexprLexer.Proofs.Scanner.Queue
import SexprLexer.Scanner.Step
import SexprLexer.Tokenize
import SexprLexer.Proofs.Scanner.Composition
import SexprLexer.Proofs.Scanner.Concatenation
import SexprLexer.Proofs.Scanner.Writing
import SexprLexer.Proofs.Strict
import SexprLexer.Proofs.Diagnostic.Excerpt
import SexprLexer.Proofs.Command.Arguments
import SexprLexer.Proofs.Command.Sources
import SexprLexer.Proofs.TokenTable
import SexprLexer.Proofs.Command.Scan
import SexprLexer.Proofs.Command.Policies
import SexprLexer.Proofs.Command.Session
import SexprLexer.Proofs.Text.ByteLines
import SexprLexer.Proofs.Scanner.Replacements
import SexprLexer.Proofs.Scanner.Filenames
import SexprLexer.Proofs.Command.Closing
import SexprLexer.Proofs.Command.Order
import SexprLexer.Proofs.Command.Verbosity
import SexprLexer.Proofs.Log.Levels
import SexprLexer.Proofs.Log.Lines
import SexprLexer.Proofs.Command.Logging
import SexprLexer.Proofs.Scanner.Progress
import SexprLexer.Proofs.Scanner.Places
import SexprLexer.Proofs.Diagnostic.Alignment
import SexprLexer.Proofs.Command.Color
import SexprLexer.Proofs.Scanner.Counters
import SexprLexer.Proofs.Text.Rows
import SexprLexer.Proofs.Text.Quotation
import SexprLexer.Proofs.Messages
import SexprLexer.Proofs.Command.Table
import SexprLexer.Proofs.Command.Padding
import SexprLexer.Proofs.CharClass
