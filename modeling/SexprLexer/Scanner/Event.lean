import SexprLexer.Log
import SexprLexer.Skipped
import SexprLexer.Token

/-!
# What happens during a scan

To find a token the scanner goes through states: it looks at the character under its cursor,
looks ahead while an identifier goes on, and hands the token out. Each state it enters, and what
it does there, is an event, and each event is a log record.
-/

namespace SexprLexer

/-- The states of a scan. -/
inductive ScanState where
  /-- The scan decides by the character under the cursor. -/
  | initial
  /-- An identifier goes on at least up to the offset `ahead`. -/
  | identifier (ahead : Nat)
  /-- A token ends at the offset `stop`. -/
  | emit (kind : Token.Kind) (stop : Nat)
  deriving DecidableEq

/-- A state as log records show it. -/
def ScanState.display : ScanState → String
  | initial => "Initial"
  | identifier ahead => "Identifier(" ++ toString ahead ++ ")"
  | emit kind stop => "Emit(" ++ kind.name ++ ", " ++ toString stop ++ ")"

/-- What a scan does, step by step. -/
inductive ScanEvent where
  /-- The scan enters a state while its cursor is at the offset `cursor`. -/
  | entered (state : ScanState) (cursor : Nat)
  /-- An identifier begins at an offset. -/
  | identifierBegins (offset : Nat)
  /-- A character that is not blank and belongs to no token is left out. -/
  | skipping (skipped : Skipped)
  /-- A token is handed out, and the cursor moves to the offset `cursor`. -/
  | emitted (token : Token) (cursor : Nat)
  deriving DecidableEq

namespace ScanEvent

/-- The name under which the scanner writes log records. -/
def target : String := "sibil_lexer::lexer::scanner"

/-- Left-out characters matter more than the steps of the scan. -/
def level : ScanEvent → Log.Level
  | skipping _ => .debug
  | _ => .trace

/-- What the log says about an event. -/
def message : ScanEvent → String
  | entered state cursor => state.display ++ " at current=" ++ toString cursor
  | identifierBegins offset => "identifier starts at " ++ toString offset
  | skipping skipped =>
    "skipping unexpected character " ++ Text.quoteChar skipped.character ++ " at " ++
      skipped.location.display
  | emitted token cursor =>
    "emit " ++ token.kind.name ++ " " ++ Text.quoteText token.lexeme ++ ", current=" ++
      toString cursor

/-- The log record of an event. -/
def record (event : ScanEvent) : Log.Record :=
  { level := event.level, target, message := event.message }

end ScanEvent

end SexprLexer
