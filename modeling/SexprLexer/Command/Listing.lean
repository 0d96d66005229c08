import SexprLexer.Command.Settings
import SexprLexer.Command.Transcript
import SexprLexer.Diagnostic
import SexprLexer.Scanner.Stream
import SexprLexer.TokenTable

/-!
# Listing the tokens of a source

The command scans a whole source, deals with the skipped characters as its policy says, and shows
the table of tokens unless the policy rejects the source.
-/

namespace SexprLexer.Command

/-- What a run has to say, and whether it was successful. -/
structure Listing where
  accepted : Bool
  transcript : Transcript

/-- A diagnostic as an entry. -/
def Entry.ofDiagnostic (d : Diagnostic) : Entry := .report (Text.ofRows d.rows)

/-- The diagnostics of the skipped characters of `source` under a policy. -/
def skippedDiagnostics (policy : SkipPolicy) (source : String) (skipped : List Skipped) :
    List Diagnostic :=
  match policy with
  | .ignore => []
  | .warn => skipped.map fun s => (Diagnostic.ofSkipped s).withSource source
  | .reject => skipped.map fun s => (Diagnostic.ofError s.toError).withSource source

/-- Whether a policy accepts a source with these skipped characters. -/
def SkipPolicy.accepts (policy : SkipPolicy) (skipped : List Skipped) : Bool :=
  policy != .reject || skipped.isEmpty

/-- The listing of the tokens of the source called `name`. -/
def Listing.ofSource (policy : SkipPolicy) (name source : String) : Listing :=
  let scanner := Scanner.ofString source (some name)
  let (tokens, after) := scanner.drain
  let accepted := policy.accepts after.skipped
  let records := scanner.events.map fun event => Entry.log event.record
  let reports := (skippedDiagnostics policy source after.skipped).map Entry.ofDiagnostic
  let table := if accepted then [.output (Text.ofRows (TokenTable.rows name tokens))] else []
  { accepted, transcript := records ++ reports ++ table }

end SexprLexer.Command
