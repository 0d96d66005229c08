import SexprLexer.Log.Filter
import SexprLexer.Text.Styled

/-!
# Transcripts

Everything a run has to say, in order and regardless of color and of the filter of the log: text
for the standard output, text for the standard error stream, and log records, which also go to the
standard error stream.
-/

namespace SexprLexer.Command

/-- One thing that a run says. -/
inductive Entry where
  | output (text : List Text.Span)
  | report (text : List Text.Span)
  | log (record : Log.Record)
  deriving DecidableEq

/-- Everything that a run says. -/
abbrev Transcript := List Entry

/-- What an entry adds to the standard output. -/
def Entry.stdout (color : Bool) : Entry → String
  | output text => Text.render color text
  | report _ | log _ => ""

/-- What an entry adds to the standard error stream. -/
def Entry.stderr (color : Bool) (filter : Log.Filter) : Entry → String
  | output _ => ""
  | report text => Text.render color text
  | log record => if filter.admits record then record.render else ""

namespace Transcript

/-- The standard output of a run. -/
def stdout (t : Transcript) (color : Bool) : String :=
  String.join (t.map (Entry.stdout color))

/-- The standard error stream of a run. -/
def stderr (t : Transcript) (color : Bool) (filter : Log.Filter) : String :=
  String.join (t.map (Entry.stderr color filter))

theorem stdout_append (t u : Transcript) (color : Bool) :
    stdout (t ++ u) color = t.stdout color ++ u.stdout color := by
  induction t with
  | nil => simp [stdout]
  | cons entry t ih => simp_all [stdout, String.append_assoc]

theorem stderr_append (t u : Transcript) (color : Bool) (filter : Log.Filter) :
    stderr (t ++ u) color filter = t.stderr color filter ++ u.stderr color filter := by
  induction t with
  | nil => simp [stderr]
  | cons entry t ih => simp_all [stderr, String.append_assoc]

end Transcript

end SexprLexer.Command
