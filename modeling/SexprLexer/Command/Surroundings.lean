import SexprLexer.Command.ReadFault
import SexprLexer.Command.Settings
import SexprLexer.Log.Filter
import SexprLexer.Text.Visible

/-!
# Surroundings of a run

What surrounds a run: the standard input, the variables of the environment and the files. The
environment adds to the settings how the run is shown: whether in color, and with which records of
the log.
-/

namespace SexprLexer.Command

/-- What surrounds a run. -/
structure Surroundings where
  /-- All bytes of the standard input, which is not a terminal. -/
  stdin : ByteArray
  /-- The value of a variable of the environment, if it is set. -/
  lookup : String → Option String
  /-- The content of the file at a path. -/
  read : String → Except ReadFault ByteArray

namespace Surroundings

/-- Whether the environment insists on color for what a run shows. -/
def forcesColor (around : Surroundings) : Bool :=
  (around.lookup "CLICOLOR_FORCE").any (· != "0")

/-- Whether a variable of the environment is set to anything but the empty text. -/
def mentions (around : Surroundings) (name : String) : Bool := (around.lookup name).any (· != "")

/-- What the command says where it does not run. It is colored only where the environment says
anything at all for color and nothing against it; otherwise nothing of it is meant for a
terminal. -/
def showNotice (around : Surroundings) (notice : List Text.Span) : String :=
  let colored := Text.render true notice
  if around.mentions "CLICOLOR_FORCE" && !around.mentions "NO_COLOR" then colored
  else Text.visible colored

end Surroundings

/-- Whether output is colored. By itself the command colors it only where the environment insists:
its output is not taken to be a terminal. -/
def Settings.colored (settings : Settings) (around : Surroundings) : Bool :=
  match settings.color with
  | .always => true
  | .never => false
  | .auto => around.forcesColor

/-- Which log records are written, and what cannot be understood of what the environment says
about it. The verbosity counts for the parts of the program that the environment says nothing
about. -/
def Settings.filter (settings : Settings) (around : Surroundings) :
    Log.Filter × List Log.FilterFault :=
  let base := Log.Filter.ofThreshold (thresholdOfVerbosity settings.verbosity)
  match around.lookup "RUST_LOG" with
  | none => (base, [])
  | some text => base.extend text

/-- What a run reports about a filter before anything else. -/
def faultReports (faults : List Log.FilterFault) : String :=
  String.join (faults.map Log.FilterFault.report)

end SexprLexer.Command
