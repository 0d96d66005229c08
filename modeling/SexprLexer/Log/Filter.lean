import SexprLexer.Log
import SexprLexer.Pattern.OfString
import SexprLexer.Pattern.Places
import SexprLexer.Text.Blank

/-!
# Filters of the log

A filter decides which records are written. Each of its directives sets a threshold for the parts
of the program whose names begin in a certain way, and the directive that says most about the name
of a part decides. A filter may also ask for messages in which a pattern occurs.

A filter is written as directives with commas between them, after which a slash and a pattern may
follow: `info,scanner=trace/emit`. What cannot be understood in it is left out and reported.
-/

namespace SexprLexer.Log

/-- A threshold for the parts of the program whose names begin in a certain way. -/
structure Directive where
  /-- What the names begin with. Without it, the directive is for whatever no other one is for. -/
  name : Option String
  threshold : Threshold
  deriving DecidableEq

namespace Directive

/-- Whether a directive is for the part of the program called `target`. -/
def covers (d : Directive) (target : String) : Bool :=
  d.name.all fun name => name.toList.isPrefixOf target.toList

/-- How much a directive says about a name. -/
def detail (d : Directive) : Nat :=
  match d.name with
  | none => 0
  | some name => name.utf8ByteSize + 1

end Directive

/-- Which records are written. -/
structure Filter where
  directives : List Directive
  /-- What occurs in the messages. -/
  pattern : Option Pattern
  deriving DecidableEq

namespace Filter

/-- The filter with a threshold for all parts of the program. -/
def ofThreshold (threshold : Threshold) : Filter := ⟨[⟨none, threshold⟩], none⟩

/-- The directive that says most, the later one of two that say as much. -/
def decisive? (directives : List Directive) : Option Directive :=
  directives.foldl
    (fun best? d =>
      match best? with
      | none => some d
      | some best => if d.detail < best.detail then some best else some d)
    none

/-- The threshold for the part of the program called `target`. -/
def thresholdOf (f : Filter) (target : String) : Threshold :=
  match decisive? (f.directives.filter (·.covers target)) with
  | none => .off
  | some d => d.threshold

/-- Whether a record is written. -/
def admits (f : Filter) (r : Record) : Bool :=
  (f.thresholdOf r.target).admits r.level && f.pattern.all (·.occursIn r.message)

/-- Alone, a threshold for all parts of the program decides by the level of a record. -/
@[simp]
theorem admits_ofThreshold (threshold : Threshold) (r : Record) :
    (ofThreshold threshold).admits r = threshold.admits r.level := by
  simp [admits, thresholdOf, decisive?, ofThreshold, Directive.covers]

end Filter

/-! ### Written filters -/

/-- What cannot be understood in a written filter. -/
inductive FilterFault where
  | directive (text : String)
  | slashes (text : String)
  | pattern (fault : Pattern.Fault)
  deriving DecidableEq

/-- What is wrong, in words. -/
def FilterFault.message : FilterFault → String
  | directive text => "invalid logging spec '" ++ text ++ "'"
  | slashes text => "invalid logging spec '" ++ text ++ "' (too many '/'s)"
  | pattern fault => "invalid regex filter - " ++ fault.message

/-- The report that something is left out of a filter. -/
def FilterFault.report (fault : FilterFault) : String :=
  "warning: " ++ fault.message ++ ", ignoring it\n"

/-- The directive that a text describes: a level for all parts of the program, the name of a part,
or both with an equals sign between them. A part without a level is logged in full. -/
def Directive.ofText (text : List Char) : Except FilterFault Directive :=
  match text.splitOn '=' with
  | [word] =>
    let word := String.ofList word
    match Threshold.named? word with
    | some threshold => .ok ⟨none, threshold⟩
    | none => .ok ⟨some word, .upTo .trace⟩
  | [name, level] =>
    let name := String.ofList name
    let level := String.ofList (Text.trim level)
    if level = "" then .ok ⟨some name, .upTo .trace⟩
    else
      match Threshold.named? level with
      | some threshold => .ok ⟨some name, threshold⟩
      | none => .error (.directive level)
  | _ => .error (.directive (String.ofList text))

namespace Filter

/-- Adds the directives of some texts to a filter; blank texts are none. -/
def addDirectives (f : Filter) : List (List Char) → Filter × List FilterFault
  | [] => (f, [])
  | text :: texts =>
    let text := Text.trim text
    if text.isEmpty then f.addDirectives texts
    else
      match Directive.ofText text with
      | .ok d => { f with directives := f.directives ++ [d] }.addDirectives texts
      | .error fault =>
        let (f, faults) := f.addDirectives texts
        (f, fault :: faults)

/-- Adds a pattern to a filter, if the text describes one. -/
def addPattern (f : Filter) (text : List Char) : Filter × List FilterFault :=
  match Pattern.ofString (String.ofList text) with
  | .ok pattern => ({ f with pattern := some pattern }, [])
  | .error fault => (f, [.pattern fault])

/-- Adds what a text asks for to a filter. -/
def extend (f : Filter) (text : String) : Filter × List FilterFault :=
  match text.toList.splitOn '/' with
  | [] => (f, [])
  | [directives] => f.addDirectives (directives.splitOn ',')
  | [directives, pattern] =>
    let (f, faults) := f.addDirectives (directives.splitOn ',')
    let (f, more) := f.addPattern pattern
    (f, faults ++ more)
  | _ => (f, [.slashes text])

end Filter

end SexprLexer.Log
