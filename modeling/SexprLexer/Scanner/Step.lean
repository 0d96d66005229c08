import SexprLexer.Scanner.Stream

/-!
# Requests to a scanner

A client may mix the ways of taking tokens from a scanner. Each request is a step that gives a
reply and leaves the scanner for the next one.
-/

namespace SexprLexer.Scanner

/-- A request to a scanner. -/
inductive Step where
  | next
  | nth (n : Nat)
  | take (n : Nat)
  /-- The first token of a kind, with the given characters if there are any. -/
  | find (kind : Token.Kind) (text : Option String)
  | count
  | last
  | drain
  deriving DecidableEq

/-- What a scanner replies to a request. -/
inductive Step.Reply where
  | token (token : Option Token)
  | tokens (tokens : List Token)
  | number (n : Nat)
  deriving DecidableEq

/-- Whether a token is what a request to find one asks for. -/
def Step.wants (kind : Token.Kind) (text : Option String) (t : Token) : Bool :=
  match text with
  | none => t.kind == kind
  | some text => t.is kind text

/-- The reply to a request, and the scanner after it. -/
def perform (s : Scanner) : Step → Step.Reply × Scanner
  | .next => s.next.map .token id
  | .nth n => (s.nth n).map .token id
  | .take n => (s.take n).map .tokens id
  | .find kind text => (s.find (Step.wants kind text)).map .token id
  | .count => s.count.map .number id
  | .last => s.last.map .token id
  | .drain => s.drain.map .tokens id

end SexprLexer.Scanner
