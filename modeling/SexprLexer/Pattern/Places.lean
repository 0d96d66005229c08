import SexprLexer.Pattern.Basic

/-!
# Where patterns occur

A text has a place before each of its characters and one at its end. From each place a pattern
leads to the places where a stretch of text that looks like the pattern ends; a pattern occurs in
a text if it leads anywhere at all.

A set of places is a number: the place with the number `i` belongs to it if the bit `i` is set.
-/

namespace SexprLexer.Pattern

/-- A set of places. -/
abbrev Places := Nat

/-- The places of a text where a condition holds on the characters before and after, where
`before` is the one before the text. -/
def placesWhere (condition : Option Char → Option Char → Bool) (before : Option Char) :
    List Char → Places
  | [] => (condition before none).toNat
  | c :: text =>
    2 * placesWhere condition (some c) text + (condition before (some c)).toNat

/-- All places of a text. -/
def allPlaces (text : List Char) : Places := 1 <<< (text.length + 1) - 1

/-- Each place of a text by itself. -/
def eachPlace (text : List Char) : List Places := (List.range (text.length + 1)).map (1 <<< ·)

/-- What is to be done with some sets of places; nothing where no place is left. -/
def whileAny (starts : List Places) (go : List Places → List Places) : List Places :=
  if starts.all (· == 0) then starts else go starts

/-- Where one character with a property leads from each of some sets. -/
def throughOne (text : List Char) (p : Char → Bool) (starts : List Places) : List Places :=
  whileAny starts fun starts =>
    let before := placesWhere (fun _ next => next.any p) none text
    starts.map fun places => (places &&& before) <<< 1

/-- Where one step leads from each place, with the number of that place. -/
abbrev Step := List (Places × Nat)

namespace Step

/-- Where one step leads from a set. -/
def once (step : Step) (places : Places) : Places :=
  step.foldl (fun led (ends, i) => if places.testBit i then led ||| ends else led) 0

/-- Where `count` steps lead from a set. -/
def times (step : Step) : Nat → Places → Places
  | 0, places => places
  | count + 1, places =>
    let led := step.once places
    if led = places then places else step.times count led

/-- Where up to `count` steps lead, if they have led to `reached` so far and only the places in
`fresh` are new. -/
def upTo (step : Step) (reached fresh : Places) : Nat → Places
  | 0 => reached
  | count + 1 =>
    let led := step.once fresh
    let fresh := led ^^^ (led &&& reached)
    if fresh = 0 then reached else step.upTo (reached ||| fresh) fresh count

/-- Where any number of steps leads from a set. As no step leads back, each place is looked at
once, from left to right. -/
def anyTimes (step : Step) (places : Places) : Places :=
  step.foldl (fun reached (ends, i) => if reached.testBit i then reached ||| ends else reached)
    places

/-- Where `least` to `most` steps lead from a set. As no step leads back, as many steps as there
are places lead as far as any larger number of them. -/
def repeated (step : Step) (least : Nat) (most : Option Nat) (places : Places) : Places :=
  let start := step.times (min least step.length) places
  match most with
  | none => step.anyTimes start
  | some most => step.upTo start start (min (most - least) step.length)

end Step

/-- Where a pattern leads from each of some sets of places of a text. -/
def ends (text : List Char) : Pattern → List Places → List Places
  | empty, starts => starts
  | anchor a, starts =>
    let held := placesWhere (fun before next => a.holds before next) none text
    starts.map (· &&& held)
  | literal chars, starts => chars.foldl (fun starts c => throughOne text (· == c) starts) starts
  | one set, starts => throughOne text set.contains starts
  | sequence first second, starts => whileAny (ends text first starts) (ends text second)
  | choice first second, starts =>
    List.zipWith (· ||| ·) (ends text first starts) (ends text second starts)
  | repetition p least most _, starts =>
    let step : Step := (ends text p (eachPlace text)).zipIdx
    starts.map (step.repeated least most)
  | group _ p, starts => ends text p starts

/-- Whether a pattern occurs anywhere in a text. -/
def occursIn (p : Pattern) (text : String) : Bool :=
  (p.ends text.toList [allPlaces text.toList]).any (· != 0)

end SexprLexer.Pattern
