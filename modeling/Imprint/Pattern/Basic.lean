import Imprint.Text.Letter

/-!
# Patterns

A pattern describes pieces of text.  Its meaning is a function from a place in a text to the
places where a match that begins there can end, the preferred one first.  Two ways to the same
place differ in what they capture only, and the preferred way counts, so each place is listed
once.  A search takes the first place of a text where a match begins, and its preferred end.
-/

namespace Imprint

open Text

/-- Conditions on a place between two characters. -/
inductive Edge where
  | textStart
  | textEnd
  | lineStart
  | lineEnd
  | returnLineStart
  | returnLineEnd
  | boundary (isWord : Char → Bool)
  | noBoundary (isWord : Char → Bool)
  | wordStart (isWord : Char → Bool)
  | wordEnd (isWord : Char → Bool)
  | wordStartHalf (isWord : Char → Bool)
  | wordEndHalf (isWord : Char → Bool)

/-- Whether a condition holds between the character before a place and the text after it. -/
def Edge.holds (edge : Edge) (before : Option Char) (rest : List Char) : Bool :=
  let after := rest.head?
  match edge with
  | .textStart => before.isNone
  | .textEnd => after.isNone
  | .lineStart => before.isNone || before == some '\n'
  | .lineEnd => after.isNone || after == some '\n'
  | .returnLineStart =>
      before.isNone || before == some '\n' || (before == some '\r' && after != some '\n')
  | .returnLineEnd =>
      after.isNone || after == some '\r' || (after == some '\n' && before != some '\r')
  | .boundary isWord => before.any isWord != after.any isWord
  | .noBoundary isWord => before.any isWord == after.any isWord
  | .wordStart isWord => !before.any isWord && after.any isWord
  | .wordEnd isWord => before.any isWord && !after.any isWord
  | .wordStartHalf isWord => !before.any isWord
  | .wordEndHalf isWord => !after.any isWord

/-- A description of pieces of text. -/
inductive Pattern where
  | empty
  | char (accepts : Char → Bool)
  | edge (edge : Edge)
  | group (number : Nat) (inner : Pattern)
  | seq (first second : Pattern)
  | either (first second : Pattern)
  | repeated (greedy : Bool) (inner : Pattern)

/-- A place in a text and what the first group has captured on the way there. -/
structure Place where
  before : Option Char
  rest : List Char
  captured : Option (List Char)
  deriving DecidableEq

namespace Place

/-- How far a place is from the end of the text; it tells places of one text apart. -/
def remaining (place : Place) : Nat := place.rest.length

/-- The place after the next character, if it is accepted. -/
def advance (accepts : Char → Bool) (place : Place) : List Place :=
  match place.rest with
  | [] => []
  | c :: rest => if accepts c then [{ place with before := some c, rest }] else []

/-- The place at the end of a group that began at `start`. -/
def capture (start place : Place) : Place :=
  { place with captured := some (start.rest.take (start.remaining - place.remaining)) }

/-- The places that are not at one of the given distances from the end, each once. -/
def distinctFrom (seen : List Nat) : List Place → List Place
  | [] => []
  | place :: rest =>
      if seen.contains place.remaining then distinctFrom seen rest
      else place :: distinctFrom (place.remaining :: seen) rest

/-- Each place once, the first time. -/
def distinct (places : List Place) : List Place := distinctFrom [] places

end Place

namespace Pattern

/-- The places that one or more rounds lead to, and the places where rounds have begun.  A round
begins at most once at each place; `fuel` bounds the number of rounds in a row. -/
def rounds (step : Place → List Place) (greedy : Bool) :
    Nat → List Nat → Place → List Place × List Nat
  | 0, begun, _ => ([], begun)
  | fuel + 1, begun, place =>
      if begun.contains place.remaining then ([], begun)
      else
        (step place).foldl
          (fun (found, begun) next =>
            let (later, begun) := rounds step greedy fuel begun next
            (found ++ (if greedy then later ++ [next] else next :: later), begun))
          ([], place.remaining :: begun)

/-- The places where a match that begins at a place can end, in order of preference. -/
def ends : Pattern → Place → List Place
  | .empty, place => [place]
  | .char accepts, place => place.advance accepts
  | .edge condition, place => if condition.holds place.before place.rest then [place] else []
  | .group number inner, place =>
      (ends inner place).map fun next => if number = 1 then place.capture next else next
  | .seq first second, place =>
      Place.distinct ((ends first place).flatMap fun next => ends second next)
  | .either first second, place => Place.distinct (ends first place ++ ends second place)
  | .repeated greedy inner, place =>
      Place.distinct
        (rounds (fun next => ends inner next) greedy (place.remaining + 1) [] place).1

/-- The preferred end of the first match in a text that follows `before`. -/
def search (pattern : Pattern) (before : Option Char) : List Char → Option Place
  | [] => (ends pattern ⟨before, [], none⟩).head?
  | c :: rest =>
      match (ends pattern ⟨before, c :: rest, none⟩).head? with
      | some place => some place
      | none => search pattern (some c) rest

/-- The largest number of a group. -/
def groupCount : Pattern → Nat
  | .empty | .char _ | .edge _ => 0
  | .group number inner => max number (groupCount inner)
  | .seq first second | .either first second => max (groupCount first) (groupCount second)
  | .repeated _ inner => groupCount inner

/-- Whether a pattern describes nothing but empty pieces of text. -/
def isEmptyOnly : Pattern → Bool
  | .empty | .edge _ => true
  | .char _ => false
  | .group _ inner | .repeated _ inner => isEmptyOnly inner
  | .seq first second | .either first second => isEmptyOnly first && isEmptyOnly second

/-! ## Composition -/

/-- Two patterns one after the other. -/
def append : Pattern → Pattern → Pattern
  | first, .empty => first
  | .empty, second => second
  | first, second => .seq first second

/-- A pattern or nothing; a greedy one is preferred to nothing. -/
def optional (greedy : Bool) (pattern : Pattern) : Pattern :=
  if greedy then .either pattern .empty else .either .empty pattern

/-- A pattern a fixed number of times. -/
def times (pattern : Pattern) : Nat → Pattern
  | 0 => .empty
  | count + 1 => append pattern (times pattern count)

/-- A pattern at most a fixed number of times. -/
def upTo (greedy : Bool) (pattern : Pattern) : Nat → Pattern
  | 0 => .empty
  | count + 1 => optional greedy (append pattern (upTo greedy pattern count))

/-- A pattern at least a fixed number of times. -/
def atLeast (greedy : Bool) (pattern : Pattern) : Nat → Pattern
  | 0 => optional greedy (.repeated greedy pattern)
  | count + 1 => append (times pattern count) (.repeated greedy pattern)

/-- A pattern at least `least` and at most `most` times.  More than one empty piece of text makes
no difference. -/
def repetition (greedy : Bool) (least : Nat) (most : Option Nat) (pattern : Pattern) : Pattern :=
  if pattern.isEmptyOnly then
    if most = some 0 then .empty
    else if 0 < least then pattern
    else optional greedy pattern
  else
    match most with
    | none => atLeast greedy pattern least
    | some most =>
        if most = 0 then .empty
        else append (times pattern least) (upTo greedy pattern (most - least))

end Pattern

end Imprint
