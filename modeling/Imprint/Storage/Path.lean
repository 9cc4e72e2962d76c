/-!
# Paths

A path is a text whose parts are separated by slashes.  Two paths are the same if they have the
same components: repeated slashes and single dots inside a path do not count, but a leading dot
does.
-/

namespace Imprint.Storage

/-- A component of a path.  A leading dot is one, other dots are none. -/
inductive Component where
  | root
  | current
  | parent
  | name (text : String)
  deriving DecidableEq

namespace Component

/-- The position of a component among components of other kinds. -/
def rank : Component → Nat
  | .root => 0
  | .current => 1
  | .parent => 2
  | .name _ => 3

/-- The order of components: by kind, and names by their characters. -/
def less (first second : Component) : Bool :=
  match first, second with
  | .name first, .name second => first < second
  | first, second => first.rank < second.rank

/-- The order of lists of components. -/
def listLess : List Component → List Component → Bool
  | [], [] => false
  | [], _ :: _ => true
  | _ :: _, [] => false
  | first :: firsts, second :: seconds =>
      if first = second then listLess firsts seconds else first.less second

end Component

namespace Path

/-- The pieces of a text between slashes. -/
def splitSlash : List Char → List (List Char)
  | [] => [[]]
  | c :: rest =>
      if c == '/' then [] :: splitSlash rest
      else
        match splitSlash rest with
        | [] => [[c]]
        | piece :: pieces => (c :: piece) :: pieces

/-- Whether a piece stands for no component inside a path. -/
def isIdle (piece : List Char) : Bool := piece.isEmpty || piece == ['.']

/-- The component of a piece inside a path. -/
def componentOf (piece : List Char) : Component :=
  if piece = ['.', '.'] then .parent else .name (String.ofList piece)

/-- The components of the pieces inside a path. -/
def bodyComponents (pieces : List (List Char)) : List Component :=
  (pieces.filter fun piece => !isIdle piece).map componentOf

/-- The components of a path. -/
def components (path : String) : List Component :=
  match splitSlash path.toList with
  | [] :: next :: pieces => .root :: bodyComponents (next :: pieces)
  | ['.'] :: pieces => .current :: bodyComponents pieces
  | pieces => bodyComponents pieces

/-- The non-empty prefixes of a list, the shortest first. -/
def prefixesOf : List α → List (List α)
  | [] => []
  | first :: rest => [first] :: (prefixesOf rest).map (first :: ·)

/-- Whether a path begins at the root. -/
def isAbsolute (path : String) : Bool := path.toList.head? == some '/'

/-- One path followed by another; an absolute one stands for itself. -/
def join (first second : String) : String :=
  if isAbsolute second || first.isEmpty then second
  else if first.toList.getLast? == some '/' then first ++ second
  else first ++ "/" ++ second

/-- The pieces of a path without the idle ones at the end. -/
def trimPieces (pieces : List (List Char)) : List (List Char) :=
  (pieces.reverse.dropWhile isIdle).reverse

/-- Pieces with slashes between them. -/
def joinPieces : List (List Char) → List Char
  | [] => []
  | [piece] => piece
  | piece :: next :: pieces => piece ++ '/' :: joinPieces (next :: pieces)

/-- The pieces of a path without the last component. -/
def parentPieces (pieces : List (List Char)) : Option (List (List Char)) :=
  match trimPieces pieces with
  | [] => none
  | piece :: pieces => some (trimPieces (piece :: pieces).dropLast)

/-- The path without its last component.  The root and the empty path have none. -/
def parent? (path : String) : Option String :=
  let text :=
    match splitSlash path.toList with
    | [] :: next :: pieces =>
        (parentPieces (next :: pieces)).map fun pieces => '/' :: joinPieces pieces
    | ['.'] :: pieces =>
        match parentPieces pieces with
        | some pieces => some (joinPieces (['.'] :: pieces))
        | none => some []
    | pieces => (parentPieces pieces).map joinPieces
  text.map String.ofList

/-- A path behind those of the directories above it, as far as `depth` steps lead. -/
def lineageWithin : Nat → String → List String
  | 0, path => [path]
  | depth + 1, path =>
      match parent? path with
      | some parent => if parent.isEmpty then [path] else lineageWithin depth parent ++ [path]
      | none => [path]

/-- A path behind those of the directories above it, the outermost first. -/
def lineage (path : String) : List String := lineageWithin (components path).length path

/-- What follows the last dot of a name, unless the name begins with that dot or has none. -/
def extension? (name : String) : Option String :=
  let ending := name.toList.reverse.takeWhile (· != '.')
  if name.length ≤ ending.length + 1 then none else some (String.ofList ending.reverse)

end Path

end Imprint.Storage
