import Imprint.Json.Value
import Imprint.Number.Numeral
import Imprint.Settings
import Imprint.Toml.Value

/-!
# Settings in the making

Settings come in layers of which each overrides those before it.  A layer has entries with a path
and a value.  Tables are merged member by member; any other value replaces what was there.
-/

namespace Imprint.Settings

/-- A value that a layer gives, whatever it was written in. -/
inductive Tree where
  | absent
  | truth (value : Bool)
  | integer (value : Int)
  | float (value : Binary64)
  | text (value : String)
  | list (items : List Tree)
  | branch (members : List (String × Tree))

/-- One step of a path: to a member of a table, or to an item of a list, which is counted from the
end if the index is negative. -/
inductive Step where
  | member (key : String)
  | item (index : Int)
  deriving DecidableEq

/-! ## Paths -/

/-- Characters of the keys in a path. -/
def isKeyChar (c : Char) : Bool := c.isAlphanum || c == '_' || c == '-'

/-- The key at the head of a text and the rest. -/
def splitKey? (text : List Char) : Option (Step × List Char) :=
  let key := text.takeWhile isKeyChar
  if key.isEmpty then none else some (.member (String.ofList key), text.dropWhile isKeyChar)

/-- The index at the head of a text, with the bracket that closes it, and the rest. -/
def splitIndex? (text : List Char) : Option (Step × List Char) :=
  let (sign, body) := match text with
    | '-' :: rest => (['-'], rest)
    | rest => ([], rest)
  match body.dropWhile Char.isDigit with
  | ']' :: rest =>
      (int64? (String.ofList (sign ++ body.takeWhile Char.isDigit))).map fun index =>
        (.item index, rest)
  | _ => none

/-- The steps that follow the first key of a path. -/
def stepsFrom? : Nat → List Char → Option (List Step)
  | _, [] => some []
  | 0, _ => none
  | fuel + 1, '.' :: rest => do
      let (step, rest) ← splitKey? rest
      (stepsFrom? fuel rest).map (step :: ·)
  | fuel + 1, '[' :: rest => do
      let (step, rest) ← splitIndex? rest
      (stepsFrom? fuel rest).map (step :: ·)
  | _, _ => none

/-- The path that a text spells: keys behind dots and indices between brackets. -/
def path? (text : String) : Option (List Step) := do
  let (step, rest) ← splitKey? text.toList
  (stepsFrom? rest.length rest).map (step :: ·)

/-- The path of an entry.  A text that spells no path is a key as a whole. -/
def pathOf (text : String) : List Step := (path? text).getD [.member text]

namespace Tree

/-! ## Changes -/

/-- The members of a table; other values have none. -/
def members : Tree → List (String × Tree)
  | .branch members => members
  | _ => []

/-- The items of a list; other values have none. -/
def items : Tree → List Tree
  | .list items => items
  | _ => []

/-- Members with one changed; a new one is absent before the change. -/
def changeMember (key : String) (change : Tree → Tree) :
    List (String × Tree) → List (String × Tree)
  | [] => [(key, change .absent)]
  | (name, value) :: rest =>
      if name = key then (name, change value) :: rest
      else (name, value) :: changeMember key change rest

/-- Items with one changed.  Absent ones are added where the index lies outside. -/
def changeItem (index : Int) (change : Tree → Tree) (items : List Tree) : List Tree :=
  if 0 ≤ index then
    let position := index.toNat
    (items ++ List.replicate (position + 1 - items.length) absent).modify position change
  else
    let back := (-index).toNat
    (List.replicate (back - items.length) absent ++ items).modify (items.length - back) change

/-- A value with a change at the end of a path.  Tables and lists on the way replace other
values. -/
def update (change : Tree → Tree) : List Step → Tree → Tree
  | [], tree => change tree
  | .member key :: steps, tree => .branch (changeMember key (update change steps) tree.members)
  | .item index :: steps, tree => .list (changeItem index (update change steps) tree.items)

mutual

/-- A value laid over another one. -/
def merge (base : Tree) : Tree → Tree
  | .branch members => .branch (mergeMembers base.members members)
  | other => other

/-- Members laid over others. -/
def mergeMembers (base : List (String × Tree)) : List (String × Tree) → List (String × Tree)
  | [] => base
  | (key, value) :: rest => mergeMembers (changeMember key (fun old => merge old value) base) rest

end

end Tree

/-! ## Layers -/

/-- The entries of a layer. -/
abbrev Layer := List (String × Tree)

/-- A tree with one more entry. -/
def addEntry (tree : Tree) (entry : String × Tree) : Tree :=
  tree.update (fun old => old.merge entry.2) (pathOf entry.1)

/-- A tree with a layer over it. -/
def addLayer (tree : Tree) (layer : Layer) : Tree := layer.foldl addEntry tree

/-- Layers over each other, the first one at the bottom. -/
def merged (layers : List Layer) : Tree := layers.foldl addLayer (.branch [])

/-- A setting as a value. -/
def treeOf : Setting → Tree
  | .text value => .text value
  | .optionalText (some value) => .text value
  | .optionalText none => .absent
  | .texts values => .list (values.map .text)
  | .truth value => .truth value

/-- Settings as a layer. -/
def toLayer (settings : Settings) : Layer :=
  settings.sections.map fun (name, entries) =>
    (name, .branch (entries.map fun (key, setting) => (key, treeOf setting)))

mutual

/-- A value of the configuration language.  Dates count as texts. -/
def ofToml : Toml.Value → Tree
  | .string text => .text text
  | .integer number => .integer number
  | .float number => .float number
  | .boolean truth => .truth truth
  | .moment text => .text text
  | .array values => .list (itemsOfToml values)
  | .table entries => .branch (membersOfToml entries)

/-- The values of an array. -/
def itemsOfToml : List Toml.Value → List Tree
  | [] => []
  | value :: values => ofToml value :: itemsOfToml values

/-- The entries of a table. -/
def membersOfToml : List (String × Toml.Value) → List (String × Tree)
  | [] => []
  | (key, value) :: rest => (key, ofToml value) :: membersOfToml rest

end

/-- The value of a JSON number: an integer if it is written as one and fits into 64 bits, else the
nearest floating-point number, which must be finite. -/
def ofNumber? (spelling : String) : Option Tree :=
  let (negative, digits) := splitSign spelling.toList
  let number := signedValue negative digits
  if isDigits digits && -Int.pow 2 63 ≤ number && number < Int.pow 2 64 &&
      !(negative && number == 0) then
    some (.integer number)
  else
    match Binary64.parse? spelling with
    | some (.finite sign mantissa exponent) => some (.float (.finite sign mantissa exponent))
    | _ => none

mutual

/-- A JSON value. -/
def ofJson? : Json.Value → Option Tree
  | .null => some .absent
  | .boolean truth => some (.truth truth)
  | .number spelling => ofNumber? spelling
  | .string text => text.map .text
  | .array values => (itemsOfJson? values).map .list
  | .object entries => (membersOfJson? entries).map .branch

/-- The values of an array. -/
def itemsOfJson? : List Json.Value → Option (List Tree)
  | [] => some []
  | value :: values => do
      let first ← ofJson? value
      let rest ← itemsOfJson? values
      some (first :: rest)

/-- The members of an object; of several with one key the last counts. -/
def membersOfJson? : List (Option String × Json.Value) → Option (List (String × Tree))
  | [] => some []
  | (key, value) :: entries => do
      let key ← key
      let first ← ofJson? value
      let rest ← membersOfJson? entries
      some (if rest.any (·.1 == key) then rest else (key, first) :: rest)

end

end Imprint.Settings
