import Imprint.Environment
import Imprint.Storage.Disk
import Imprint.Text.Letter
import Imprint.Text.Scan

/-!
# Environment files

A file of assignments `NAME=value` that provides variables for those that are missing.  Values may
be quoted, may go on over several lines inside quotes, and may mention variables that are known
already.  The first line that cannot be read ends the file; what was provided before stays.
-/

namespace Imprint.Environment

open Text

/-! ## Lines -/

/-- Where the reader of lines is: between quotes or not, and behind a backslash or not. -/
inductive LineState where
  | complete
  | escape
  | strong
  | strongEscape
  | weak
  | weakEscape
  | space
  deriving DecidableEq

/-- The state after a character outside quotes. -/
def LineState.afterPlain (c : Char) : LineState :=
  if c == '\\' then .escape
  else if c == '"' then .weak
  else if c == '\'' then .strong
  else .complete

/-- The state after a character; a number sign behind white space begins a comment, and then there
is none. -/
def LineState.next? (state : LineState) (c : Char) : Option LineState :=
  match state with
  | .space => if c == '#' then none else some (LineState.afterPlain c)
  | .complete =>
      if isBlank c && c != '\n' && c != '\r' then some .space else some (LineState.afterPlain c)
  | .escape => some .complete
  | .weak => some (if c == '\\' then .weakEscape else if c == '"' then .complete else .weak)
  | .weakEscape => some .weak
  | .strong => some (if c == '\\' then .strongEscape else if c == '\'' then .complete else .strong)
  | .strongEscape => some .strong

/-- What precedes a comment on a line, and the state at its end unless there is a comment. -/
def scanLine : LineState → List Char → List Char × Option LineState
  | state, [] => ([], some state)
  | state, c :: rest =>
      match state.next? c with
      | none => ([], none)
      | some next =>
          let (kept, final) := scanLine next rest
          (c :: kept, final)

/-- The lines of a text, each with its line break. -/
def rawLines : List Char → List (List Char)
  | [] => []
  | c :: rest =>
      if c == '\n' then [c] :: rawLines rest
      else
        match rawLines rest with
        | [] => [[c]]
        | line :: lines => (c :: line) :: lines

/-- A line without the line break at its end. -/
def dropLineEnd (line : List Char) : List Char :=
  match line.reverse with
  | '\n' :: '\r' :: rest => rest.reverse
  | '\n' :: rest => rest.reverse
  | _ => line

/-- The lines of a file joined to assignments: one goes on while quotes are open or white space
ends the line.  An assignment that the end of the file cuts off is none. -/
def assignmentLines : LineState → List Char → List (List Char) → List (Option (List Char))
  | state, _, [] => if state = .complete then [] else [none]
  | state, before, line :: lines =>
      let whole := before ++ line
      if (trimStart whole).head? == some '#' then some [] :: assignmentLines .complete [] lines
      else
        match scanLine state line with
        | (kept, none) => some (before ++ kept) :: assignmentLines .complete [] lines
        | (_, some .complete) => some (dropLineEnd whole) :: assignmentLines .complete [] lines
        | (_, some unfinished) => assignmentLines unfinished whole lines

/-! ## Values -/

/-- The quotes that a character of a value stands between. -/
inductive Quoting where
  | plain
  | weak
  | strong
  deriving DecidableEq

/-- What the characters read last ask for: that the next one is taken as it is, that a variable is
inserted, or that nothing but a comment follows. -/
inductive Pending where
  | nothing
  | escape
  | mention (braced : Bool) (name : List Char)
  | ended

/-- The character behind a backslash. -/
def escaped? (c : Char) : Option Char :=
  if c == 'n' then some '\n'
  else if c == '\\' || c == '\'' || c == '"' || c == '$' || c == ' ' then some c
  else none

/-- What the end of a value adds.  Quotes and braces must be closed. -/
def endValue? (look : List Char → List Char) : Quoting → Pending → Option (List Char)
  | .plain, .mention false name => some (look name)
  | .plain, .mention true _ => none
  | .plain, _ => some []
  | _, _ => none

/-- A value from some place on; `look` gives the values of variables. -/
def value? (look : List Char → List Char) : Quoting → Pending → List Char → Option (List Char)
  | quoting, pending, [] => endValue? look quoting pending
  | quoting, .ended, c :: rest =>
      if c == ' ' || c == '\t' then value? look quoting .ended rest
      else if c == '#' then some []
      else none
  | quoting, .escape, c :: rest =>
      (escaped? c).bind fun taken => (value? look quoting .nothing rest).map (taken :: ·)
  | quoting, .mention true name, c :: rest =>
      if c == '\x7d' then (value? look quoting .nothing rest).map (look name ++ ·)
      else value? look quoting (.mention true (name ++ [c])) rest
  | quoting, .mention false name, c :: rest =>
      if isAlphanumeric c then value? look quoting (.mention false (name ++ [c])) rest
      else if c == '\x7b' && name.isEmpty then value? look quoting (.mention true []) rest
      else if c == '$' then (value? look quoting (.mention false []) rest).map (look name ++ ·)
      else (value? look quoting .nothing rest).map fun value => look name ++ c :: value
  | .strong, .nothing, c :: rest =>
      if c == '\'' then value? look .plain .nothing rest
      else (value? look .strong .nothing rest).map (c :: ·)
  | .weak, .nothing, c :: rest =>
      if c == '$' then value? look .weak (.mention false []) rest
      else if c == '"' then value? look .plain .nothing rest
      else if c == '\\' then value? look .weak .escape rest
      else (value? look .weak .nothing rest).map (c :: ·)
  | .plain, .nothing, c :: rest =>
      if c == '$' then value? look .plain (.mention false []) rest
      else if c == '\'' then value? look .strong .nothing rest
      else if c == '"' then value? look .weak .nothing rest
      else if c == '\\' then value? look .plain .escape rest
      else if c == ' ' || c == '\t' then value? look .plain .ended rest
      else (value? look .plain .nothing rest).map (c :: ·)

/-! ## Assignments -/

/-- A name at the head of a text and the rest without leading white space. -/
def name? (text : List Char) : Option (List Char × List Char) :=
  let inName := fun c : Char => c.isAlphanum || c == '_' || c == '.'
  match text with
  | c :: _ =>
      if c.isAlpha || c == '_' then
        some (text.takeWhile inName, trimStart (text.dropWhile inName))
      else none
  | [] => none

/-- The name on the left of an assignment and the text behind the equals sign.  The word `export`
may stand before the name. -/
def target? (text : List Char) : Option (List Char × List Char) := do
  let (name, rest) ← name? text
  match expect? '=' rest with
  | some value => some (name, value)
  | none =>
      if name = ['e', 'x', 'p', 'o', 'r', 't'] then do
        let (name, rest) ← name? rest
        let value ← expect? '=' rest
        some (name, value)
      else none

/-- The environment after one line, unless the line cannot be read. -/
def applyLine? (environment : Environment) (line : List Char) : Option Environment := do
  let text := trim line
  if text.isEmpty || text.head? == some '#' then some environment
  else
    let (name, rest) ← target? text
    let source := trimStart rest
    let look := fun name => ((environment.get? (String.ofList name)).getD "").toList
    let value ←
      if source.isEmpty || source.head? == some '#' then some []
      else value? look .plain .nothing source
    some (environment.provide (String.ofList name) (String.ofList value))

/-- The environment after lines, up to the first that cannot be read. -/
def applyLines : Environment → List (Option (List Char)) → Environment
  | environment, [] => environment
  | environment, none :: _ => environment
  | environment, some line :: lines =>
      match applyLine? environment line with
      | some next => applyLines next lines
      | none => environment

/-- The environment with the variables that the text of a file provides. -/
def provideText (environment : Environment) (text : String) : Environment :=
  let source := match text.toList with
    | '\ufeff' :: rest => rest
    | source => source
  applyLines environment (assignmentLines .complete [] (rawLines source))

/-! ## Files -/

/-- The name of environment files. -/
def fileName : String := ".env"

/-- The paths where an environment file is looked for: in a directory, then in those above it. -/
def candidatePaths (directory : Storage.Place) : List String :=
  let above := (Storage.Path.prefixesOf directory).reverse ++ [[]]
  above.map fun place => String.join (place.map ("/" ++ ·)) ++ "/" ++ fileName

/-- The environment with the variables of the nearest environment file, if there is one. -/
def provideNearest (environment : Environment) (disk : Storage.Disk) : Environment :=
  match (candidatePaths disk.current).findSome? fun path => (disk.readText path).toOption with
  | some text => environment.provideText text
  | none => environment

end Imprint.Environment
