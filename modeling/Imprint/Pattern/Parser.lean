import Imprint.Pattern.Basic
import Imprint.Pattern.CharClass
import Imprint.Text.Scan

/-!
# Written patterns

The notation of patterns: literal characters, classes in brackets, groups, alternatives and
repetitions.  A brace always opens a repetition.  Flags change the meaning of what follows them in
their group.  There are no references to groups and no conditions on neighbouring text other than
edges of lines and words.
-/

namespace Imprint.Pattern

open Text

/-- Settings that change what the notation means. -/
structure Flags where
  ignoreCase : Bool
  multiLine : Bool
  dotAll : Bool
  swapGreed : Bool
  returns : Bool
  verbose : Bool
  unicode : Bool

/-- The settings that a pattern begins with. -/
def Flags.initial : Flags := ⟨false, false, false, false, false, false, true⟩

/-- What is left of a notation, the number of groups so far and their names. -/
structure Source where
  rest : List Char
  groups : Nat
  names : List (List Char)

/-- What an escape stands for. -/
inductive Escaped where
  | char (literal : Char)
  | set (members : CharClass)
  | edge (condition : Edge)

/-! ## Small readers -/

/-- The text after white space and comments. -/
def skipComments (inComment : Bool) : List Char → List Char
  | [] => []
  | c :: rest =>
      if inComment then skipComments (c != '\n') rest
      else if isBlank c then skipComments false rest
      else if c == '#' then skipComments true rest
      else c :: rest

/-- The text after white space and comments where they do not count. -/
def Flags.skip (flags : Flags) (text : List Char) : List Char :=
  if flags.verbose then skipComments false text else text

/-- Characters that have a meaning in the notation. -/
def isMeta (c : Char) : Bool :=
  ['\\', '.', '+', '*', '?', '(', ')', '|', '[', ']', '{', '}', '^', '$', '#', '&', '-',
    '~'].contains c

/-- Characters that may stand for themselves behind a backslash. -/
def isEscapable (c : Char) : Bool :=
  isMeta c || (isAscii c && !c.isAlphanum && c != '<' && c != '>')

/-- The characters of a numeral, between which white space may not count. -/
def takeDigits (flags : Flags) (isDigit : Char → Bool) :
    Nat → List Char → List Char × List Char
  | 0, text => ([], text)
  | count + 1, text =>
      match text with
      | [] => ([], [])
      | c :: rest =>
          if isDigit c then
            let (digits, rest) := takeDigits flags isDigit count (flags.skip rest)
            (c :: digits, rest)
          else ([], text)

/-- The character with a hexadecimal code. -/
def hexChar? (digits : List Char) : Option Char :=
  if digits.isEmpty then none else (hexNumber? digits).bind scalar?

/-- A character given by its code: a fixed number of digits, or any number between braces. -/
def hex? (flags : Flags) (length : Nat) (text : List Char) : Option (Char × List Char) :=
  let isHex := fun c => (hexValue? c).isSome
  match flags.skip text with
  | '{' :: rest => do
      let (digits, rest) := takeDigits flags isHex rest.length (flags.skip rest)
      let rest ← expect? '}' rest
      let c ← hexChar? digits
      some (c, rest)
  | rest => do
      let (digits, rest) := takeDigits flags isHex length rest
      if digits.length = length then (hexChar? digits).map fun c => (c, rest) else none

/-- The name of a property between braces. -/
def propertyName? (flags : Flags) : Nat → List Char → Option (List Char × List Char)
  | 0, _ => none
  | fuel + 1, text =>
      match flags.skip text with
      | [] => none
      | '}' :: rest => some ([], rest)
      | c :: rest =>
          (propertyName? flags fuel rest).map fun (name, rest) => (c :: name, rest)

/-- A text around the first occurrence of a mark. -/
def splitAround (mark : List Char) : List Char → Option (List Char × List Char)
  | [] => none
  | c :: rest =>
      if mark.isPrefixOf (c :: rest) then some ([], (c :: rest).drop mark.length)
      else (splitAround mark rest).map fun (before, after) => (c :: before, after)

/-- The class of a property. -/
def property? (name : List Char) : Option CharClass :=
  match splitAround ['!', '='] name with
  | some (kind, value) => (CharClass.valued? kind value).map CharClass.complement
  | none =>
      match (splitAround [':'] name).or (splitAround ['='] name) with
      | some (kind, value) => CharClass.valued? kind value
      | none => CharClass.named? name

/-- The class of a property after the letter that announces it. -/
def propertyClass? (flags : Flags) (negated : Bool) (text : List Char) :
    Option (CharClass × List Char) := do
  let (name, rest) ←
    match flags.skip text with
    | [] => none
    | '{' :: rest => propertyName? flags (rest.length + 1) rest
    | c :: rest => some ([c], rest)
  let members ← if flags.unicode then property? name else none
  some ((members.foldIf flags.ignoreCase).negateIf negated, rest)

/-- The characters of words. -/
def Flags.isWord (flags : Flags) : CharClass :=
  if flags.unicode then isWordCharacter else CharClass.asciiWord

/-- The edge of a word that is named between braces; without such braces, any edge is meant. -/
def boundary? (flags : Flags) (text : List Char) : Option (Edge × List Char) :=
  let isWord := flags.isWord
  match text with
  | '{' :: rest =>
      let inside := flags.skip rest
      let isName := fun c : Char => c.isAlpha || c == '-'
      if inside.head?.any isName then do
        let rest ← expect? '}' (inside.dropWhile isName)
        match String.ofList (inside.takeWhile isName) with
        | "start" => some (.wordStart isWord, rest)
        | "end" => some (.wordEnd isWord, rest)
        | "start-half" => some (.wordStartHalf isWord, rest)
        | "end-half" => some (.wordEndHalf isWord, rest)
        | _ => none
      else some (.boundary isWord, text)
  | _ => some (.boundary isWord, text)

/-- What stands behind a backslash and the rest of the text. -/
def escape? (flags : Flags) : List Char → Option (Escaped × List Char)
  | [] => none
  | c :: rest =>
      match c with
      | 'x' => (hex? flags 2 rest).map fun (literal, rest) => (.char literal, rest)
      | 'u' => (hex? flags 4 rest).map fun (literal, rest) => (.char literal, rest)
      | 'U' => (hex? flags 8 rest).map fun (literal, rest) => (.char literal, rest)
      | 'p' => (propertyClass? flags false rest).map fun (set, rest) => (.set set, rest)
      | 'P' => (propertyClass? flags true rest).map fun (set, rest) => (.set set, rest)
      | 'a' => some (.char '\x07', rest)
      | 'f' => some (.char '\x0c', rest)
      | 't' => some (.char '\t', rest)
      | 'n' => some (.char '\n', rest)
      | 'r' => some (.char '\r', rest)
      | 'v' => some (.char '\x0b', rest)
      | 'A' => some (.edge .textStart, rest)
      | 'z' => some (.edge .textEnd, rest)
      | 'b' => (boundary? flags rest).map fun (condition, rest) => (.edge condition, rest)
      | 'B' => some (.edge (.noBoundary flags.isWord), rest)
      | '<' => some (.edge (.wordStart flags.isWord), rest)
      | '>' => some (.edge (.wordEnd flags.isWord), rest)
      | _ =>
          match CharClass.short? flags.unicode c with
          | some members => some (.set members, rest)
          | none =>
              match CharClass.short? flags.unicode c.toLower with
              | some members =>
                  if flags.unicode then some (.set members.complement, rest) else none
              | none => if isEscapable c then some (.char c, rest) else none

/-! ## Classes in brackets -/

/-- Operations between the parts of a class. -/
inductive SetOperation where
  | intersection
  | difference
  | symmetricDifference

/-- The result of an operation. -/
def SetOperation.apply (operation : SetOperation) (first second : CharClass) : CharClass :=
  match operation with
  | .intersection => fun c => first c && second c
  | .difference => fun c => first c && !second c
  | .symmetricDifference => fun c => first c != second c

/-- A class in the making: the members of the part in hand, and the operation that the part is the
second operand of. -/
structure ClassDraft where
  members : List CharClass
  pending : Option (SetOperation × CharClass)

/-- The class that a draft has come to. -/
def ClassDraft.finish (draft : ClassDraft) (flags : Flags) : CharClass :=
  let members := CharClass.union draft.members
  match draft.pending with
  | none => members
  | some (operation, first) =>
      operation.apply (first.foldIf flags.ignoreCase) (members.foldIf flags.ignoreCase)

/-- The draft with one more member. -/
def ClassDraft.add (draft : ClassDraft) (members : CharClass) : ClassDraft :=
  { draft with members := draft.members ++ [members] }

/-- The draft in which what has been read is the first operand of an operation. -/
def ClassDraft.operate (draft : ClassDraft) (flags : Flags) (operation : SetOperation) :
    ClassDraft :=
  ⟨[], some (operation, draft.finish flags)⟩

/-- A named class of the first 128 characters, after its opening bracket. -/
def asciiClass? (flags : Flags) (text : List Char) : Option (CharClass × List Char) := do
  let rest ← expect? ':' text
  let negated := rest.head? == some '^'
  let rest := if negated then rest.drop 1 else rest
  let (name, rest) ← splitAround [':', ']'] rest
  let members ← CharClass.ascii? (String.ofList name)
  some ((members.foldIf flags.ignoreCase).negateIf negated, rest)

/-- One character or class behind a backslash, or one character, inside brackets. -/
def classItem? (flags : Flags) : List Char → Option (Escaped × List Char)
  | [] => none
  | '\\' :: rest => escape? flags rest
  | c :: rest => some (.char c, rest)

/-- A range or a single item inside brackets.  A hyphen before the closing bracket or before
another hyphen makes no range. -/
def classRange? (flags : Flags) (text : List Char) : Option (CharClass × List Char) := do
  let (first, rest) ← classItem? flags text
  let rest := flags.skip rest
  let single : Option (CharClass × List Char) :=
    match first with
    | .char literal => some ((· == literal), rest)
    | .set members => some (members, rest)
    | .edge _ => none
  match rest with
  | '-' :: after =>
      match flags.skip after with
      | ']' :: _ | '-' :: _ => single
      | after => do
          let (last, rest) ← classItem? flags after
          match first, last with
          | .char first, .char last =>
              if first ≤ last then some (CharClass.between first last, rest) else none
          | _, _ => none
  | _ => single

/-- The hyphens that stand at the beginning of a class. -/
def leadingHyphens (flags : Flags) : Nat → List Char → Bool × List Char
  | 0, text => (false, text)
  | fuel + 1, text =>
      match text with
      | '-' :: rest => (true, (leadingHyphens flags fuel (flags.skip rest)).2)
      | _ => (false, text)

/-- The beginning of a class, after its bracket: whether it is negated, and the draft with the
hyphens or the bracket that stand for themselves there. -/
def classStart (flags : Flags) (text : List Char) : Bool × ClassDraft × List Char :=
  let rest := flags.skip text
  let negated := rest.head? == some '^'
  let rest := if negated then flags.skip (rest.drop 1) else rest
  let (hyphens, rest) := leadingHyphens flags rest.length rest
  if hyphens then (negated, ⟨[(· == '-')], none⟩, rest)
  else
    match rest with
    | ']' :: rest => (negated, ⟨[(· == ']')], none⟩, flags.skip rest)
    | _ => (negated, ⟨[], none⟩, rest)

mutual

/-- A class after its opening bracket. -/
def class? (flags : Flags) : Nat → List Char → Option (CharClass × List Char)
  | 0, _ => none
  | fuel + 1, text => do
      let (negated, draft, rest) := classStart flags text
      let (members, rest) ← classFrom? flags fuel draft rest
      if negated && !flags.unicode then none
      else some ((members.foldIf flags.ignoreCase).negateIf negated, rest)

/-- The rest of a class up to its closing bracket. -/
def classFrom? (flags : Flags) : Nat → ClassDraft → List Char → Option (CharClass × List Char)
  | 0, _, _ => none
  | fuel + 1, draft, text =>
      match flags.skip text with
      | [] => none
      | '[' :: rest =>
          match asciiClass? flags rest with
          | some (members, rest) => classFrom? flags fuel (draft.add members) rest
          | none => do
              let (members, rest) ← class? flags fuel rest
              classFrom? flags fuel (draft.add members) rest
      | ']' :: rest => some (draft.finish flags, rest)
      | '&' :: '&' :: rest => classFrom? flags fuel (draft.operate flags .intersection) rest
      | '-' :: '-' :: rest => classFrom? flags fuel (draft.operate flags .difference) rest
      | '~' :: '~' :: rest =>
          classFrom? flags fuel (draft.operate flags .symmetricDifference) rest
      | rest => do
          let (members, rest) ← classRange? flags rest
          classFrom? flags fuel (draft.add members) rest

end

/-! ## Groups and flags -/

/-- A flag turned on or off. -/
def Flags.set (flags : Flags) (on : Bool) : Char → Option Flags
  | 'i' => some { flags with ignoreCase := on }
  | 'm' => some { flags with multiLine := on }
  | 's' => some { flags with dotAll := on }
  | 'U' => some { flags with swapGreed := on }
  | 'R' => some { flags with returns := on }
  | 'x' => some { flags with verbose := on }
  | 'u' => some { flags with unicode := on }
  | _ => none

/-- Changed flags up to a colon or a closing parenthesis.  A flag may be changed once, and a minus
sign needs a flag after it. -/
def flags? (flags : Flags) (on : Bool) (seen : List Char) :
    List Char → Option (Flags × List Char)
  | [] => none
  | c :: rest =>
      if c == ':' || c == ')' then
        if seen.getLast? == some '-' then none else some (flags, c :: rest)
      else if c == '-' then
        if on then flags? flags false (seen ++ ['-']) rest else none
      else if seen.contains c then none
      else do
        let changed ← flags.set on c
        flags? changed on (seen ++ [c]) rest

/-- Characters of the name of a group. -/
def isNameChar (isFirst : Bool) (c : Char) : Bool :=
  if isFirst then c == '_' || isAlphabetic c
  else c == '_' || c == '.' || c == '[' || c == ']' || isAlphanumeric c

/-- The name of a group up to its closing bracket. -/
def groupName? (text : List Char) : Option (List Char × List Char) := do
  let (name, rest) ← splitAround ['>'] text
  match name with
  | [] => none
  | c :: others =>
      if isNameChar true c && others.all (isNameChar false) then some (name, rest) else none

/-- What a parenthesis opens: a numbered group, a group with its own flags, or nothing but a change
of flags. -/
inductive Opening where
  | numbered
  | plain (flags : Flags)
  | directive (flags : Flags)

/-- Reads what a parenthesis opens. -/
def opening? (flags : Flags) (source : Source) : Option (Opening × Source) :=
  let text := flags.skip source.rest
  let named := fun rest : List Char => do
    let (name, rest) ← groupName? rest
    if source.names.contains name then none
    else some (Opening.numbered, ⟨rest, source.groups + 1, name :: source.names⟩)
  match text with
  | '?' :: '=' :: _ | '?' :: '!' :: _ => none
  | '?' :: '<' :: '=' :: _ | '?' :: '<' :: '!' :: _ => none
  | '?' :: 'P' :: '<' :: rest => named rest
  | '?' :: '<' :: rest => named rest
  | '?' :: rest => do
      let (changed, after) ← flags? flags true [] rest
      match after with
      | ')' :: after =>
          if rest.head? == some ')' then none
          else some (.directive changed, { source with rest := after })
      | _ => some (.plain changed, { source with rest := after.drop 1 })
  | _ => some (.numbered, { source with rest := text, groups := source.groups + 1 })

/-! ## Patterns -/

/-- A character as a pattern. -/
def literal (flags : Flags) (c : Char) : Pattern :=
  if flags.ignoreCase then
    let variants := (caseVariants c).filter fun variant => flags.unicode || isAscii variant
    .char variants.contains
  else .char (· == c)

/-- A dot. -/
def dot? (flags : Flags) : Option Pattern :=
  if !flags.unicode then none
  else if flags.dotAll then some (.char fun _ => true)
  else if flags.returns then some (.char fun c => c != '\n' && c != '\r')
  else some (.char (· != '\n'))

/-- The mark for the beginning of the text or of a line. -/
def startMark (flags : Flags) : Pattern :=
  .edge (if !flags.multiLine then .textStart
    else if flags.returns then .returnLineStart else .lineStart)

/-- The mark for the end of the text or of a line. -/
def endMark (flags : Flags) : Pattern :=
  .edge (if !flags.multiLine then .textEnd
    else if flags.returns then .returnLineEnd else .lineEnd)

/-- A pattern that is neither a group nor a repetition. -/
def atom? (flags : Flags) : List Char → Option (Pattern × List Char)
  | [] => none
  | '\\' :: rest => do
      let (escaped, rest) ← escape? flags rest
      match escaped with
      | .char c => some (literal flags c, rest)
      | .set members => some (.char members, rest)
      | .edge condition => some (.edge condition, rest)
  | '[' :: rest =>
      (class? flags (2 * rest.length + 2) rest).map fun (members, rest) => (.char members, rest)
  | '.' :: rest => (dot? flags).map fun pattern => (pattern, rest)
  | '^' :: rest => some (startMark flags, rest)
  | '$' :: rest => some (endMark flags, rest)
  | c :: rest => some (literal flags c, rest)

/-- The largest number in a repetition. -/
def maxCount : Nat := Nat.pow 2 32 - 1

/-- The number of a repetition, with white space around it. -/
def count? (flags : Flags) (text : List Char) : Option Nat × List Char :=
  let text := trimStart text
  let (digits, rest) := takeDigits flags Char.isDigit text.length text
  let number := value digits
  (if digits.isEmpty || maxCount < number then none else some number, flags.skip (trimStart rest))

/-- The bounds of a repetition, after its opening brace. -/
def bounds? (flags : Flags) (text : List Char) : Option (Nat × Option Nat × List Char) := do
  let (least, rest) := count? flags (flags.skip text)
  match rest with
  | ',' :: rest =>
      let least ← least
      match flags.skip rest with
      | '}' :: rest => some (least, none, rest)
      | rest =>
          let (most, rest) := count? flags rest
          let most ← most
          let rest ← expect? '}' rest
          if least ≤ most then some (least, some most, rest) else none
  | '}' :: rest =>
      let least ← least
      some (least, some least, rest)
  | _ => none

/-- Whether the repetition before a text is greedy, and the text after the mark that says so. -/
def greed (flags : Flags) : List Char → Bool × List Char
  | '?' :: rest => (flags.swapGreed, rest)
  | rest => (!flags.swapGreed, rest)

/-- The bounds and greed of the repetition mark at the head of a text. -/
def repetitionMark? (flags : Flags) : List Char → Option ((Nat × Option Nat × Bool) × List Char)
  | '?' :: rest =>
      let (greedy, rest) := greed flags rest
      some ((0, some 1, greedy), rest)
  | '*' :: rest =>
      let (greedy, rest) := greed flags rest
      some ((0, none, greedy), rest)
  | '+' :: rest =>
      let (greedy, rest) := greed flags rest
      some ((1, none, greedy), rest)
  | '{' :: rest => do
      let (least, most, rest) ← bounds? flags rest
      let (greedy, rest) := greed flags (flags.skip rest)
      some ((least, most, greedy), rest)
  | _ => none

/-- Whether a character is a repetition mark. -/
def isRepetitionMark (c : Char) : Bool := c == '?' || c == '*' || c == '+' || c == '{'

/-- Patterns in a row, the last one first; a change of flags leaves an empty item. -/
abbrev Row := List (Option Pattern)

/-- The pattern of a row. -/
def Row.toPattern (row : Row) : Pattern :=
  row.foldl (fun rest item => item.elim rest (append · rest)) .empty

/-- The pattern of some alternatives, the last one first. -/
def alternatives (last : Pattern) (earlier : List Pattern) : Pattern :=
  earlier.foldl (fun rest pattern => .either pattern rest) last

/-- The largest size of a pattern, counted in characters and marks. -/
def maxSize : Nat := 250000

/-- The number of characters and marks of a pattern when repetitions are written out. -/
def size : Pattern → Nat
  | .empty => 0
  | .char _ | .edge _ => 1
  | .group _ inner | .repeated _ inner => size inner + 1
  | .seq first second | .either first second => size first + size second

/-- A repetition, unless it is too large. -/
def repetition? (greedy : Bool) (least : Nat) (most : Option Nat) (pattern : Pattern) :
    Option Pattern :=
  if (max least (most.getD 0)) * size pattern ≤ maxSize then
    some (repetition greedy least most pattern)
  else none

/-- The pattern at the head of a text, up to the end or to a closing parenthesis. -/
def pattern? : Nat → Flags → Row → List Pattern → Source → Option (Pattern × Source)
  | 0, _, _, _, _ => none
  | fuel + 1, flags, row, earlier, source =>
      let text := flags.skip source.rest
      match text with
      | [] => some (alternatives row.toPattern earlier, { source with rest := [] })
      | ')' :: _ => some (alternatives row.toPattern earlier, { source with rest := text })
      | '|' :: rest =>
          pattern? fuel flags [] (row.toPattern :: earlier) { source with rest }
      | '(' :: rest => do
          let (opened, inside) ← opening? flags { source with rest }
          let enclosed := fun (inner : Flags) => do
            let (pattern, after) ← pattern? fuel inner [] [] inside
            let rest ← expect? ')' after.rest
            some (pattern, { after with rest })
          match opened with
          | .directive changed => pattern? fuel changed (none :: row) earlier inside
          | .plain inner => do
              let (pattern, after) ← enclosed inner
              pattern? fuel flags (some pattern :: row) earlier after
          | .numbered => do
              let (pattern, after) ← enclosed flags
              pattern? fuel flags (some (.group inside.groups pattern) :: row) earlier after
      | c :: _ =>
          if isRepetitionMark c then
            match row with
            | some pattern :: row => do
                let ((least, most, greedy), rest) ← repetitionMark? flags text
                let repeated ← repetition? greedy least most pattern
                pattern? fuel flags (some repeated :: row) earlier { source with rest }
            | _ => none
          else do
            let (pattern, rest) ← atom? flags text
            pattern? fuel flags (some pattern :: row) earlier { source with rest }

/-- The pattern that a text describes. -/
def parse? (text : String) : Option Pattern := do
  let source : Source := ⟨text.toList, 0, []⟩
  let (pattern, rest) ← pattern? (source.rest.length + 1) Flags.initial [] [] source
  if rest.rest.isEmpty then some pattern else none

end Imprint.Pattern
