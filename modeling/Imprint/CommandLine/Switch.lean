/-!
# Switches

The grammar of command lines.  A switch has a long name behind two hyphens and may have a short one
behind a single hyphen; short ones can be put together.  A value stands behind an equals sign or in
the next argument.  Two hyphens on their own end the switches.
-/

namespace Imprint.CommandLine

/-- Why a command line is not carried out: it has a mistake, or asks for the program's version or
for help. -/
inductive Stop where
  | usage
  | version
  | help
  deriving DecidableEq

/-- What a switch does: it is on or off, counts how often it is given, takes one value, takes
values with commas between them, or ends the reading. -/
inductive SwitchKind where
  | flag
  | counter
  | value
  | values
  | stop (reason : Stop)
  deriving DecidableEq

/-- Whether a switch takes a value. -/
def SwitchKind.takesValue : SwitchKind → Bool
  | .value | .values => true
  | .flag | .counter | .stop _ => false

/-- A switch.  A variable of the environment may give its value where the command line does not. -/
structure Switch where
  name : String
  short : Option Char
  kind : SwitchKind
  fallback : Option String
  accepts : String → Bool

namespace Switch

/-- A switch that is on or off. -/
def flag (name : String) (short : Option Char) : Switch :=
  { name, short, kind := .flag, fallback := none, accepts := fun _ => true }

/-- A switch that takes any text. -/
def text (name : String) (short : Option Char) (fallback : Option String) : Switch :=
  { name, short, kind := .value, fallback, accepts := fun _ => true }

/-- A switch that takes a path, which must not be empty. -/
def path (name : String) (short : Option Char) (fallback : Option String) : Switch :=
  { name, short, kind := .value, fallback, accepts := fun path => !path.isEmpty }

/-- A switch that takes one of several names. -/
def choice (name : String) (named : List (String × α)) : Switch :=
  { name, short := none, kind := .value, fallback := none
    accepts := fun text => (named.lookup text).isSome }

end Switch

/-- What a command line gives: values under the names of switches, in order, and the arguments that
are no switches. -/
structure Given where
  values : List (String × List String)
  operands : List String
  deriving DecidableEq

namespace Given

/-- Nothing is given. -/
def nothing : Given := ⟨[], []⟩

/-- The values of a switch. -/
def all (given : Given) (name : String) : List String := (given.values.lookup name).getD []

/-- Whether a switch is given. -/
def has (given : Given) (name : String) : Bool := (given.values.lookup name).isSome

/-- The value of a switch. -/
def value? (given : Given) (name : String) : Option String := (given.all name).head?

/-- What the value of a switch stands for in a table of names. -/
def choice? (given : Given) (name : String) (named : List (String × α)) : Option α :=
  (given.value? name).bind fun text => named.lookup text

/-- The same with further values for a switch. -/
def append (given : Given) (name : String) (texts : List String) : Given :=
  { given with
    values := (name, given.all name ++ texts) :: given.values.filter fun entry =>
      entry.1 != name }

/-- The same with one more occurrence of a switch.  Only counters and switches with several values
may be repeated. -/
def add (given : Given) (switch : Switch) (value : Option String) : Except Stop Given :=
  match switch.kind, value with
  | .stop reason, none => .error reason
  | .counter, none => .ok (given.append switch.name [""])
  | .flag, none =>
      if given.has switch.name then .error .usage else .ok (given.append switch.name [""])
  | .value, some text =>
      if given.has switch.name || !switch.accepts text then .error .usage
      else .ok (given.append switch.name [text])
  | .values, some text =>
      let texts := text.splitOn ","
      if texts.all switch.accepts then .ok (given.append switch.name texts) else .error .usage
  | _, _ => .error .usage

end Given

/-- What may stand on a command line: switches, the names of commands that take the rest of the
line, and a number of other arguments. -/
structure Grammar (κ : Type) where
  switches : List Switch
  commands : List (String × κ)
  operands : Nat

namespace Grammar

variable {κ : Type}

/-- The switch with a long name. -/
def long? (grammar : Grammar κ) (name : String) : Option Switch :=
  grammar.switches.find? (·.name == name)

/-- The switch with a short name. -/
def short? (grammar : Grammar κ) (letter : Char) : Option Switch :=
  grammar.switches.find? (·.short == some letter)

/-- Reads a long switch; one that waits for its value is handed back. -/
def readLong (grammar : Grammar κ) (given : Given) (argument : List Char) :
    Except Stop (Given × Option Switch) :=
  let name := String.ofList (argument.takeWhile (· != '='))
  let attached := match argument.dropWhile (· != '=') with
    | _ :: text => some (String.ofList text)
    | [] => none
  match grammar.long? name with
  | none => .error .usage
  | some switch =>
      if switch.kind.takesValue && attached.isNone then .ok (given, some switch)
      else (given.add switch attached).map fun given => (given, none)

/-- Reads short switches; one that waits for its value is handed back. -/
def readShorts (grammar : Grammar κ) (given : Given) :
    List Char → Except Stop (Given × Option Switch)
  | [] => .ok (given, none)
  | letter :: rest =>
      match grammar.short? letter with
      | none => .error .usage
      | some switch =>
          if switch.kind.takesValue then
            match rest with
            | [] => .ok (given, some switch)
            | '=' :: text =>
                (given.add switch (String.ofList text)).map fun given => (given, none)
            | text => (given.add switch (String.ofList text)).map fun given => (given, none)
          else do
            let given ← given.add switch none
            readShorts grammar given rest

/-- Takes an argument that is no switch. -/
def addOperand (grammar : Grammar κ) (given : Given) (argument : String) : Except Stop Given :=
  if given.operands.length < grammar.operands then
    .ok { given with operands := given.operands ++ [argument] }
  else .error .usage

/-- Reads a command line up to its end or to the name of a command, which is given with the rest of
the line.  `waiting` is a switch whose value comes next. -/
def read (grammar : Grammar κ) (waiting : Option Switch) (given : Given) :
    List String → Except Stop (Given × Option (κ × List String))
  | [] => if waiting.isSome then .error .usage else .ok (given, none)
  | argument :: rest =>
      let isSwitch := 1 < argument.length && argument.toList.head? == some '-'
      match waiting with
      | some switch =>
          if isSwitch then .error .usage
          else do
            let given ← given.add switch argument
            read grammar none given rest
      | none =>
          match grammar.commands.lookup argument with
          | some command => .ok (given, some (command, rest))
          | none =>
              if argument = "--" then
                (rest.foldlM grammar.addOperand given).map fun given => (given, none)
              else
                match argument.toList with
                | '-' :: '-' :: text => do
                    let (given, waiting) ← grammar.readLong given text
                    read grammar waiting given rest
                | '-' :: letter :: text => do
                    let (given, waiting) ← grammar.readShorts given (letter :: text)
                    read grammar waiting given rest
                | _ => do
                    let given ← grammar.addOperand given argument
                    read grammar none given rest

/-- Reads a whole command line, on which nothing may be missing. -/
def readAll (grammar : Grammar κ) (arguments : List String) :
    Except Stop (Given × Option (κ × List String)) := do
  let (given, command) ← grammar.read none Given.nothing arguments
  let complete :=
    if grammar.commands.isEmpty then given.operands.length == grammar.operands
    else command.isSome
  if complete then return (given, command) else .error .usage

end Grammar

end Imprint.CommandLine
