import Imprint.Assembly
import Imprint.CommandLine.Switch
import Imprint.Console
import Imprint.Naming.Convention

/-!
# Invocations

The commands of the program with their options, and how a command line is read as one of them.
Options that apply to every command may stand before or after its name; where both are given, the
one behind counts.
-/

namespace Imprint.CommandLine

/-! ## Commands -/

/-- The options of every command. -/
structure GlobalOptions where
  inDetail : Bool
  quiet : Bool
  noColor : Bool
  settingsFile : Option String
  format : OutputFormat
  deriving DecidableEq

/-- What templates and names a command works with. -/
structure ServiceOptions where
  descriptorName : Option DescriptorName
  templates : Option String
  deriving DecidableEq

/-- The options of `generate`. -/
structure GenerateOptions where
  languages : List String
  record : RecordOptions
  service : ServiceOptions
  directory : Option String
  checked : Bool
  dryRun : Bool
  force : Bool
  buildInfoFile : Option String
  versionFile : Option String
  deriving DecidableEq

/-- Which texts of a pair are printed. -/
inductive Part where
  | one (half : Half)
  | both
  deriving DecidableEq

/-- The options of `render`. -/
structure RenderOptions where
  language : Option String
  record : RecordOptions
  service : ServiceOptions
  part : Part
  deriving DecidableEq

/-- The options of `check`. -/
structure CheckOptions where
  language : String
  files : Halves String
  convention : Option Convention
  service : ServiceOptions
  deriving DecidableEq

/-- How languages are listed. -/
inductive ListFormat where
  | table
  | names
  | json
  | csv
  deriving DecidableEq

/-- The options of `list`. -/
structure ListOptions where
  format : ListFormat
  service : ServiceOptions
  deriving DecidableEq

/-- The options of `init`. -/
structure InitOptions where
  inProject : Bool
  force : Bool
  deriving DecidableEq

/-- What is asked about the settings. -/
inductive SettingsQuery where
  | get (key : String)
  | list
  | path
  deriving DecidableEq

/-- A command with its options. -/
inductive Command where
  | generate (options : GenerateOptions)
  | render (options : RenderOptions)
  | check (options : CheckOptions)
  | list (options : ListOptions)
  | init (options : InitOptions)
  | settings (query : SettingsQuery)
  deriving DecidableEq

/-- A command and the options of every command. -/
structure Invocation where
  options : GlobalOptions
  command : Command
  deriving DecidableEq

/-! ## Grammars -/

/-- The names of the commands. -/
inductive CommandName where
  | generate
  | render
  | check
  | list
  | init
  | settings
  | help
  deriving DecidableEq

/-- The names of the questions about settings. -/
inductive QueryName where
  | get
  | list
  | path
  | help
  deriving DecidableEq

/-- The ways of naming the descriptor. -/
def descriptorNames : List (String × DescriptorName) :=
  [("smart", .smart), ("tag-or-branch", .tagOrBranch), ("tag_or_branch", .tagOrBranch)]

/-- The parts that can be printed. -/
def parts : List (String × Part) :=
  [("declaration", .one .declaration), ("definition", .one .definition), ("both", .both)]

/-- The formats of lists. -/
def listFormats : List (String × ListFormat) :=
  [("table", .table), ("list", .names), ("json", .json), ("csv", .csv)]

/-- A switch that takes the name of a convention. -/
def conventionSwitch : Switch :=
  { Switch.text "convention" none none with
    accepts := fun text => (Convention.parse text).toOption.isSome }

/-- The switches of every command. -/
def globalSwitches : List Switch :=
  [{ Switch.flag "verbose" (some 'v') with kind := .counter },
   .flag "quiet" (some 'q'),
   .flag "no-color" none,
   .path "config" (some 'c') none,
   .choice "output-format" OutputFormat.named,
   { Switch.flag "help" (some 'h') with kind := .stop .help }]

/-- The switches of commands that assemble a record. -/
def recordSwitches : List Switch :=
  [.text "version" none (some "BUILDSTAMP_VERSION"),
   .text "commit-hash" none (some "BUILDSTAMP_COMMIT_HASH"),
   .text "commit-date" none (some "BUILDSTAMP_COMMIT_DATE"),
   .text "git-date" none (some "BUILDSTAMP_GIT_DATE"),
   .text "descriptor" none (some "BUILDSTAMP_DESCRIPTOR"),
   .text "tag" none (some "BUILDSTAMP_TAG"),
   .text "branch" none (some "BUILDSTAMP_BRANCH"),
   .text "build-date" none (some "BUILDSTAMP_BUILD_DATE"),
   .text "version-tag-pattern" none (some "BUILDSTAMP_VERSION_TAG_PATTERN"),
   .path "version-file-input" none (some "BUILDSTAMP_VERSION_FILE_INPUT"),
   .text "version-pattern" none (some "BUILDSTAMP_VERSION_PATTERN"),
   .path "from-json" none none,
   .choice "descriptor-name" descriptorNames]

/-- The line up to the name of a command. -/
def rootGrammar : Grammar CommandName where
  switches := globalSwitches ++
    [{ Switch.flag "version" (some 'V') with kind := .stop .version }]
  commands :=
    [("generate", .generate), ("gen", .generate), ("render", .render), ("check", .check),
     ("list", .list), ("ls", .list), ("init", .init), ("config", .settings), ("help", .help)]
  operands := 0

/-- A line without further commands. -/
def plainGrammar (switches : List Switch) (operands : Nat) : Grammar Empty where
  switches := globalSwitches ++ switches
  commands := []
  operands := operands

/-- The line of `generate`. -/
def generateGrammar : Grammar Empty :=
  plainGrammar
    (recordSwitches ++
      [{ Switch.text "lang" (some 'l') none with kind := .values },
       .path "out-dir" (some 'o') none,
       .path "templates-dir" none none,
       .flag "check" none,
       .flag "dry-run" none,
       .flag "force" (some 'f'),
       .path "build-info-file" none none,
       .path "version-file" none none]) 0

/-- The line of `render`. -/
def renderGrammar : Grammar Empty :=
  plainGrammar
    (recordSwitches ++
      [.text "lang" (some 'l') none,
       .path "templates-dir" none none,
       .choice "part" parts]) 0

/-- The line of `check`. -/
def checkGrammar : Grammar Empty :=
  plainGrammar
    [.text "lang" (some 'l') none,
     .path "declaration" none none,
     .path "definition" none none,
     conventionSwitch,
     .choice "descriptor-name" descriptorNames,
     .path "templates-dir" none none] 0

/-- The line of `list`. -/
def listGrammar : Grammar Empty :=
  plainGrammar [.choice "format" listFormats, .path "templates-dir" none none] 0

/-- The line of `init`. -/
def initGrammar : Grammar Empty :=
  plainGrammar [.flag "local" none, .flag "force" (some 'f')] 0

/-- The line up to a question about settings. -/
def queryGrammar : Grammar QueryName where
  switches := globalSwitches
  commands := [("get", .get), ("list", .list), ("path", .path), ("help", .help)]
  operands := 0

/-! ## Reading -/

/-- Fails unless a condition holds. -/
def require (condition : Bool) : Except Stop Unit := if condition then .ok () else .error .usage

/-- Adds the values that the environment gives to switches that are not on the line. -/
def completed (environment : Environment) (switches : List Switch) (given : Given) :
    Except Stop Given :=
  switches.foldlM (fun given switch =>
    match switch.fallback.bind environment.get? with
    | some text => if given.has switch.name then .ok given else given.add switch text
    | none => .ok given) given

/-- What is given about a build.  A commit has one date, raw or not. -/
def readRecordOptions (environment : Environment) (given : Given) :
    Except Stop RecordOptions := do
  let given ← completed environment recordSwitches given
  require !(given.has "commit-date" && given.has "git-date")
  return {
    given := {
      version := given.value? "version"
      commitHash := given.value? "commit-hash"
      commitDate := given.value? "commit-date"
      commitDescriptor := given.value? "descriptor"
      buildDate := given.value? "build-date" }
    rawCommitDate := given.value? "git-date"
    tag := given.value? "tag"
    branch := given.value? "branch"
    tagPattern := given.value? "version-tag-pattern"
    versionFile := given.value? "version-file-input"
    versionPattern := given.value? "version-pattern"
    savedRecord := given.value? "from-json" }

/-- What templates and names a command works with. -/
def readServiceOptions (given : Given) : ServiceOptions where
  descriptorName := given.choice? "descriptor-name" descriptorNames
  templates := given.value? "templates-dir"

/-- The options of `generate`. -/
def readGenerate (environment : Environment) (given : Given) : Except Stop GenerateOptions := do
  let record ← readRecordOptions environment given
  return {
    record
    languages := given.all "lang"
    service := readServiceOptions given
    directory := given.value? "out-dir"
    checked := given.has "check"
    dryRun := given.has "dry-run"
    force := given.has "force"
    buildInfoFile := given.value? "build-info-file"
    versionFile := given.value? "version-file" }

/-- The options of `render`. -/
def readRender (environment : Environment) (given : Given) : Except Stop RenderOptions := do
  let record ← readRecordOptions environment given
  return {
    record
    language := given.value? "lang"
    service := readServiceOptions given
    part := (given.choice? "part" parts).getD .both }

/-- The options of `check`, of which three must be given. -/
def readCheck (given : Given) : Except Stop CheckOptions :=
  match given.value? "lang", given.value? "declaration", given.value? "definition" with
  | some language, some declaration, some definition =>
      .ok {
        language
        files := { declaration, definition }
        convention := (given.value? "convention").bind fun text => (Convention.parse text).toOption
        service := readServiceOptions given }
  | _, _, _ => .error .usage

/-- The options of `list`. -/
def readList (given : Given) : ListOptions where
  format := (given.choice? "format" listFormats).getD .table
  service := readServiceOptions given

/-- The options of `init`. -/
def readInit (given : Given) : InitOptions where
  inProject := given.has "local"
  force := given.has "force"

/-- A command and what the parts of its line give, the outermost first. -/
abbrev Reading := Command × List Given

/-- A question about settings. -/
def readQuery (arguments : List String) : Except Stop Reading := do
  let (outer, name) ← queryGrammar.readAll arguments
  let some (name, rest) := name | throw .usage
  match name with
  | .help => throw .help
  | .get => do
      let (inner, _) ← (plainGrammar [] 1).readAll rest
      return (.settings (.get (inner.operands.headD "")), [outer, inner])
  | .list => do
      let (inner, _) ← (plainGrammar [] 0).readAll rest
      return (.settings .list, [outer, inner])
  | .path => do
      let (inner, _) ← (plainGrammar [] 0).readAll rest
      return (.settings .path, [outer, inner])

/-- A command from the arguments behind its name. -/
def readCommand (environment : Environment) (name : CommandName) (arguments : List String) :
    Except Stop Reading := do
  match name with
  | .generate => do
      let (given, _) ← generateGrammar.readAll arguments
      return (.generate (← readGenerate environment given), [given])
  | .render => do
      let (given, _) ← renderGrammar.readAll arguments
      return (.render (← readRender environment given), [given])
  | .check => do
      let (given, _) ← checkGrammar.readAll arguments
      return (.check (← readCheck given), [given])
  | .list => do
      let (given, _) ← listGrammar.readAll arguments
      return (.list (readList given), [given])
  | .init => do
      let (given, _) ← initGrammar.readAll arguments
      return (.init (readInit given), [given])
  | .settings => readQuery arguments
  | .help => throw .help

/-- The words that keep a variable from turning something off. -/
def wordsForNo : List String := ["", "n", "no", "f", "false", "off", "0"]

/-- Whether a variable that can turn colours off does so. -/
def turnsOff (text : String) : Bool :=
  !wordsForNo.contains (String.ofList (Text.lower text.toList))

/-- The options of every command, from all parts of a line, of which later ones count. -/
def readGlobal (environment : Environment) (line : List Given) : GlobalOptions :=
  let has := fun name => line.any fun given => given.has name
  { inDetail := has "verbose"
    quiet := has "quiet"
    noColor := has "no-color" || ((environment.get? "NO_COLOR").map turnsOff).getD false
    settingsFile := line.reverse.findSome? fun given => given.value? "config"
    format := (line.reverse.findSome? fun given =>
      given.choice? "output-format" OutputFormat.named).getD .auto }

/-- The invocation that a command line asks for.  No part of the line can turn messages off and ask
for details at once. -/
def read (environment : Environment) (arguments : List String) : Except Stop Invocation := do
  let (outer, name) ← rootGrammar.readAll arguments
  let some (name, rest) := name | throw .usage
  let (command, inner) ← readCommand environment name rest
  let line := outer :: inner
  require (line.all fun given => !(given.has "quiet" && given.has "verbose"))
  return { options := readGlobal environment line, command }

end Imprint.CommandLine
