import Imprint.Environment
import Imprint.Json.Parser
import Imprint.Settings.Reading
import Imprint.Storage.Disk
import Imprint.Toml.Document

/-!
# Sources of settings

Settings come from the standard values, one file and the environment, each overriding those before
it.  The file is the one that is asked for, else that of the project, else that of the user.
-/

namespace Imprint.Settings

open Storage (Disk Path.components Path.extension? Path.isAbsolute Path.join)
open Text

/-- Why there are no settings: a file that cannot be read, or a value of the wrong kind. -/
inductive Fault where
  | unreadable
  | invalid
  deriving DecidableEq

/-! ## The environment -/

/-- How the names of variables begin that override settings, in small letters. -/
def variableMark : List Char := "buildstamp__".toList

/-- The key of the setting whose variables hold several texts with commas between them. -/
def listKey : String := "defaults.languages"

/-- A name in which two underscores stand for a dot. -/
def dotted : List Char → List Char
  | '_' :: '_' :: rest => '.' :: dotted rest
  | c :: rest => c :: dotted rest
  | [] => []

/-- The path of the setting that a variable overrides. -/
def keyOfVariable? (name : String) : Option String :=
  (expectText? variableMark (lower name.toList)).map fun rest => String.ofList (dotted rest)

/-- The value of a variable for a setting: a truth value, an integer or another number if it looks
like one. -/
def valueOfVariable (key value : String) : Tree :=
  match String.ofList (lower value.toList) with
  | "true" => .truth true
  | "false" => .truth false
  | _ =>
      match int64? value, Binary64.parse? value with
      | some number, _ => .integer number
      | none, some number => .float number
      | none, none =>
          if key = listKey then .list ((value.splitOn ",").map .text) else .text value

/-- The overrides that an environment holds. -/
def environmentLayer (environment : Environment) : Layer :=
  environment.filterMap fun (name, value) =>
    (keyOfVariable? name).map fun key => (key, valueOfVariable key value)

/-! ## Files -/

/-- The file with the settings of a project. -/
def projectFile : String := ".buildstamp.toml"

/-- The file with the settings of a user, in the directory for such files.  Without a home
directory it is that of the project. -/
def userFile (environment : Environment) : String :=
  match nonEmptyVariable "HOME" with
  | some home =>
      let directory := ((environment.get? "XDG_CONFIG_HOME").filter Path.isAbsolute).getD
        (Path.join home ".config")
      Path.join (Path.join directory "buildstamp") "config.toml"
  | none => projectFile
where
  /-- The value of a variable unless it is empty. -/
  nonEmptyVariable (name : String) : Option String :=
    (environment.get? name).filter fun value => !value.isEmpty

/-- The file that settings are read from: the one that is asked for, else the first that is
there. -/
def fileInUse? (disk : Disk) (environment : Environment) (explicit : Option String) :
    Option String :=
  match explicit with
  | some path => some path
  | none => [projectFile, userFile environment].find? disk.isFile

/-- The languages that files of settings are written in. -/
inductive Format where
  | toml
  | json
  deriving DecidableEq

/-- The ending of the names of files in a format. -/
def Format.extension : Format → String
  | .toml => "toml"
  | .json => "json"

/-- Every format. -/
def Format.all : List Format := [.toml, .json]

/-- The format of a file by the ending of its name. -/
def formatOf? (path : String) : Option Format :=
  match (Path.components path).getLast? with
  | some (.name name) =>
      Format.all.find? fun format => Path.extension? name == some format.extension
  | _ => none

/-- A path with the endings of the formats. -/
def completions (path : String) : List (String × Format) :=
  Format.all.map fun format => (path ++ "." ++ format.extension, format)

/-- The file that a path stands for, and its format.  The ending of the name may be left out. -/
def locate? (disk : Disk) (path : String) : Option (String × Format) :=
  if disk.isFile path then (formatOf? path).map fun format => (path, format)
  else (completions path).find? fun file => disk.isFile file.1

/-- The layer that the text of a file gives. -/
def Format.read? (format : Format) (text : String) : Option Layer :=
  match format with
  | .toml => (Toml.parse? text).map membersOfToml
  | .json =>
      match (Json.parse? (Toml.dropByteOrderMark text.toList)).bind ofJson? with
      | some (.branch members) => some members
      | _ => none

/-- The layer that a file gives. -/
def readFile? (disk : Disk) (path : String) : Option Layer := do
  let (path, format) ← locate? disk path
  let text ← (disk.readText path).toOption
  format.read? text

/-- The layer of the file in use, which is empty if there is none. -/
def fileLayer (disk : Disk) (environment : Environment) (explicit : Option String) :
    Except Fault Layer :=
  match fileInUse? disk environment explicit with
  | none => .ok []
  | some path =>
      match readFile? disk path with
      | some layer => .ok layer
      | none => .error .unreadable

/-! ## All together -/

/-- The settings that the layer of a file and an environment give. -/
def ofLayers (file : Layer) (environment : Environment) : Except Fault Settings :=
  match ofTree? (merged [standard.toLayer, file, environmentLayer environment]) with
  | some settings => .ok settings
  | none => .error .invalid

/-- The settings in force. -/
def load (disk : Disk) (environment : Environment) (explicit : Option String) :
    Except Fault Settings := do
  ofLayers (← fileLayer disk environment explicit) environment

end Imprint.Settings
