import Imprint.Error
import Imprint.Settings.Sources

/-!
# Failures of a command

Why a command ends early: an error of the library, or something that is wrong with the command
itself, with its settings or with a file that it needs.  A failure is reported with its causes and
with advice, and decides the exit code.
-/

namespace Imprint

/-- What a command needs a file or directory for. -/
inductive Need where
  | readVersion
  | readRecord
  | createSettingsDirectory
  | writeSettings
  deriving DecidableEq

/-- A failure to get at a file or directory, as it is reported. -/
def Need.message (path : String) : Need → String
  | .readVersion => s!"Failed to read version file '{path}'"
  | .readRecord => s!"Failed to read '{path}'"
  | .createSettingsDirectory => s!"Failed to create config directory '{path}'"
  | .writeSettings => s!"Failed to write config to '{path}'"

/-- Why a command ends early. -/
inductive Failure where
  | noLanguage
  | notARecord (path : String)
  | settings (fault : Settings.Fault)
  | unknownDescriptorName (name : String)
  | unknownKey (key : String)
  | refused (error : Error)
  | file (need : Need) (path : String) (cause : Storage.SystemFault)
  deriving DecidableEq

namespace Failure

/-- What was wrong, without the words that tell the kind of failure. -/
def detail : Failure → String
  | .noLanguage => "no language given; pass --lang or set defaults.languages"
  | .notARecord path => s!"'{path}' is not a build info JSON document"
  | .settings .unreadable =>
      "Failed to read configuration: the file is missing, of unknown format or malformed"
  | .settings .invalid => "Invalid configuration: a setting has a value of the wrong kind"
  | .unknownDescriptorName name =>
      s!"defaults.descriptor_name must be 'smart' or 'tag_or_branch', got '{name}'"
  | .unknownKey key => s!"Unknown config key: '{key}'"
  | .refused error => error.message
  | .file need path _ => need.message path

/-- The kinds of failure. -/
inductive Kind where
  | input
  | configuration
  | library (category : ErrorCategory)
  | system
  deriving DecidableEq

/-- The kind of a failure. -/
def kind : Failure → Kind
  | .noLanguage | .notARecord _ => .input
  | .settings _ | .unknownDescriptorName _ | .unknownKey _ => .configuration
  | .refused error => .library error.category
  | .file .. => .system

/-- The text of a failure. -/
def message (failure : Failure) : String :=
  match failure.kind with
  | .input => "Invalid input: " ++ failure.detail
  | .configuration => "Configuration error: " ++ failure.detail
  | .library _ => failure.detail
  | .system => "I/O error: " ++ failure.detail

/-- What led to a failure, nearest first.  An error of the library is wrapped twice, and each time
has the same text. -/
def causes : Failure → List String
  | .refused error => [error.message, error.message]
  | .file _ _ cause => [cause.message]
  | .notARecord _ => ["the text is malformed or a member is of the wrong kind"]
  | .noLanguage | .settings _ | .unknownDescriptorName _ | .unknownKey _ => []

/-- Advice on what to do about a failure. -/
def advice (failure : Failure) : List String :=
  match failure with
  | .refused error => error.suggestions
  | _ =>
      match failure.kind with
      | .input => ["Check your input: " ++ failure.detail, "Use --help for usage information"]
      | .configuration =>
          ["Configuration issue: " ++ failure.detail,
           "Check the file shown by 'buildstamp config path'",
           "Use 'buildstamp init --force' to recreate a default config"]
      | .library _ | .system =>
          ["I/O operation failed: " ++ failure.detail, "Check file permissions",
           "Ensure the parent directory exists"]

/-- The exit code of a kind of failure. -/
def Kind.exitCode : Kind → Nat
  | .input | .library .validation | .library .consistency => 2
  | .library .notFound => 3
  | .configuration | .library .configuration => 4
  | .system | .library .internal => 1

/-- The exit code of a failure. -/
def exitCode (failure : Failure) : Nat := failure.kind.exitCode

/-- Lines that are indented by two spaces. -/
def indented (lines : List String) : String :=
  String.join (lines.map fun line => "  " ++ line ++ "\n")

/-- The report on a failure.  In detail it gives the causes, else it tells how to see them. -/
def report (inDetail : Bool) (failure : Failure) : String :=
  "\nError: " ++ failure.message ++ "\n" ++
    (if inDetail then indented (failure.causes.map ("Caused by: " ++ ·)) else "") ++
    "\nSuggestions:\n" ++ indented failure.advice ++
    (if inDetail then "" else "\nUse -v / --verbose for more details.\n")

end Failure

end Imprint
