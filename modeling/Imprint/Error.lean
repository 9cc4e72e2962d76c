import Imprint.Field
import Imprint.Half
import Imprint.Storage.Fault

/-!
# Errors

Every refusal is a cause with the data that it concerns.  Its text, its advice and its category
are functions of the cause.
-/

namespace Imprint

/-- The reported name of a field that one half of a pair lacks. -/
def missingMark : String := "<missing>"

/-- What a template draft can lack. -/
inductive TemplatePart where
  | convention
  | escape
  | files
  | skeleton (half : Half)
  deriving DecidableEq

/-- A part as it is named in reports. -/
def TemplatePart.phrase : TemplatePart → String
  | .convention => "a naming convention"
  | .escape => "an escape style"
  | .files => "output file names"
  | .skeleton half => s!"a {half.name} skeleton"

/-- What can be wrong with a template or with the manifest that describes it. -/
inductive TemplateFault where
  | unknownEscapeStyle (name : String)
  | unterminatedPlaceholder (half : Half)
  | unknownPlaceholder (name : String)
  | unknownAccessor (accessor : String) (field : Field)
  | declaredValue (field : Field)
  | fieldOrder (half : Half) (found : List Field)
  | valueCount (field : Field) (count : Nat)
  | languageMissing
  | languageBlank (language : String)
  | partMissing (language : String) (part : TemplatePart)
  | sharedFile (language : String) (file : String)
  | invalidOverride (language : String) (field : Field) (identifier : String)
  | invalidManifest
  | skeletonTwice (half : Half)
  | skeletonAbsent (half : Half)
  | skeletonFileWithoutDirectory (half : Half) (file : String)
  | skeletonFileUnreadable (half : Half) (path : String) (cause : Storage.SystemFault)
  | directoryMissing (directory : String)
  deriving DecidableEq

/-- The text of a template fault. -/
def TemplateFault.message : TemplateFault → String
  | .unknownEscapeStyle name => s!"unknown escape style: {name}"
  | .unterminatedPlaceholder half => s!"unterminated placeholder in {half.name} skeleton"
  | .unknownPlaceholder name => "unknown placeholder '\x7b\x7b" ++ name ++ "\x7d\x7d'"
  | .unknownAccessor accessor field =>
      s!"unknown placeholder accessor '.{accessor}' on {field.name}"
  | .declaredValue field => s!"value slot for {field.name} in declaration skeleton"
  | .fieldOrder half found =>
      let order := ", ".intercalate (Field.all.map Field.name)
      let seen := if found.isEmpty then "none" else ", ".intercalate (found.map Field.name)
      s!"{half.name} skeleton must reference {order} in that order (found: {seen})"
  | .valueCount field count =>
      s!"definition skeleton has {count} value slots for {field.name}, expected 1"
  | .languageMissing => "template language is required"
  | .languageBlank language => s!"language id '{language}' contains whitespace"
  | .partMissing language part => s!"template '{language}' is missing {part.phrase}"
  | .sharedFile language file => s!"template '{language}' writes both halves to '{file}'"
  | .invalidOverride language field identifier =>
      s!"override for {field.name} in '{language}' is not an identifier: '{identifier}'"
  | .invalidManifest => "invalid manifest"
  | .skeletonTwice half => s!"[{half.name}] sets both 'skeleton' and 'file'"
  | .skeletonAbsent half => s!"[{half.name}] needs 'skeleton' or 'file'"
  | .skeletonFileWithoutDirectory half file =>
      s!"{half.name} skeleton file '{file}' needs a manifest directory"
  | .skeletonFileUnreadable half path cause =>
      s!"failed to read {half.name} skeleton '{path}': {cause.message}"
  | .directoryMissing directory => s!"templates directory not found: {directory}"

/-- What can be wrong with a version pattern. -/
inductive PatternFault where
  | malformed
  | noCaptureGroup
  deriving DecidableEq

/-- The cause of a refusal. -/
inductive Error where
  | unknownField (field : String)
  | unsupportedConvention (convention : String)
  | invalidTemplate (fault : TemplateFault)
  | spellingCollision (language spelling : String) (first second : Field)
  | invalidDate (field : Field) (text : String)
  | noVersion (origin pattern : String)
  | invalidPattern (pattern : String) (fault : PatternFault)
  | unsupportedLanguage (language : String) (available : List String)
  | inconsistent (field : Field) (declared defined expected : String)
  | templatesMissing (directory : String)
  | storage (path : String) (fault : Storage.Fault)
  | fileExists (path : String)
  | rollbackFailed (path : String) (fault : Storage.Fault)
  deriving DecidableEq

/-- The kinds of refusal, which decide how a program reports one. -/
inductive ErrorCategory where
  | validation
  | consistency
  | notFound
  | configuration
  | internal
  deriving DecidableEq

namespace Error

/-- The text of an error. -/
def message : Error → String
  | .unknownField field => s!"unknown field '{field}'"
  | .unsupportedConvention convention => s!"unsupported naming convention '{convention}'"
  | .invalidTemplate fault => s!"Invalid template: {fault.message}"
  | .spellingCollision language spelling first second =>
      s!"template '{language}' spells both {first.name} and {second.name} as '{spelling}'"
  | .invalidDate field text => s!"invalid {field.name} value: cannot parse '{text}'"
  | .noVersion origin pattern => s!"no version found in {origin} with pattern '{pattern}'"
  | .invalidPattern pattern .malformed => s!"invalid version pattern '{pattern}'"
  | .invalidPattern pattern .noCaptureGroup =>
      s!"invalid version pattern '{pattern}': no capture group"
  | .unsupportedLanguage language _ => s!"unsupported language '{language}'"
  | .inconsistent field declared defined expected =>
      s!"field {field.name} is inconsistent: declared as '{declared}', defined as '{defined}'" ++
        s!", expected '{expected}'"
  | .templatesMissing directory =>
      s!"Template catalog unavailable: templates directory not found: {directory}"
  | .storage path fault => s!"Filesystem error at {path}: {fault.message}"
  | .fileExists path => s!"Refusing to overwrite existing file {path}"
  | .rollbackFailed path fault => s!"Rollback failed for {path}: {fault.message}"

/-- Advice on what to do about an error. -/
def suggestions : Error → List String
  | .unknownField field =>
      let known := ", ".intercalate (Field.all.map Field.name)
      [s!"'{field}' is not a build metadata field", s!"Known fields: {known}",
       "CommitSmart and CommitTagOrBranch are accepted for CommitDescriptor"]
  | .unsupportedConvention _ =>
      ["Supported conventions: snake_case, camelCase, PascalCase, kebab-case, SCREAMING_SNAKE"]
  | .unsupportedLanguage language available =>
      let known := ", ".intercalate available
      [s!"No template is registered for '{language}'"] ++
        (if available.isEmpty then [] else [s!"Available languages: {known}"]) ++
        ["Try: buildstamp list"]
  | .inconsistent field _ _ expected =>
      [s!"Every occurrence of {field.name} must be spelled '{expected}'",
       "Regenerate both files from the same template: buildstamp generate"]
  | .invalidTemplate _ =>
      ["Placeholders look like \x7b\x7bVersion\x7d\x7d, \x7b\x7bCommitHash.name\x7d\x7d or " ++
        "\x7b\x7bBuildDate.value\x7d\x7d",
       "Each skeleton must reference all five fields in canonical order"]
  | .spellingCollision .. =>
      ["Give each field a distinct spelling in the template's [overrides] table"]
  | .noVersion .. =>
      ["The first capture group of the pattern becomes the version",
       "Adjust --version-tag-pattern or --version-pattern, or pass --version"]
  | .invalidPattern .. =>
      ["Patterns use Rust regex syntax and need one capture group, e.g. ^v?([0-9.]+)$"]
  | .invalidDate .commitDate _ =>
      ["Commit dates are read in git's default format: 2006-01-02 15:04:05 -0700",
       "Pass the value verbatim with --commit-date instead"]
  | .invalidDate .. => ["Check the metadata values you supplied"]
  | .templatesMissing _ =>
      ["A template manifest failed to load", "Check the manifests in your templates directory"]
  | .storage path _ => [s!"Failed to access: {path}", "Check that you have write permissions"]
  | .fileExists path =>
      [s!"File already exists: {path}", "Use --force to overwrite it",
       "Or choose another --out-dir"]
  | .rollbackFailed path _ => [s!"Remove the partially written file by hand: {path}"]

/-- The category of an error. -/
def category : Error → ErrorCategory
  | .unsupportedLanguage .. => .notFound
  | .inconsistent .. => .consistency
  | .templatesMissing _ => .configuration
  | .storage .. | .rollbackFailed .. => .internal
  | .unknownField _ | .unsupportedConvention _ | .invalidTemplate _ | .spellingCollision ..
  | .invalidDate .. | .noVersion .. | .invalidPattern .. | .fileExists _ => .validation

end Error

end Imprint
