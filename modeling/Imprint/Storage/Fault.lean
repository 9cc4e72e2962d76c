/-!
# Why storage refuses

Storage kept in memory knows three refusals.  The operating system has more, each with a text and
a number of its own.
-/

namespace Imprint.Storage

/-- Reasons that the operating system gives. -/
inductive SystemFault where
  | noEntry
  | exists
  | notDirectory
  | isDirectory
  | nameTooLong
  | invalidName
  | notUtf8
  deriving DecidableEq

/-- The system's text for a reason. -/
def SystemFault.message : SystemFault → String
  | .noEntry => "No such file or directory (os error 2)"
  | .exists => "File exists (os error 17)"
  | .notDirectory => "Not a directory (os error 20)"
  | .isDirectory => "Is a directory (os error 21)"
  | .nameTooLong => "File name too long (os error 36)"
  | .invalidName => "file name contained an unexpected NUL byte"
  | .notUtf8 => "stream did not contain valid UTF-8"

/-- What was asked of the operating system. -/
inductive Action where
  | createDirectory
  | writeFile
  | readFile
  | removeFile
  deriving DecidableEq

/-- An action as it is named in reports. -/
def Action.phrase : Action → String
  | .createDirectory => "create directory"
  | .writeFile => "write file"
  | .readFile => "read file"
  | .removeFile => "remove file"

/-- Why storage refused an operation. -/
inductive Fault where
  | writeRejected
  | parentMissing
  | fileMissing
  | system (action : Action) (cause : SystemFault)
  deriving DecidableEq

/-- The text of a refusal. -/
def Fault.message : Fault → String
  | .writeRejected => "write rejected"
  | .parentMissing => "Parent directory does not exist"
  | .fileMissing => "No such file"
  | .system action cause => s!"Failed to {action.phrase}: {cause.message}"

end Imprint.Storage
