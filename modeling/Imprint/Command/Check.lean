import Imprint.Command.Context

/-!
# Checking files

Checks that two files name the five fields alike.
-/

namespace Imprint.Command

open CommandLine (CheckOptions)
open Storage (Disk)

/-- The content of a file that is checked. -/
def readChecked (disk : Disk) (path : String) : Except Failure String :=
  (Storage.Backend.read disk path).mapError .refused

/-- The report on two files that agree. -/
def checkReport (options : CheckOptions) : Json.Value :=
  .ofEntries
    [("consistent", .boolean true), ("declaration", .ofString options.files.declaration),
     ("definition", .ofString options.files.definition), ("language", .ofString options.language)]

/-- Carries out `check`. -/
def check (context : Context) (options : CheckOptions) (disk : Disk) : Except Failure String := do
  let service ← context.service options.service disk
  let declaration ← readChecked disk options.files.declaration
  let definition ← readChecked disk options.files.definition
  (service.catalog.check service.registry options.language options.convention declaration
    definition).mapError .refused
  let console := context.console
  let files := options.files
  return if console.isJson then Console.document (checkReport options)
    else console.message .success
      s!"{files.declaration} and {files.definition} agree on all five fields"

end Imprint.Command
