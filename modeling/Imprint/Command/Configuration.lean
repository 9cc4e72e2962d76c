import Imprint.Command.Context
import Imprint.Settings.Printer

/-!
# Writing and showing settings

A file with the standard settings can be written as a start, and the settings in force can be
shown, one by one or all together.
-/

namespace Imprint.Command

open CommandLine (InitOptions SettingsQuery)
open Storage (Disk Path.parent?)

/-- A value as it is shown: a text bare, a missing one as nothing, others as JSON. -/
def shown : Json.Value → String
  | .string text => text.getD ""
  | .null => ""
  | value => value.compact

/-- Answers a question about the settings in force; `explicit` is the file that was asked for. -/
def answer (context : Context) (explicit : Option String) (query : SettingsQuery) (disk : Disk) :
    Except Failure String :=
  let console := context.console
  let settings := context.settings
  match query with
  | .get key =>
      match settings.lookup? key with
      | none => .error (.unknownKey key)
      | some value =>
          .ok (if console.isJson then Console.document value else Console.content (shown value))
  | .list =>
      .ok (if console.isJson then Console.document settings.toJson
        else console.header "Current configuration:" ++ Console.content settings.toToml)
  | .path =>
      let file := Settings.fileInUse? disk context.environment explicit
      .ok (Console.content (file.getD (Settings.userFile context.environment)))

/-- Creates the directory that a file belongs into. -/
def createParent (disk : Disk) (path : String) : Except Failure Unit × Disk :=
  match (Storage.Path.parent? path).filter fun parent => !parent.isEmpty with
  | none => (.ok (), disk)
  | some parent =>
      let (result, disk) := Disk.makeDirectories (Disk.depthOf parent) parent disk
      (result.mapError (.file .createSettingsDirectory parent), disk)

/-- Carries out `init`.  A file that is there stays as it is unless overwriting is forced. -/
def init (context : Context) (options : InitOptions) (disk : Disk) : Outcome :=
  let path :=
    if options.inProject then Settings.projectFile else Settings.userFile context.environment
  if disk.holds path && !options.force then
    Outcome.ofResult disk (.ok (context.console.message .warning
      s!"Config already exists at {path} (use --force to overwrite)"))
  else
    match createParent disk path with
    | (.error failure, disk) => Outcome.ofResult disk (.error failure)
    | (.ok _, disk) =>
        match disk.writeText path Settings.standard.toToml with
        | .error cause => Outcome.ofResult disk (.error (.file .writeSettings path cause))
        | .ok disk =>
            Outcome.ofResult disk (.ok (context.console.message .success
              s!"Configuration created at {path}"))

end Imprint.Command
