import Imprint.Catalog.Directory
import Imprint.CommandLine.Invocation
import Imprint.Settings.Sources

/-!
# What commands work with

Every command sees the environment, the time, the settings and the console, and most commands need
a catalog of templates and a way of naming the descriptor.
-/

namespace Imprint.Command

open CommandLine (ServiceOptions)
open Storage (Disk)

/-- What a command sees. -/
structure Context where
  environment : Environment
  now : Timestamp
  settings : Settings
  console : Console

/-- What comes of a command: its output, a failure if it ended early, and the files that it left
behind. -/
structure Outcome where
  output : String
  failure : Option Failure
  disk : Disk

/-- The outcome of a command that changes no files. -/
def Outcome.ofResult (disk : Disk) : Except Failure String → Outcome
  | .ok output => { output, failure := none, disk }
  | .error failure => { output := "", failure := some failure, disk }

/-- Templates and a way of naming fields. -/
structure Service where
  catalog : Catalog
  registry : Registry

namespace Context

/-- The name of the descriptor: the one that is asked for, else that of the settings. -/
def descriptorName (context : Context) (options : ServiceOptions) :
    Except Failure DescriptorName :=
  match options.descriptorName with
  | some name => .ok name
  | none =>
      let setting := context.settings.defaults.descriptorName
      (DescriptorName.parse setting).mapError fun _ => .unknownDescriptorName setting

/-- The variable with a directory of templates. -/
def templatesVariable : String := "BUILDSTAMP_TEMPLATES_DIR"

/-- The templates and names of a command. -/
def service (context : Context) (options : ServiceOptions) (disk : Disk) :
    Except Failure Service := do
  let descriptor ← context.descriptorName options
  let explicit := match options.templates with
    | some directory => some directory
    | none => context.settings.templates.localPath
  let catalog ←
    (Catalog.discover disk explicit (context.environment.get? templatesVariable)).mapError .refused
  return { catalog, registry := Registry.standard descriptor }

/-- The record that a command assembles. -/
def record (context : Context) (options : RecordOptions) (disk : Disk) : Except Failure Record :=
  options.assemble (.resolve options context.settings.version context.environment) disk.readText
    context.now

end Context

end Imprint.Command
