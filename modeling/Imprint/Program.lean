import Imprint.Command.Check
import Imprint.Command.Configuration
import Imprint.Command.Generate
import Imprint.Command.Languages
import Imprint.Command.Render
import Imprint.Environment.File

/-!
# The program

A run of the program as a function of its command line, its environment, the time and the files
that it finds.  It gives an exit code, what is printed and the files that are left behind.
-/

namespace Imprint

open CommandLine (Invocation Stop)
open Command (Context Outcome)
open Storage (Disk)

/-- What the program is started with. -/
structure Start where
  arguments : List String
  environment : Environment
  now : Timestamp
  disk : Disk

/-- What a run of the program gives. -/
structure Finish where
  exitCode : Nat
  output : String
  errors : String
  disk : Disk

namespace Program

/-- The name of the program. -/
def name : String := "buildstamp"

/-- The version of the program. -/
def version : String := "0.1.0"

/-- How the program is called. -/
def usage : String :=
  "Usage: " ++ name ++ " [OPTIONS] <COMMAND>\n\n" ++
    "Commands: generate (gen), render, check, list (ls), init, config\n"

/-- The end of a run whose command line is not carried out. -/
def stopped (stop : Stop) (disk : Disk) : Finish :=
  match stop with
  | .usage => { exitCode := 2, output := "", errors := usage, disk }
  | .version => { exitCode := 0, output := name ++ " " ++ version ++ "\n", errors := "", disk }
  | .help => { exitCode := 0, output := usage, errors := "", disk }

/-- Carries out a command. -/
def perform (context : Context) (invocation : Invocation) (disk : Disk) : Outcome :=
  match invocation.command with
  | .generate options => Command.generate context options disk
  | .render options => .ofResult disk (Command.render context options disk)
  | .check options => .ofResult disk (Command.check context options disk)
  | .list options => .ofResult disk (Command.list context options disk)
  | .init options => Command.init context options disk
  | .settings query =>
      .ofResult disk (Command.answer context invocation.options.settingsFile query disk)

/-- The outcome of an invocation, which fails if there are no settings. -/
def outcome (environment : Environment) (now : Timestamp) (invocation : Invocation)
    (disk : Disk) : Outcome :=
  let options := invocation.options
  match Settings.load disk environment options.settingsFile with
  | .error fault => .ofResult disk (.error (.settings fault))
  | .ok settings =>
      let console := Console.ofOptions options.format settings.output.format options.quiet
        (options.noColor || settings.output.noColor)
      perform { environment, now, settings, console } invocation disk

/-- The end of a run that carries out a command. -/
def finished (inDetail : Bool) (outcome : Outcome) : Finish where
  exitCode := (outcome.failure.map Failure.exitCode).getD 0
  output := outcome.output
  errors := (outcome.failure.map (Failure.report inDetail)).getD ""
  disk := outcome.disk

/-- Runs the program. -/
def run (start : Start) : Finish :=
  let environment := start.environment.provideNearest start.disk
  match CommandLine.read environment start.arguments with
  | .error stop => stopped stop start.disk
  | .ok invocation =>
      finished invocation.options.inDetail
        (outcome environment start.now invocation start.disk)

end Program

end Imprint
