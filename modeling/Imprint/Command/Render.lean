import Imprint.Command.Context
import Imprint.Pair.Json

/-!
# Printing a pair

Renders a record in one language and prints the pair instead of writing it.
-/

namespace Imprint.Command

open CommandLine (Part RenderOptions)
open Storage (Disk)

/-- The file of one half under a header with its name. -/
def titled (console : Console) (pair : Pair) (half : Half) : String :=
  console.header s!"==> {pair.files.get half} <==" ++ Console.content (pair.text half)

/-- What is printed of a pair. -/
def printed (console : Console) (pair : Pair) (part : Part) : String :=
  if console.isJson then Console.document pair.toJson
  else
    match part with
    | .one half => Console.content (pair.text half)
    | .both => titled console pair .declaration ++ titled console pair .definition

/-- Carries out `render`. -/
def render (context : Context) (options : RenderOptions) (disk : Disk) :
    Except Failure String := do
  let language ←
    match options.language, context.settings.defaults.languages with
    | some language, _ => pure language
    | none, language :: _ => pure language
    | none, [] => throw .noLanguage
  let record ← context.record options.record disk
  let service ← context.service options.service disk
  let pair ← (service.catalog.renderChecked service.registry record language).mapError .refused
  return printed context.console pair options.part

end Imprint.Command
