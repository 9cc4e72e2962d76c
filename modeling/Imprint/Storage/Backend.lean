import Imprint.Error

/-!
# Storage

What stamping asks of storage: whether something is at a path, the content of a file, and three
operations that change the state.  Each of them either succeeds or gives a reason, and leaves a
state behind in both cases.
-/

namespace Imprint.Storage

/-- A computation on storage that can fail; what it has done before it failed stays done. -/
abbrev Task (σ α : Type) : Type := ExceptT Error (StateM σ) α

/-- Storage for text files. -/
class Backend (σ : Type) where
  /-- Whether a file or a directory is at a path. -/
  holds : σ → String → Bool
  /-- The content of a file. -/
  read : σ → String → Except Error String
  /-- Creates a directory and those above it. -/
  createDirectories : String → Task σ Unit
  /-- Writes a file into a directory that is there. -/
  write : String → String → Task σ Unit
  /-- Removes a file. -/
  remove : String → Task σ Unit

namespace Task

/-- The computation that a step makes up; a step that fails changes nothing. -/
def ofStep (step : σ → Except Error σ) : Task σ Unit := fun state =>
  match step state with
  | .ok next => (.ok (), next)
  | .error error => (.error error, state)

/-- Carries out a computation whatever comes of it. -/
def attempt (task : Task σ α) : Task σ Unit := fun state => (.ok (), (task state).2)

end Task

end Imprint.Storage
