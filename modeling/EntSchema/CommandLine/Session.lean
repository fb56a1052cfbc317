import EntSchema.CommandLine.Run
import EntSchema.Storage.Tree

/-!
# Runs over a file tree

A place for runs that is a value: a file system, a formatter that changes no file and always ends
in the same way, and the arguments that the formatter was last run with.
-/

namespace EntSchema.CommandLine

/-- A file system with a formatter beside it. -/
structure Session (σ : Type) where
  files : σ
  formatter : FormatterOutcome
  /-- The arguments of the last run of the formatter. -/
  formatted : Option (List String) := none

/-- A step on the files of a session. -/
def Session.onFiles {σ α : Type} (step : StateM σ α) : StateM (Session σ) α := fun session =>
  let (result, files) := step session.files
  (result, { session with files })

instance {σ : Type} [FileSystem σ] : Storage (StateM (Session σ)) where
  read path := Session.onFiles (Storage.read path)
  makeDirectory path := Session.onFiles (Storage.makeDirectory path)
  isDirectory path := Session.onFiles (Storage.isDirectory path)
  write path content := Session.onFiles (Storage.write path content)

instance {σ : Type} : Formatting (StateM (Session σ)) where
  runFormatter arguments := fun session =>
    let ran := match session.formatter with
      | .unavailable _ => session.formatted
      | .finished _ _ => some arguments
    (session.formatter, { session with formatted := ran })

/-- What a command line comes to over a file tree, and the session after it. -/
def runSession (arguments : List String) (session : Session FileTree) :
    Report × Session FileTree :=
  (runCommand arguments : StateM (Session FileTree) Report).run session

end EntSchema.CommandLine
