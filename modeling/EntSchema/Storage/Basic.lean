/-!
# Storage: files and directories

What the program asks of the place where its files are. `FileSystem` is a pure description: the
operations on a state `σ`, where an operation that fails changes nothing. `Storage` is what a
computation needs; every file system makes its state transitions one.
-/

namespace EntSchema

/-- Why an operation on a file or directory failed. -/
inductive StorageError where
  /-- There is nothing at the path, or at a part of it. -/
  | notFound
  /-- Something is at the path already. -/
  | alreadyExists
  /-- A part of the path that has to be a directory is a file. -/
  | notDirectory
  /-- A directory is where a file is asked for. -/
  | isDirectory
  /-- A part of the path, or the path, is too long. -/
  | nameTooLong
  /-- The path contains a null character. -/
  | nullInPath
  /-- Anything else, by its description. -/
  | other (description : String)
  deriving DecidableEq, Repr, Inhabited

/-- The wording of an error, with its number where the system has one. -/
def StorageError.message : StorageError → String
  | notFound => "No such file or directory (os error 2)"
  | alreadyExists => "File exists (os error 17)"
  | notDirectory => "Not a directory (os error 20)"
  | isDirectory => "Is a directory (os error 21)"
  | nameTooLong => "File name too long (os error 36)"
  | nullInPath => "file name contained an unexpected NUL byte"
  | other description => description

/-- A file system with the state `σ`. -/
class FileSystem (σ : Type) where
  /-- The content of the file at a path. -/
  read : σ → String → Except StorageError String
  /-- Makes the directory at a path, whose parent has to exist. -/
  makeDirectory : σ → String → Except StorageError σ
  /-- Whether there is a directory at a path. -/
  isDirectory : σ → String → Bool
  /-- Makes or overwrites the file at a path. -/
  write : σ → String → String → Except StorageError σ

/-- Computations that use files and directories. -/
class Storage (m : Type → Type) where
  read : String → m (Except StorageError String)
  makeDirectory : String → m (Except StorageError Unit)
  isDirectory : String → m Bool
  write : String → String → m (Except StorageError Unit)

/-- A change of the state that may fail, as a step of a computation. -/
def FileSystem.change {σ : Type} (step : σ → Except StorageError σ) :
    StateM σ (Except StorageError Unit) := fun state =>
  match step state with
  | .ok next => (.ok (), next)
  | .error e => (.error e, state)

instance {σ : Type} [FileSystem σ] : Storage (StateM σ) where
  read path := fun state => (FileSystem.read state path, state)
  makeDirectory path := FileSystem.change (FileSystem.makeDirectory · path)
  isDirectory path := fun state => (FileSystem.isDirectory state path, state)
  write path content := FileSystem.change (FileSystem.write · path content)

end EntSchema
