import EntSchema.Storage.Basic
import EntSchema.Text.Pieces

/-!
# Paths

A path is a text; slashes separate its parts. Joining puts a name inside a directory. The ancestors
of a path are the directories that contain it, the nearest first; empty parts and single dots are
no directories of their own, except for a dot that a path starts with.

`makeDirectories` makes a directory with all ancestors that it lacks.
-/

namespace EntSchema.Storage

/-- The path of a name inside a directory. The empty path is the working directory. -/
def joinPath (directory name : String) : String :=
  if directory = "" then name
  else if directory.toList.getLast? = some '/' then directory ++ name
  else directory ++ "/" ++ name

/-- The parts of a path between its slashes. -/
def rawParts (path : String) : List String :=
  (Text.pieces (· == '/') path.toList).map String.ofList

/-- Whether a path starts at the root. -/
def isAbsolute (path : String) : Bool :=
  path.toList.head? == some '/'

/-- The parts of a path that name something: no empty parts, and no dots but a first one. -/
def properParts (path : String) : List String :=
  match rawParts path with
  | [] => []
  | first :: rest =>
    let named := rest.filter fun part => part ≠ "" ∧ part ≠ "."
    if first = "" then named else first :: named

/-- The proper prefixes of a list, the longest first. -/
def properInits {α : Type} : List α → List (List α)
  | [] => []
  | x :: rest => (properInits rest).map (x :: ·) ++ [[]]

/-- The paths of the directories that contain a path, the nearest first. -/
def ancestors (path : String) : List String :=
  (properInits (properParts path)).map fun parts =>
    (if isAbsolute path then "/" else "") ++ "/".intercalate parts

variable {m : Type → Type} [Monad m] [Storage m]

/-- After a directory could not be made: that is no failure if it is there all the same. -/
def settle (path : String) (e : StorageError) : m (Except StorageError Unit) := do
  return if ← Storage.isDirectory path then .ok () else .error e

/-- Makes a directory, and if its parent is missing runs `makeParent` first. -/
def makeUnder (path : String) (makeParent : m (Except StorageError Unit)) :
    m (Except StorageError Unit) := do
  if path = "" then return .ok ()
  match ← Storage.makeDirectory path with
  | .ok () => return .ok ()
  | .error .notFound =>
    match ← makeParent with
    | .error e => return .error e
    | .ok () =>
      match ← Storage.makeDirectory path with
      | .ok () => return .ok ()
      | .error e => settle path e
  | .error e => settle path e

/-- Makes a directory with those of the given ancestors that it lacks. -/
def makeWithin (path : String) : (ancestors : List String) → m (Except StorageError Unit)
  | [] => makeUnder path (return .error (.other "failed to create whole tree"))
  | parent :: more => makeUnder path (makeWithin parent more)

/-- Makes a directory with all ancestors that it lacks. The empty path needs none. -/
def makeDirectories (path : String) : m (Except StorageError Unit) :=
  makeWithin path (ancestors path)

end EntSchema.Storage
