import EntSchema.Storage.Path

/-!
# File trees

A file system as a value: which files and directories there are, and where the working directory
is. A place is the list of names that leads to it from the root.

A path is resolved part by part. Each part needs a directory to start from; an empty part and a dot
stay there, two dots go up, and a name goes down. A name takes at most 255 bytes and a path fewer
than 4096.
-/

namespace EntSchema

/-- What is at a place. -/
inductive Entry where
  | directory
  | file (content : String)
  deriving DecidableEq, Repr, Inhabited

/-- Files and directories, and the place of the working directory. The root is always there. -/
structure FileTree where
  entries : List (List String × Entry) := []
  workingDirectory : List String := []
  deriving Repr, Inhabited

namespace FileTree

/-- The greatest length of a name in bytes. -/
def greatestName : Nat := 255

/-- The length in bytes from which on a path is too long. -/
def greatestPath : Nat := 4096

/-- What is at a place, if anything. -/
def entryAt? (tree : FileTree) (place : List String) : Option Entry :=
  if place.isEmpty then some .directory else tree.entries.lookup place

/-- The tree with something at a place, in the stead of what was there. -/
def put (tree : FileTree) (place : List String) (entry : Entry) : FileTree :=
  { tree with entries := (place, entry) :: tree.entries.filter (·.1 ≠ place) }

/-- One part of a path from a place. -/
def enter (tree : FileTree) (place : List String) (part : String) :
    Except StorageError (List String) :=
  match tree.entryAt? place with
  | none => .error .notFound
  | some (.file _) => .error .notDirectory
  | some .directory =>
    if part = "" ∨ part = "." then .ok place
    else if part = ".." then .ok place.dropLast
    else if greatestName < part.utf8ByteSize then .error .nameTooLong
    else if (tree.entryAt? (place ++ [part])).isSome then .ok (place ++ [part])
    else .error .notFound

/-- Several parts of a path from a place. -/
def enterAll (tree : FileTree) (place : List String) (parts : List String) :
    Except StorageError (List String) :=
  parts.foldlM tree.enter place

/-- The place where a path starts, and its parts. Some texts are no path at all. -/
def start (tree : FileTree) (path : String) : Except StorageError (List String × List String) :=
  if path.toList.contains '\x00' then .error .nullInPath
  else if path = "" then .error .notFound
  else if greatestPath ≤ path.utf8ByteSize then .error .nameTooLong
  else .ok (if Storage.isAbsolute path then [] else tree.workingDirectory, Storage.rawParts path)

/-- The place that a path leads to, where something has to be. -/
def resolve (tree : FileTree) (path : String) : Except StorageError (List String) := do
  let (place, parts) ← tree.start path
  tree.enterAll place parts

/-- The place of a new name: a directory that is there, and the name inside it. The names that
every directory has are not new. -/
def resolveNew (tree : FileTree) (parts : List String) (place : List String)
    (taken : StorageError) : Except StorageError (List String) := do
  let parent ← tree.enterAll place parts.dropLast
  match tree.entryAt? parent with
  | some .directory =>
    let name := parts.getLast?.getD ""
    if name = "" ∨ name = "." ∨ name = ".." then .error taken
    else if greatestName < name.utf8ByteSize then .error .nameTooLong
    else return parent ++ [name]
  | some (.file _) => .error .notDirectory
  | none => .error .notFound

/-- Parts without the empty ones at their end, which slashes at the end of a path leave. -/
def dropSlashes (parts : List String) : List String :=
  (parts.reverse.dropWhile (· = "")).reverse

/-- The content of the file at a path. -/
def read (tree : FileTree) (path : String) : Except StorageError String := do
  match tree.entryAt? (← tree.resolve path) with
  | some (.file content) => return content
  | some .directory => .error .isDirectory
  | none => .error .notFound

/-- The tree with a new directory at a path. -/
def makeDirectory (tree : FileTree) (path : String) : Except StorageError FileTree := do
  let (place, parts) ← tree.start path
  let target ← tree.resolveNew (dropSlashes parts) place .alreadyExists
  if (tree.entryAt? target).isSome then .error .alreadyExists
  else return tree.put target .directory

/-- Whether a path leads to a directory. -/
def isDirectory (tree : FileTree) (path : String) : Bool :=
  match tree.resolve path with
  | .ok place => tree.entryAt? place == some .directory
  | .error _ => false

/-- The tree with a file at a path, made or overwritten. -/
def write (tree : FileTree) (path content : String) : Except StorageError FileTree := do
  let (place, parts) ← tree.start path
  let target ← tree.resolveNew parts place .isDirectory
  match tree.entryAt? target with
  | some .directory => .error .isDirectory
  | _ => return tree.put target (.file content)

instance : FileSystem FileTree := ⟨read, makeDirectory, isDirectory, write⟩

end FileTree

end EntSchema
