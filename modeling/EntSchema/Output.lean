import EntSchema.Schema.Source
import EntSchema.Storage.Path
import EntSchema.Unicode.Blank

/-!
# Writing schema files

Every schema file is written as `<stem>.go` into one directory. The stems come from names of
tables, which can hold any character, so all of them are checked before anything is touched: a stem
has to be the name of one file inside the directory, and no two files may share one.
-/

namespace EntSchema.Output

/-- Why a stem is not the name of one file. -/
inductive StemDefect where
  | empty
  | directoryReference
  | pathSeparator
  | controlCharacter
  deriving DecidableEq, Repr, Inhabited

/-- The defect in words. -/
def StemDefect.text : StemDefect → String
  | empty => "table name is empty"
  | directoryReference => "table name is a directory reference"
  | pathSeparator => "table name contains a path separator"
  | controlCharacter => "table name contains control characters"

end EntSchema.Output

namespace EntSchema

/-- Why schema files were not written or not formatted. -/
inductive OutputError where
  | invalidName (stem : String) (defect : Output.StemDefect)
  | duplicateName (stem : String)
  | makeDirectory (path : String) (cause : StorageError)
  | write (path : String) (cause : StorageError)
  /-- The formatter could not be started. -/
  | startFormatter (program : String) (cause : StorageError)
  /-- The formatter refused the files; `diagnostics` is what it said. -/
  | formatter (program diagnostics : String)
  deriving DecidableEq, Repr, Inhabited

/-- The ending of the files. -/
def Output.fileEnding : String := ".go"

/-- The wording of an error. -/
def OutputError.message : OutputError → String
  | invalidName stem defect => "invalid output name '" ++ stem ++ "': " ++ defect.text
  | duplicateName stem =>
    "tables map to the same output file '" ++ stem ++ Output.fileEnding ++ "'"
  | makeDirectory path cause =>
    "failed to create output directory " ++ path ++ ": " ++ cause.message
  | write path cause => "failed to write " ++ path ++ ": " ++ cause.message
  | startFormatter program cause => "failed to run " ++ program ++ ": " ++ cause.message
  | formatter program diagnostics => program ++ " failed: " ++ diagnostics

end EntSchema

namespace EntSchema.Output

/-! ## Stems -/

/-- The first defect of a stem, if it has any. -/
def stemDefect? (stem : String) : Option StemDefect :=
  let chars := stem.toList
  if chars.isEmpty then some .empty
  else if stem = "." ∨ stem = ".." then some .directoryReference
  else if chars.any fun c => c == '/' || c == '\\' then some .pathSeparator
  else if chars.any Unicode.isControl then some .controlCharacter
  else none

/-- Checks the stems of some files in order, where `seen` holds the stems before them. -/
def checkStemsAfter (seen : List String) : List String → Except OutputError Unit
  | [] => .ok ()
  | stem :: rest =>
    match stemDefect? stem with
    | some defect => .error (.invalidName stem defect)
    | none =>
      if seen.contains stem then .error (.duplicateName stem)
      else checkStemsAfter (stem :: seen) rest

/-- Checks the stems of some files: each is the name of a file, and no two are the same. -/
def checkStems (files : List SchemaFile) : Except OutputError Unit :=
  checkStemsAfter [] (files.map (·.stem))

/-- The path of a schema file inside a directory. -/
def filePath (directory : String) (file : SchemaFile) : String :=
  Storage.joinPath directory (file.stem ++ fileEnding)

/-! ## Writing -/

variable {m : Type → Type} [Monad m] [Storage m]

/-- Writes files in order, up to the first that fails, and gives their paths. -/
def writeEach (directory : String) : List SchemaFile → m (Except OutputError (List String))
  | [] => return .ok []
  | file :: rest => do
    let path := filePath directory file
    match ← Storage.write path file.render with
    | .error cause => return .error (.write path cause)
    | .ok () =>
      match ← writeEach directory rest with
      | .error e => return .error e
      | .ok paths => return .ok (path :: paths)

/-- Writes some schema files into a directory, which is made if it is missing, and gives their
paths. -/
def writeFiles (directory : String) (files : List SchemaFile) :
    m (Except OutputError (List String)) := do
  match checkStems files with
  | .error e => return .error e
  | .ok () =>
    match ← Storage.makeDirectories directory with
    | .error cause => return .error (.makeDirectory directory cause)
    | .ok () => writeEach directory files

end EntSchema.Output
