import EntSchema.CommandLine.Arguments
import EntSchema.Config.Reader
import EntSchema.Output
import EntSchema.ParseTree.Script

/-!
# A run of the program

A run loads the settings, reads the parse tree, makes a schema file of every table, writes the
files, and has them formatted if the settings ask for it. Nothing is written before all earlier
steps went well. A table without a schema file does not stop the others, but shows in the exit
code: 0 if all went well, 1 if a table failed, 2 if the run stopped.

The run is a computation over any place that holds files and has a formatter. What it says is part
of its result. A log is not: lines that are logged along the way carry the time of day, and whether
there are any is set from outside. So the standard error output of a report holds no log line, not
even the warning that goes with a table without a schema file; the error about that table is there.
-/

namespace EntSchema

/-- How a run of the formatter ended. -/
inductive FormatterOutcome where
  /-- The formatter could not be started. -/
  | unavailable (cause : StorageError)
  /-- The formatter ended with an exit code, after saying something. -/
  | finished (exitCode : Int) (said : String)
  deriving DecidableEq, Repr, Inhabited

/-- Computations that can have files formatted. -/
class Formatting (m : Type → Type) where
  /-- Runs the formatter with some arguments. -/
  runFormatter : List String → m FormatterOutcome

end EntSchema

namespace EntSchema.CommandLine

/-- What a run comes to. -/
structure Report where
  exitCode : Nat := 0
  stdout : String := ""
  stderr : String := ""
  deriving DecidableEq, Repr, Inhabited

/-! ## What a run says -/

/-- A line of text. -/
def line (text : String) : String := text ++ "\n"

/-- Why the settings could not be loaded. -/
inductive ConfigError where
  | unreadable (path : String) (cause : StorageError)
  | invalid (path : String)
  deriving DecidableEq, Repr, Inhabited

/-- The wording of an error. -/
def ConfigError.message : ConfigError → String
  | unreadable path cause => "failed to read config " ++ path ++ ": " ++ cause.message
  | invalid path => "invalid config " ++ path ++ ":"

/-- The report on settings that could not be loaded. On a text that is no valid YAML it ends at the
colon: where the text goes wrong is no part of it. -/
def ConfigError.report (e : ConfigError) : String :=
  let text := "Error loading config: " ++ e.message
  match e with
  | unreadable _ _ => line text
  | invalid _ => text

/-- The report on a parse tree that is refused. On a text that is no JSON it ends at the colon. -/
def parseReport (e : ParseTree.ParseError) : String :=
  let text := "Parse tree error: " ++ e.message
  match e with
  | .invalidJson => text
  | _ => line text

/-- The report on a table without a schema file. -/
def tableReport (table : Relational.Table) (e : Schema.FieldError) : String :=
  line ("Error generating table '" ++ table.name ++ "': " ++ e.message)

/-- The report on a command line that is refused, which is a single line: an argument that runs
over several lines is cut after the first. -/
def usageReport (e : UsageError) : String :=
  .ofList (("error: " ++ e.message).toList.takeWhile (· ≠ '\n'))

/-! ## Steps of a run -/

/-- The tables with a schema file, as these files, and the reports on the others. -/
def sortResults (config : Config) (tables : List Relational.Table) :
    List SchemaFile × List String :=
  let results := tables.map fun table => (table, Schema.fileOf config table)
  let files := results.filterMap fun (_, result) => match result with
    | .ok file => some file
    | .error _ => none
  let reports := results.filterMap fun (table, result) => match result with
    | .ok _ => none
    | .error e => some (tableReport table e)
  (files, reports)

/-- The program that formats the files. -/
def formatterName : String := "gofmt"

/-- The directory of the schema files if nothing says otherwise. -/
def usualOutDir : String := "ent/schema"

variable {m : Type → Type} [Monad m] [Storage m] [Formatting m]

/-- The settings in a file. -/
def loadConfig (path : String) : m (Except ConfigError Config) := do
  match ← Storage.read path with
  | .error cause => return .error (.unreadable path cause)
  | .ok text =>
    match Config.ofYaml? text with
    | some config => return .ok config
    | none => return .error (.invalid path)

/-- Has some files formatted. Without any file there is nothing to do. -/
def formatFiles (paths : List String) : m (Except OutputError Unit) := do
  if paths.isEmpty then return .ok ()
  match ← Formatting.runFormatter ("-w" :: paths) with
  | .unavailable cause => return .error (.startFormatter formatterName cause)
  | .finished code said =>
    if code = 0 then return .ok ()
    else return .error (.formatter formatterName (.ofList (Unicode.trim said.toList)))

/-- The last steps of a run: writing the schema files and formatting them. `said` is what was
reported before, and `failed` whether a table has no schema file. -/
def finishRun (arguments : Arguments) (config : Config) (files : List SchemaFile)
    (said : String) (failed : Bool) : m Report := do
  let outDir := (arguments.outDir.or config.outDir).getD usualOutDir
  match ← Output.writeFiles outDir files with
  | .error e =>
    return { exitCode := 2, stderr := said ++ line ("Error writing output: " ++ e.message) }
  | .ok paths =>
    let wrote := if arguments.verbose then paths.map fun path => line ("Wrote " ++ path) else []
    let said := said ++ String.join wrote
    let formatted ← if config.format then formatFiles paths else pure (.ok ())
    match formatted with
    | .error e =>
      return { exitCode := 2, stderr := said ++ line ("Error formatting output: " ++ e.message) }
    | .ok () => return { exitCode := if failed then 1 else 0, stderr := said }

/-- A run with settings and the text of a parse tree. -/
def runOnTree (arguments : Arguments) (config : Config) (tree : String) : m Report :=
  match ParseTree.tablesOfText tree with
  | .error e => return { exitCode := 2, stderr := parseReport e }
  | .ok tables =>
    let count := line ("Parsed " ++ toString tables.length ++ " tables")
    let (files, reports) := sortResults config tables
    let said := (if arguments.verbose then count else "") ++ String.join reports
    finishRun arguments config files said !reports.isEmpty

/-- A run with the arguments of a command line. -/
def run (arguments : Arguments) : m Report := do
  match ← loadConfig arguments.config with
  | .error e => return { exitCode := 2, stderr := e.report }
  | .ok config =>
    match arguments.input.or config.parseTree with
    | none =>
      return {
        exitCode := 2
        stderr := line "No parse tree provided: pass a path or set `parse-tree` in the config" }
    | some path =>
      match ← Storage.read path with
      | .error cause =>
        return { exitCode := 2, stderr := line ("Error reading " ++ path ++ ": " ++ cause.message) }
      | .ok tree => runOnTree arguments config tree

/-- What a command line comes to: a run, the help text, or an error of usage. -/
def runCommand (arguments : List String) : m Report :=
  match Request.ofArguments arguments with
  | .run arguments => run arguments
  | .help => return { stdout := helpText }
  | .refuse e => return { exitCode := 2, stderr := usageReport e }

end EntSchema.CommandLine
