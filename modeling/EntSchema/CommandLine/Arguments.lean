/-!
# Command line arguments

The program takes one file name and a few options. `--` ends the options; an option with a value
takes it after an equals sign or as the next argument, which must not look like an option itself.

A value is looked at only when the next argument is: a missing or empty value, or a repeated
option, is an error then. An argument that the program does not know is reported at once, whatever
is still to be looked at.
-/

namespace EntSchema.CommandLine

/-- What the command line asks for. -/
structure Arguments where
  /-- The file with the parse tree. -/
  input : Option String := none
  /-- The file with the settings. -/
  config : String := "pg2ent.yaml"
  /-- The directory of the schema files. -/
  outDir : Option String := none
  verbose : Bool := false
  deriving DecidableEq, Repr, Inhabited

/-- A place for a value on the command line. -/
inductive Slot where
  | input
  | config
  | outDir
  deriving DecidableEq, Repr, Inhabited

/-- A slot as it is named to the user. -/
def Slot.text : Slot → String
  | input => "[INPUT]"
  | config => "--config <CONFIG>"
  | outDir => "--out-dir <OUT_DIR>"

/-- Why a command line is refused. -/
inductive UsageError where
  | unexpectedArgument (argument : String)
  | valueRequired (slot : Slot)
  | unexpectedValue (value flag : String)
  | repeated (option : String)
  deriving DecidableEq, Repr, Inhabited

/-- The wording of an error. -/
def UsageError.message : UsageError → String
  | unexpectedArgument argument => "unexpected argument '" ++ argument ++ "' found"
  | valueRequired slot =>
    "a value is required for '" ++ slot.text ++ "' but none was supplied"
  | unexpectedValue value flag =>
    "unexpected value '" ++ value ++ "' for '" ++ flag ++ "' found; no more were expected"
  | repeated option => "the argument '" ++ option ++ "' cannot be used multiple times"

/-- What a command line comes to. -/
inductive Request where
  | run (arguments : Arguments)
  | help
  | refuse (error : UsageError)
  deriving DecidableEq, Repr, Inhabited

/-! ## Reading arguments -/

/-- How far the arguments have been read. -/
structure Reading where
  input : Option String := none
  config : Option String := none
  outDir : Option String := none
  verbose : Bool := false
  /-- A slot whose value was not looked at yet, and that value if it was given already. -/
  pending : Option (Slot × Option String) := none
  /-- Whether a file name was given. -/
  hasInput : Bool := false
  /-- Whether the options have ended. -/
  optionsEnded : Bool := false
  deriving Repr, Inhabited

namespace Reading

/-- The value of a slot as far as it was looked at. -/
def value? (reading : Reading) : Slot → Option String
  | .input => reading.input
  | .config => reading.config
  | .outDir => reading.outDir

/-- A reading with the value of a slot. -/
def setValue (reading : Reading) (value : String) : Slot → Reading
  | .input => { reading with input := some value }
  | .config => { reading with config := some value }
  | .outDir => { reading with outDir := some value }

/-- Gives a slot a value, which has to be there, the first for the slot, and not empty. -/
def fillSlot (reading : Reading) (slot : Slot) (value : Option String) :
    Except UsageError Reading :=
  match value with
  | none => .error (.valueRequired slot)
  | some value =>
    if (reading.value? slot).isSome then .error (.repeated slot.text)
    else if value = "" then .error (.valueRequired slot)
    else .ok (reading.setValue value slot)

/-- Looks at the value that is still to be looked at. -/
def settle (reading : Reading) : Except UsageError Reading :=
  match reading.pending with
  | none => .ok reading
  | some (slot, value) => { reading with pending := none }.fillSlot slot value

/-- The arguments that a complete reading stands for. -/
def arguments (reading : Reading) : Arguments :=
  { input := reading.input
    config := reading.config.getD { : Arguments }.config
    outDir := reading.outDir
    verbose := reading.verbose }

/-- Puts a slot down for its value. -/
def await (reading : Reading) (slot : Slot) (value : Option String) : Except UsageError Reading :=
  reading.settle.map fun settled => { settled with pending := some (slot, value) }

end Reading

/-- A long option without its dashes, and the value after an equals sign. -/
def splitOption (body : List Char) : String × Option String :=
  let name := body.takeWhile (· ≠ '=')
  match body.drop name.length with
  | [] => (.ofList name, none)
  | _ :: value => (.ofList name, some (.ofList value))

/-- Where reading one argument leads: on, or to an answer. -/
inductive Step where
  | continue (reading : Reading)
  | stop (request : Request)

/-- Reading goes on, or stops at an error. -/
def Step.ofResult : Except UsageError Reading → Step
  | .ok reading => .continue reading
  | .error e => .stop (.refuse e)

/-- Help is given once what was read before is in order. -/
def helpStep (reading : Reading) : Step :=
  match reading.settle with
  | .ok _ => .stop .help
  | .error e => .stop (.refuse e)

/-- An option with a value. -/
def slotStep (reading : Reading) (slot : Slot) (value : Option String) : Step :=
  match value with
  | none => .ofResult (reading.await slot none)
  | some value => .ofResult (reading.settle.bind (·.fillSlot slot (some value)))

/-- The option without a value. -/
def verboseStep (reading : Reading) : Step :=
  .ofResult (reading.settle.bind fun settled =>
    if settled.verbose then .error (.repeated "--verbose")
    else .ok { settled with verbose := true })

/-- A long option. -/
def longStep (reading : Reading) (body : List Char) : Step :=
  let (name, value) := splitOption body
  let flag := "--" ++ name
  match name with
  | "config" => slotStep reading .config value
  | "out-dir" => slotStep reading .outDir value
  | "verbose" => match value with
    | none => verboseStep reading
    | some value => .stop (.refuse (.unexpectedValue value flag))
  | "help" => match value with
    | none => helpStep reading
    | some value => .stop (.refuse (.unexpectedValue value flag))
  | _ => .stop (.refuse (.unexpectedArgument flag))

/-- An argument that is no option: the value of one, or the file name. -/
def plainStep (reading : Reading) (argument : String) : Step :=
  match reading.optionsEnded, reading.pending with
  | false, some (slot, none) =>
    .continue { reading with pending := some (slot, some argument) }
  | _, _ =>
    if reading.hasInput then .stop (.refuse (.unexpectedArgument argument))
    else .ofResult ((reading.await .input (some argument)).map ({ · with hasInput := true }))

/-- One argument. -/
def step (reading : Reading) (argument : String) : Step :=
  if reading.optionsEnded then plainStep reading argument
  else match argument.toList with
    | ['-', '-'] => .continue { reading with optionsEnded := true }
    | '-' :: '-' :: body => longStep reading body
    | '-' :: 'h' :: _ => helpStep reading
    | '-' :: c :: _ => .stop (.refuse (.unexpectedArgument (.ofList ['-', c])))
    | _ => plainStep reading argument

/-- The rest of the arguments. -/
def readFrom (reading : Reading) : List String → Request
  | [] => match reading.settle with
    | .ok settled => .run settled.arguments
    | .error e => .refuse e
  | argument :: rest => match step reading argument with
    | .continue next => readFrom next rest
    | .stop request => request

/-- What the arguments of a command line come to. -/
def Request.ofArguments (arguments : List String) : Request :=
  readFrom {} arguments

/-- The lines of the help text. -/
def helpLines : List String :=
  ["Generate ent schema files from a PostgreSQL parse tree",
    "",
    "Usage: pg2ent [OPTIONS] [INPUT]",
    "",
    "Arguments:",
    "  [INPUT]  pg_query JSON parse tree (defaults to `parse-tree` in the config)",
    "",
    "Options:",
    "      --config <CONFIG>    YAML generation config [default: pg2ent.yaml]",
    "      --out-dir <OUT_DIR>  Output directory (defaults to `out-dir` in the config, " ++
      "then `ent/schema`)",
    "      --verbose            Print verbose diagnostics",
    "  -h, --help               Print help"]

/-- The help text. -/
def helpText : String :=
  String.join (helpLines.map (· ++ "\n"))

end EntSchema.CommandLine
