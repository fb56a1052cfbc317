import EntSchema.CommandLine.Run

/-!
# The program

The command line over the files of the machine. This is the only module with effects: it does what
a run asks for and says what the run reports. Other programs cannot be started from here, so the
formatter counts as missing.
-/

namespace EntSchema.CommandLine

/-- The cause of an error that the machine reports. -/
def causeOf : IO.Error → StorageError
  | .noFileOrDirectory _ _ _ => .notFound
  | .alreadyExists _ _ _ => .alreadyExists
  | .inappropriateType _ code details =>
    if code = 20 then .notDirectory else if code = 21 then .isDirectory else .other details
  | .invalidArgument _ code details => if code = 36 then .nameTooLong else .other details
  | e => .other (toString e)

/-- An action whose errors are part of its result. -/
def attempt {α : Type} (action : IO α) : IO (Except StorageError α) := do
  match ← action.toBaseIO with
  | .ok result => return .ok result
  | .error e => return .error (causeOf e)

instance : Storage IO where
  read path := attempt (IO.FS.readFile path)
  makeDirectory path := attempt (IO.FS.createDir path)
  isDirectory path := do
    match ← attempt (IO.FS.realPath path) with
    | .ok place => place.isDir
    | .error _ => return false
  write path content := attempt (IO.FS.writeFile path content)

instance : Formatting IO where
  runFormatter _ := return .unavailable .notFound

end EntSchema.CommandLine

open EntSchema.CommandLine in
/-- Runs the program with the arguments of a command line. -/
def main (arguments : List String) : IO UInt32 := do
  let report : Report ← runCommand arguments
  IO.print report.stdout
  IO.eprint report.stderr
  return report.exitCode.toUInt32
