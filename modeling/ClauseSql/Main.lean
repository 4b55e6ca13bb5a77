import ClauseSql.Program

/-!
# The command line of the program

## What is here

* `main` — runs the program on the files, the environment and the arguments of the process.  Results
  go to the standard output, failures and warnings to the standard error.
-/

set_option autoImplicit false

namespace ClauseSql
namespace Main

/-- Whether there is a file or a directory at a path. -/
def isPresent (path : String) : IO Bool := do
  let here ← IO.currentDir
  (here / path).pathExists

/-- The text of the file at a path. -/
def read? (path : String) : IO (Option String) := do
  match ← (IO.FS.readFile path).toBaseIO with
  | .ok text => return some text
  | .error _ => return none

/-- The file system of the process. -/
def files : Files IO := ⟨isPresent, read?⟩

/-- The text of the nearest environment file, in the working directory or in one that it lies in. -/
def readEnvText : IO (Option String) := do
  let here ← IO.currentDir
  for directory in FilePath.ancestors here.toString do
    if let some text ← read? (FilePath.join directory Program.environmentFile) then
      return some text
  return none

/-- The variables of the process among the given ones. -/
def environment (names : List String) : IO Environment := do
  let found ← (names.filter Environment.canHold).mapM fun name => do
    let value ← IO.getEnv name
    return value.map fun value => (name, value)
  return found.filterMap id

/-- The line for a warning. -/
def warningLine (warning : Warning) : String :=
  warning.fields.foldl (fun line field => line ++ " " ++ field.1 ++ "=" ++ field.2)
    ("WARN " ++ warning.message)

/-- Runs the program and prints how the run ends; answers the exit code. -/
def run (arguments : List String) : IO UInt32 := do
  let envText ← readEnvText
  let names := OptionName.settings.filterMap OptionName.environmentName? ++
    EnvFile.mentioned (envText.getD "")
  let environment ← environment names
  let (outcome, warnings) ← Program.run files environment envText arguments
  for warning in warnings do
    IO.eprintln (warningLine warning)
  match outcome with
  | .printed text => IO.print text
  | .failed failure => IO.eprintln ("\nError: " ++ failure.message ++ "\n")
  | .refused .help => IO.println UsageError.help.message
  | .refused error => IO.eprintln ("error: " ++ error.message)
  | .aborted => IO.eprintln "a variable cannot hold its value"
  return outcome.exitCode.toUInt32

end Main
end ClauseSql

/-- Runs the program. -/
def main (arguments : List String) : IO UInt32 := ClauseSql.Main.run arguments
