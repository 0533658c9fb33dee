import ModelFleet.CommandLine.Run
import ModelFleet.Json.Printer

/-!
# The program

Collects the arguments, the variables that the daemon knows and the file that it is told to read,
and ends as `CommandLine.run` says.  A daemon that would go on shows the settings with which it
does.
-/

namespace ModelFleet.CommandLine

def knownVariables : List String :=
  Opt.all.filterMap (·.environment) ++ Config.sections.flatMap fun part =>
    let name := "MODELSYNC_" ++ part.key.toUpper
    name :: part.fields.map fun field => name ++ "__" ++ field.1.toUpper

/-- A variable with its value, if it is set. -/
def readVariable? (name : String) : IO (Option (String × String)) := do
  return (← IO.getEnv name).map fun value => (name, value)

def readEnvironment : IO (List (String × String)) := do
  return (← knownVariables.mapM readVariable?).filterMap id

/-- A file with its name and its contents, if it can be read. -/
def readFile? (name : String) : IO (Option (String × String)) := do
  try return some (name, ← IO.FS.readFile name)
  catch _ => return none

def readFiles (path : Option String) : IO (List (String × String)) := do
  let names := path.toList.flatMap fun p => Config.plainPath p :: Config.extendedPaths p
  return (← names.mapM readFile?).filterMap id

/-- The path of the file that the arguments and the environment name. -/
def configPath (environment : List (String × String)) (arguments : List String) : Option String :=
  match Reading.all environment arguments with
  | .ok r => r.value? .config
  | .error _ => none

end ModelFleet.CommandLine

open ModelFleet.CommandLine in
def main (arguments : List String) : IO UInt32 := do
  let environment ← readEnvironment
  let files ← readFiles (configPath environment arguments)
  match run arguments environment files with
  | .exit code out err =>
    IO.print out
    IO.eprint err
    return UInt32.ofNat code
  | .serve settings err =>
    IO.eprint err
    IO.println settings.toJson.render
    return 0
