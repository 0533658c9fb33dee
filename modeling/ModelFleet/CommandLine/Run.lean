import ModelFleet.Api.Health
import ModelFleet.CommandLine.LogFilter
import ModelFleet.CommandLine.Options
import ModelFleet.CommandLine.Terminal
import ModelFleet.Config.Load

/-!
# Running the command line

What the daemon writes and the code with which it ends, or the settings with which it goes on.  What
is said about the arguments is written for a terminal and shown as it is without one; so sequences
in the arguments that mean something to a terminal are not shown.
-/

namespace ModelFleet.CommandLine

def program : String := "modelsyncd"

/-- How a run ends, or that it goes on, in both cases with what was said. -/
inductive Ending
  | exit (code : Nat) (out err : String)
  | serve (settings : Settings) (err : String)

def blanks (count : Nat) : String := String.ofList (List.replicate count ' ')

/-- The width of the options in the help, after which it says what they are for. -/
def optionsWidth : Nat := 31

/-- The line of the help that is about an option; where it has several, all but the first begin
below what the option is for. -/
def helpLine (environment : List (String × String)) (o : Opt) : String :=
  let short := match o.short with
    | some c => Terminal.bold s!"-{c}" ++ ", "
    | none => "    "
  let long := Terminal.bold ("--" ++ o.long) ++ (o.value.map fun name => s!" <{name}>").getD ""
  let source := match o.environment with
    | some name => s!" [env: {name}=" ++ (environment.lookup name).getD "" ++ "]"
    | none => ""
  let lines := (o.about ++ source).splitOn "\n"
  "  " ++ short ++ long ++ blanks (optionsWidth - 6 - o.usage.length)
    ++ ("\n" ++ blanks optionsWidth).intercalate lines ++ "\n"

def helpText (environment : List (String × String)) : String :=
  "Model sync-up daemon - reconciles ML model deployment state\n\n" ++
    s!"Usage: {program} [OPTIONS]\n\nOptions:\n" ++
    String.join (Opt.all.map (helpLine environment))

def usageWith (arguments : List String) : String :=
  s!"\n\nUsage: {program}" ++ String.join (arguments.map (" " ++ ·))

/-- How the program is used, with the options that were used if there are any. -/
def usageText (used : List Opt) : String :=
  usageWith (if used.isEmpty then ["[OPTIONS]"] else used.map Opt.usage)

/-- All settings, of which at least one is given. -/
def settingsUsage : String :=
  "<" ++ "|".intercalate ((Opt.all.filter Opt.isSetting).map Opt.usage) ++ ">"

/-- How the program is used with an option that takes no value; when others were read before it,
the settings stand for all of them. -/
def flagUsage (o : Opt) (alone : Bool) : String :=
  if alone then usageText [o]
  else usageWith ((if o.isSetting then [] else [o.usage]) ++ [settingsUsage])

/-- The words for a fault in the arguments, with what follows them. -/
def Halt.faultText : Halt → String
  | unexpected argument meant used =>
    let tip := match meant with
      | some o => s!"\n\n  tip: a similar argument exists: '--{o.long}'"
      | none => ""
    s!"unexpected argument '{Terminal.marked argument}' found{tip}{usageText used}"
  | missingValue o => s!"a value is required for '{o.usage}' but none was supplied"
  | repeated o => s!"the argument '{o.usage}' cannot be used multiple times{usageText []}"
  | needlessValue value o alone =>
    s!"unexpected value '{Terminal.marked value}' for '{o.usage}' found; no more were expected" ++
      flagUsage o alone
  | badFlag value o =>
    let words :=
      if value = "" then s!"a value is required for '{o.usage}' but none was supplied"
      else s!"invalid value '{Terminal.marked value}' for '{o.usage}'"
    let tip := match Similarity.closest value ["true", "false"] with
      | some s => s!"\n\n  tip: a similar value exists: '{s}'"
      | none => ""
    s!"{words}\n  [possible values: true, false]{tip}"
  | help | version => ""

/-- How a run ends when the reading of arguments does. -/
def Halt.ending (environment : List (String × String)) : Halt → Ending
  | help => .exit 0 (Terminal.plain (helpText environment)) ""
  | version => .exit 0 s!"{program} {ModelFleet.version}\n" ""
  | halt =>
    let words := s!"error: {halt.faultText}\n\nFor more information, try '--help'.\n"
    .exit 2 "" (Terminal.plain words)

/-- How a run ends with an error of the daemon, after what was said before. -/
def failure (before : String) (error : DaemonError) : Ending :=
  let words := match error with
    | .config detail => s!"Config({Quoted.quote detail})"
    | .server detail => s!"Server({Quoted.quote detail})"
    | .io detail => s!"Io({Quoted.quote detail})"
  .exit 1 "" s!"{before}Error: {words}\n"

/-- The settings with the address that was given in their place. -/
def withListen (settings : Settings) : Option String → Except DaemonError Settings
  | none => .ok settings
  | some s =>
    match SocketAddress.parse s with
    | some listen => .ok { settings with server := { settings.server with listen } }
    | none => .error (.config s!"Invalid listen address: {Mismatch.badAddress.message}")

def withOptions (settings : Settings) (r : Reading) : Except DaemonError Settings := do
  let settings ← withListen settings (r.value? .listen)
  return { settings with
    cluster.node := (r.value? .nodeId).getD settings.cluster.node
    logging.level := (r.value? .logLevel).getD settings.logging.level
    logging.json := settings.logging.json || r.value? .json == some "true" }

/-- The settings of a daemon, before they are checked. -/
def settingsOf (files : List (String × String)) (environment : List (String × String))
    (r : Reading) : Except DaemonError Settings := do
  let loaded := Config.load files (r.value? .config) environment
  let settings ← loaded.mapError fun e => .config e.message
  withOptions settings r

/-- What is said about settings that have been loaded. -/
def remarks (settings : Settings) : String :=
  String.join ((LogFilter.complaints settings.logging.level).map (· ++ "\n"))

/-- Runs the program with arguments, the environment and the files of the current directory. -/
def run (arguments : List String) (environment files : List (String × String)) : Ending :=
  match Reading.all environment arguments with
  | .error halt => halt.ending environment
  | .ok r =>
    match settingsOf files environment r with
    | .error e => failure "" e
    | .ok settings =>
      match settings.check with
      | .error e => failure (remarks settings) e
      | .ok () => .serve settings (remarks settings)

end ModelFleet.CommandLine
