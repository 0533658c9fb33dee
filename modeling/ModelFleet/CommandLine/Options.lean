import ModelFleet.Text.Similarity

/-!
# Options of the command line

Options have a long name, some a short one, and most take a value, which follows after an equals
sign or as the next argument.  Arguments are read in order and the first fault ends the reading;
what is not given is looked up in the environment.
-/

namespace ModelFleet.CommandLine

inductive Opt
  | config
  | listen
  | nodeId
  | logLevel
  | json
  | help
  | version
  deriving DecidableEq

namespace Opt

/-- All options, in the order in which they are shown. -/
def all : List Opt := [config, listen, nodeId, logLevel, json, help, version]

def long : Opt → String
  | config => "config"
  | listen => "listen"
  | nodeId => "node-id"
  | logLevel => "log-level"
  | json => "json"
  | help => "help"
  | version => "version"

def short : Opt → Option Char
  | config => some 'c'
  | listen => some 'l'
  | help => some 'h'
  | version => some 'V'
  | _ => none

/-- The name of the value, if there is one. -/
def value : Opt → Option String
  | config => some "CONFIG"
  | listen => some "LISTEN"
  | nodeId => some "NODE_ID"
  | logLevel => some "LOG_LEVEL"
  | _ => none

/-- The variable of the environment that stands for an option that is not given. -/
def environment : Opt → Option String
  | config => some "MODELSYNC_CONFIG"
  | listen => some "MODELSYNC_LISTEN_ADDR"
  | nodeId => some "MODELSYNC_NODE_ID"
  | logLevel => some "MODELSYNC_LOG_LEVEL"
  | json => some "MODELSYNC_LOG_JSON"
  | _ => none

/-- Whether an option belongs to the settings of the daemon. -/
def isSetting : Opt → Bool
  | help | version => false
  | _ => true

def about : Opt → String
  | config => "Configuration file path"
  | listen => "Listen address"
  | nodeId => "Local node id"
  | logLevel => "Log level"
  | json => "Enable JSON logging"
  | help => "Print help"
  | version => "Print version"

def usage (o : Opt) : String :=
  "--" ++ o.long ++ match o.value with
    | some name => s!" <{name}>"
    | none => ""

def ofLong (name : String) : Option Opt := all.find? (·.long = name)

def ofShort (c : Char) : Option Opt := all.find? (·.short = some c)

end Opt

/-- Why the reading of arguments ends before all are read. -/
inductive Halt
  | help
  | version
  | unexpected (argument : String) (meant : Option Opt) (used : List Opt)
  | missingValue (o : Opt)
  | repeated (o : Opt)
  | needlessValue (value : String) (o : Opt) (alone : Bool)
  | badFlag (value : String) (o : Opt)
  deriving DecidableEq

/-- What has been read so far. -/
structure Reading where
  /-- The options with their values, in the order in which they were given. -/
  given : List (Opt × String)
  /-- An option that is not entered yet, and its value if that has come. -/
  pending : Option (Opt × Option String)
  /-- Whether everything that follows is plain. -/
  plain : Bool

namespace Reading

def empty : Reading := ⟨[], none, false⟩

def used (r : Reading) : List Opt := r.given.map (·.1)

def enter (r : Reading) (o : Opt) (value : String) : Except Halt Reading :=
  if o ∈ r.used then .error (.repeated o) else .ok { r with given := r.given ++ [(o, value)] }

/-- Enters the option that is pending. -/
def settle (r : Reading) : Except Halt Reading :=
  match r.pending with
  | none => .ok r
  | some (o, some value) => { r with pending := none }.enter o value
  | some (o, none) => .error (.missingValue o)

/-- Enters the option that is pending, if that is possible. -/
def settled (r : Reading) : Reading := r.settle.toOption.getD { r with pending := none }

def flag (r : Reading) (o : Opt) : Except Halt Reading := do
  let r ← r.settle
  match o with
  | .help => throw .help
  | .version => throw .version
  | o => r.enter o "true"

/-- Reads an option that takes a value, which may be attached to it. -/
def withValue (r : Reading) (o : Opt) (attached : Option String) : Except Halt Reading := do
  let r ← r.settle
  match attached with
  | some value => r.enter o value
  | none => return { r with pending := some (o, none) }

/-- Refuses a long name that no option has; a similar one may be meant. -/
def unknown (r : Reading) (name : String) : Except Halt Reading :=
  let meant := (Similarity.closest name (Opt.all.map Opt.long)).bind Opt.ofLong
  let used := r.settled.used
  .error (.unexpected ("--" ++ name) meant
    (used ++ (meant.toList.filter fun o => o ∉ used)))

def long (r : Reading) (cs : List Char) : Except Halt Reading :=
  let name := String.ofList (cs.takeWhile (· ≠ '='))
  let attached := match cs.dropWhile (· ≠ '=') with
    | _ :: value => some (String.ofList value)
    | [] => none
  match Opt.ofLong name with
  | none => r.unknown name
  | some o =>
    if o.value.isSome then r.withValue o attached
    else match attached with
      | some value => .error (.needlessValue value o r.used.isEmpty)
      | none => r.flag o

/-- Reads the letters of an argument that begins with one hyphen. -/
def shorts (r : Reading) : List Char → Except Halt Reading
  | [] => .ok r
  | c :: rest =>
    match Opt.ofShort c with
    | none => .error (.unexpected s!"-{c}" none [])
    | some o =>
      if o.value.isSome then
        r.withValue o <| match rest with
          | [] => none
          | '=' :: value => some (String.ofList value)
          | value => some (String.ofList value)
      else do shorts (← r.flag o) rest

/-- Reads an argument that is no option: the value of the one before, if that waits for one. -/
def word (r : Reading) (argument : String) : Except Halt Reading :=
  match r.plain, r.pending with
  | false, some (o, none) => .ok { r with pending := some (o, some argument) }
  | _, _ => .error (.unexpected argument none [])

def argument (r : Reading) (s : String) : Except Halt Reading :=
  if r.plain then r.word s
  else match s.toList with
    | ['-', '-'] => .ok { r with plain := true }
    | '-' :: '-' :: cs => r.long cs
    | '-' :: c :: cs => r.shorts (c :: cs)
    | _ => r.word s

/-- Looks an option up in the environment, unless it was given. -/
def lookUp (environment : List (String × String)) (r : Reading) (o : Opt) : Except Halt Reading :=
  if o ∈ r.used then .ok r
  else match o.environment.bind fun name => environment.lookup name with
    | none => .ok r
    | some value =>
      if o.value.isSome || value == "true" || value == "false" then r.enter o value
      else .error (.badFlag value o)

def all (environment : List (String × String)) (arguments : List String) :
    Except Halt Reading := do
  let r ← arguments.foldlM argument empty
  let r ← r.settle
  Opt.all.foldlM (lookUp environment) r

def value? (r : Reading) (o : Opt) : Option String := r.given.lookup o

end Reading

end ModelFleet.CommandLine
