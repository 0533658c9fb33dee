import ModelFleet.Config.File
import ModelFleet.Config.Settings
import ModelFleet.Config.Tree

/-!
# Loading settings

The defaults, a file and the environment are laid over each other, and each setting is then turned
into what it should be: a text may stand for a number or a truth value, and a number or a truth
value for a text.  A setting that cannot be turned is reported with its key and with where it comes
from.
-/

namespace ModelFleet.Config

inductive LoadError
  /-- A setting is of the wrong kind. -/
  | wrongType (found expected key : String) (origin : Origin)
  /-- A part of the settings is no table. -/
  | wrongSection (found title : String)
  /-- What is left does not make up settings. -/
  | mismatch (cause : Mismatch)
  /-- A file holds no table. -/
  | unreadable (file : String) (fault : FileFault)
  deriving DecidableEq

def LoadError.message : LoadError → String
  | wrongType found expected key origin =>
    s!"invalid type: {found}, expected {expected} for key `{key}`{origin.suffix}"
  | wrongSection found title => s!"invalid type: {found}, expected struct {title}"
  | mismatch cause => cause.message
  | unreadable file (.noDocument error) => s!"{error.message} in {file}"
  | unreadable file (.malformed _) => s!"malformed document in {file}"
  | unreadable file (.noTable found) =>
    s!"invalid type: {found}, expected a map in {file} in {file}"

/-! ### Kinds of settings -/

/-- What a setting should be. -/
inductive Kind
  | count
  | flag
  | text
  | address
  deriving DecidableEq

/-- The words for what a setting should be. -/
def Kind.expected : Kind → String
  | count => "an integer"
  | flag => "a boolean"
  | text | address => "a string"

/-- The truth value that a text in lower case stands for. -/
def truth? : String → Option Bool
  | "true" | "on" | "yes" => some true
  | "false" | "off" | "no" => some false
  | _ => none

/-- The words for a setting that is not of the kind it should be. -/
def Scalar.exactWords : Scalar → String
  | nil => "unit value"
  | bool b => s!"boolean `{b}`"
  | int n => s!"64-bit integer `{n}`"
  | real x => s!"floating point `{x.positional}`"
  | text s => "string " ++ Quoted.quote s

/-- The natural number that a setting stands for, or what was found and expected instead. -/
def Scalar.toCount : Scalar → Except (String × String) Nat
  | nil => .error (nil.exactWords, Kind.count.expected)
  | bool b => .ok b.toNat
  | int n =>
    if 0 ≤ n then .ok n.toNat
    else .error ((int n).exactWords, "an unsigned 64 bit or less integer")
  | real x => .ok x.toUnsigned
  | text s =>
    match truth? (Lowercase.ofString s) with
    | some b => .ok b.toNat
    | none =>
      match Integer.readNatural (2 ^ 64) s with
      | .ok n => .ok n
      | .error _ => .error ((text s).exactWords, Kind.count.expected)

/-- The truth value that a setting stands for, or what was found and expected instead. -/
def Scalar.toFlag : Scalar → Except (String × String) Bool
  | nil => .error (nil.exactWords, Kind.flag.expected)
  | bool b => .ok b
  | int n => .ok (n ≠ 0)
  | real x => .ok (!x.isZero)
  | text s =>
    let s := Lowercase.ofString s
    match s, truth? s with
    | "1", _ => .ok true
    | "0", _ => .ok false
    | _, some b => .ok b
    | _, none => .error ((Scalar.text s).exactWords, Kind.flag.expected)

/-- The text that a setting stands for, or what was found and expected instead. -/
def Scalar.toText : Scalar → Except (String × String) String
  | nil => .error (nil.exactWords, Kind.text.expected)
  | bool b => .ok (toString b)
  | int n => .ok (toString n)
  | real x => .ok x.positional
  | text s => .ok s

/-- The document that a setting of a kind stands for. -/
def Kind.ofScalar (kind : Kind) (s : Scalar) : Except (String × String) Json :=
  match kind with
  | count => s.toCount.map fun n => .int n
  | flag => s.toFlag.map .bool
  | text | address => s.toText.map .str

/-- Refuses a text that should be an address and is none. -/
def Kind.refine (kind : Kind) (value : Json) : Except LoadError Json :=
  match kind with
  | address => ((ServerSettings.readAddress value).map fun _ => value).mapError .mismatch
  | _ => .ok value

/-- The document that a tree of a kind stands for. -/
def Kind.ofTree (kind : Kind) (key : String) (tree : Tree) : Except LoadError Json := do
  let turned := match tree with
    | .leaf _ s => kind.ofScalar s
    | .list .. => .error ("sequence", kind.expected)
    | .table .. => .error ("map", kind.expected)
  kind.refine (← turned.mapError fun (found, expected) =>
    .wrongType found expected key tree.origin)

/-! ### Sections -/

/-- A part of the settings: its key, its title, and the keys and kinds of its settings. -/
structure Section where
  key : String
  title : String
  fields : List (String × Kind)

def sections : List Section :=
  [⟨"server", "ServerConfig", [("listen_addr", .address), ("enable_cors", .flag)]⟩,
   ⟨"sync", "SyncConfig",
    [("interval_secs", .count), ("grace_period_secs", .count), ("gather_timeout_ms", .count),
      ("scan_page_size", .count), ("model_collection", .text), ("config_collection", .text),
      ("master_key_id", .text)]⟩,
   ⟨"cluster", "ClusterConfig", [("node_id", .text)]⟩,
   ⟨"logging", "LoggingConfig", [("level", .text), ("json", .flag)]⟩]

/-- The words for a part of the settings that is no table. -/
def Scalar.words : Scalar → String
  | nil => "unit value"
  | bool b => s!"boolean `{b}`"
  | int n => s!"integer `{n}`"
  | real x =>
    let s := x.positional
    let pointed := if x.isFinite && !s.toList.contains '.' then s ++ ".0" else s
    s!"floating point `{pointed}`"
  | text s => "string " ++ Quoted.quote s

def Section.named (part : Section) (members : List (String × Tree)) :
    Except LoadError (List (String × Json)) :=
  members.filterMapM fun (key, tree) =>
    match part.fields.lookup key with
    | none => .ok none
    | some kind => (kind.ofTree s!"{part.key}.{key}" tree).map fun value => some (key, value)

/-- The settings of a part by their places. -/
def Section.listed (part : Section) (items : List Tree) : Except LoadError (List Json) :=
  (part.fields.zip items).zipIdx.mapM fun (((_, kind), tree), i) =>
    kind.ofTree s!"{part.key}[{i}]" tree

def Section.ofTree (part : Section) : Tree → Except LoadError Json
  | .leaf _ s => .error (.wrongSection s.words part.title)
  | .list _ items => (part.listed items).map .arr
  | .table _ members => (part.named members).map .object

def Tree.toSettings (tree : Tree) : Except LoadError Settings := do
  let parts ← sections.filterMapM fun part =>
    match tree.get? part.key with
    | none => .ok none
    | some tree => (part.ofTree tree).map fun value => some (part.key, value)
  (Settings.ofJson (.object parts)).mapError .mismatch

/-! ### Files -/

/-- The members of a tree that is a table, or the words for what it is. -/
def Tree.rootMembers : Tree → Except String (List (String × Tree))
  | .table _ members => .ok members
  | .list .. => .error "sequence"
  | .leaf _ s => .error s.exactWords

def readFile (name content : String) : Except LoadError (List (String × Tree)) := do
  let format := (FileFormat.ofName name).getD .json
  let value ← (format.read (withoutMark content)).mapError (.unreadable name)
  (Tree.ofJson (.file name) value).rootMembers.mapError fun found =>
    .unreadable name (.noTable found)

/-- What a path says, if there is such a file. -/
def fileEntries (files : List (String × String)) (path : Option String) :
    Except LoadError (List (String × Tree)) :=
  match path.bind (findFile files) with
  | none => .ok []
  | some (name, content) => readFile name content

def load (files : List (String × String)) (path : Option String)
    (environment : List (String × String)) : Except LoadError Settings := do
  let defaults := Tree.ofJson .nowhere (default : Settings).toJson
  let fromFile ← fileEntries files path
  let fromEnvironment := environment.filterMap fun (name, value) => Tree.ofVariable name value
  ((defaults.apply fromFile).apply fromEnvironment).toSettings

end ModelFleet.Config
