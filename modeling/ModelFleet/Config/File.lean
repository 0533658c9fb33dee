import ModelFleet.Format.Ini
import ModelFleet.Format.Json5
import ModelFleet.Format.Ron
import ModelFleet.Format.Toml
import ModelFleet.Format.Yaml
import ModelFleet.Json.Parser

/-!
# Files of settings

Settings are kept in files of several formats, told apart by what ends their names.  A path names
such a file with the ending or without it.
-/

namespace ModelFleet.Config

inductive FileFormat
  | toml
  | json
  | yaml
  | ini
  | ron
  | json5
  deriving DecidableEq

/-- Why a file says nothing. -/
inductive FileFault
  | noDocument (error : Json.SyntaxError)
  | malformed (format : FileFormat)
  | noTable (found : String)
  deriving DecidableEq

namespace FileFormat

def all : List FileFormat := [toml, json, yaml, ini, ron, json5]

/-- The words that end the names of files of a format. -/
def extensions : FileFormat → List String
  | toml => ["toml"]
  | json => ["json"]
  | yaml => ["yaml", "yml"]
  | ini => ["ini"]
  | ron => ["ron"]
  | json5 => ["json5"]

/-- The word behind the last point of a name, if there is a name before the point. -/
def extensionOf (name : String) : Option String :=
  let reversed := name.toList.reverse
  match reversed.dropWhile (· ≠ '.') with
  | '.' :: _ :: _ => some (String.ofList (reversed.takeWhile (· ≠ '.')).reverse)
  | _ => none

def ofName (name : String) : Option FileFormat :=
  (extensionOf name).bind fun extension => all.find? (·.extensions.contains extension)

/-- The document that a text of a format holds. -/
def read (format : FileFormat) (content : String) : Except FileFault Json :=
  let ofOption : Option Json → Except FileFault Json
    | some value => .ok value
    | none => .error (.malformed format)
  match format with
  | json => (Json.read content).mapError .noDocument
  | toml => ofOption (Toml.parse content)
  | yaml => ofOption (Yaml.parse content)
  | ini => ofOption (Ini.parse content)
  | ron => ofOption (Ron.parse content)
  | json5 => ofOption (Json5.parse content)

end FileFormat

/-! ### Paths -/

def pathSteps (path : String) : List String :=
  (path.splitOn "/").filter fun part => part ≠ "" && part ≠ "."

/-- Whether a path can only mean a directory. -/
def isDirectory (path : String) : Bool :=
  ["", ".", ".."].contains ((path.splitOn "/").getLast?.getD "")

def plainPath (path : String) : String :=
  (if path.toList.head? = some '/' then "/" else "") ++ "/".intercalate (pathSteps path)

/-- The names that a path may mean when what ends the name is left out. -/
def extendedPaths (path : String) : List String :=
  match (pathSteps path).getLast? with
  | none | some ".." => []
  | some _ =>
    FileFormat.all.flatMap fun format =>
      format.extensions.map fun extension => s!"{plainPath path}.{extension}"

/-- The file that a path means, among files with their contents: the one of that name, which then
has to end as the names of a format do, or else the first one whose name goes on so. -/
def findFile (files : List (String × String)) (path : String) : Option (String × String) :=
  let exact := if isDirectory path then none else files.find? (·.1 = plainPath path)
  match exact with
  | some file => if (FileFormat.ofName file.1).isSome then some file else none
  | none => (extendedPaths path).findSome? fun name => files.find? (·.1 = name)

/-- The text of a file without the mark that may stand in front of it. -/
def withoutMark (content : String) : String :=
  match content.toList with
  | '\uFEFF' :: rest => String.ofList rest
  | _ => content

end ModelFleet.Config
