import ModelFleet.Id.Uuid
import ModelFleet.Json.Basic
import ModelFleet.Text.Quoted
import ModelFleet.Time.Rfc3339

/-!
# Why a document does not describe a value

`Mismatch` lists the causes for which a document is refused where a value of some type is expected,
and `Mismatch.message` puts each into words.
-/

namespace ModelFleet

/-- What stands in the place where something else was expected. -/
inductive Found
  | null
  | bool (value : Bool)
  | int (value : Int)
  | real (value : Binary64)
  | text (value : String)
  | sequence
  | map
  | bareVariant
  deriving DecidableEq

def Found.words : Found → String
  | .null => "null"
  | .bool b => s!"boolean `{b}`"
  | .int n => s!"integer `{n}`"
  | .real x => s!"floating point `{x.scientific}`"
  | .text s => "string " ++ Quoted.quote s
  | .sequence => "sequence"
  | .map => "map"
  | .bareVariant => "unit variant"

/-- The kind of thing that a document is. -/
def Json.found : Json → Found
  | .null => .null
  | .bool b => .bool b
  | .int n => .int n
  | .real x => .real x
  | .str s => .text s
  | .arr _ => .sequence
  | .obj _ => .map

/-- Why a document does not describe a value. -/
inductive Mismatch
  | wrongType (found : Found) (expected : String)
  | wrongValue (found : Found) (expected : String)
  | wrongLength (length : Nat) (expected : String)
  | missingField (field : String)
  | unknownVariant (name : String) (known : List String)
  | badUuid (error : UuidError)
  | badStamp (error : StampError)
  | badAddress
  deriving DecidableEq

namespace Mismatch

def alternatives : List String → String
  | [a] => s!"`{a}`"
  | [a, b] => s!"`{a}` or `{b}`"
  | names => "one of " ++ ", ".intercalate (names.map fun name => s!"`{name}`")

def message : Mismatch → String
  | wrongType found expected => s!"invalid type: {found.words}, expected {expected}"
  | wrongValue found expected => s!"invalid value: {found.words}, expected {expected}"
  | wrongLength length expected => s!"invalid length {length}, expected {expected}"
  | missingField field => s!"missing field `{field}`"
  | unknownVariant name known => s!"unknown variant `{name}`, expected {alternatives known}"
  | badUuid error => "UUID parsing failed: " ++ error.message
  | badStamp error => error.message
  | badAddress => "invalid socket address syntax"

end Mismatch

end ModelFleet
