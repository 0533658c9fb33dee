import ModelFleet.Id.Name
import ModelFleet.Json.Printer
import ModelFleet.Model.State

/-!
# Records of models

A model's document holds five fields that matter here, among others that are left alone.
`ofDocument` reads them, with `null` counting as absent, and `toDocument` writes them.  Of several
faults in one document the first in the order state, tenant, planned count, current count, time is
reported.
-/

namespace ModelFleet

/-- What is wrong with a field that is there. -/
inductive FieldFault
  | mismatch (cause : Mismatch)
  | notText (found : Json)
  | notNumber (found : Json)
  | notMillis (found : Json)
  | badCount (number : Json)
  | badMillis (number : Json)
  deriving DecidableEq

def FieldFault.message : FieldFault → String
  | mismatch cause => cause.message
  | notText found => "expected string, got " ++ found.render
  | notNumber found => "expected number, got " ++ found.render
  | notMillis found => "expected epoch millis, got " ++ found.render
  | badCount number => number.render ++ " is not a valid node count"
  | badMillis number => number.render ++ " is not a valid epoch millis timestamp"

inductive RecordError
  | notAnObject
  | missingField (field : String)
  | invalidField (field : String) (fault : FieldFault)
  deriving DecidableEq

def RecordError.message : RecordError → String
  | notAnObject => "document is not a JSON object"
  | missingField field => s!"missing field `{field}`"
  | invalidField field fault => s!"invalid value for field `{field}`: {fault.message}"

namespace Document

/-! ### Fields -/

def stateField : String := "model_state"
def tenantField : String := "tenant_id"
def plannedField : String := "planning_worker_node_count"
def currentField : String := "current_worker_node_count"
def updatedField : String := "last_updated_time"

def readText (field : String) (members : List (String × Json)) :
    Except RecordError (Option String) :=
  match Json.present? field members with
  | none => .ok none
  | some (.str s) => .ok (some s)
  | some other => .error (.invalidField field (.notText other))

def readCount (field : String) (members : List (String × Json)) :
    Except RecordError (Option UInt32) :=
  match Json.present? field members with
  | none => .ok none
  | some (.int n) =>
    if 0 ≤ n ∧ n < 2 ^ 32 then .ok (some (UInt32.ofNat n.toNat))
    else .error (.invalidField field (.badCount (.int n)))
  | some (.real x) => .error (.invalidField field (.badCount (.real x)))
  | some other => .error (.invalidField field (.notNumber other))

def readMillis (field : String) (members : List (String × Json)) :
    Except RecordError (Option Instant) :=
  match Json.present? field members with
  | none => .ok none
  | some (.int n) =>
    match Instant.ofMillis? n with
    | some t => .ok (some t)
    | none => .error (.invalidField field (.badMillis (.int n)))
  | some (.real x) => .error (.invalidField field (.badMillis (.real x)))
  | some other => .error (.invalidField field (.notMillis other))

def demand {α : Type} (field : String) : Option α → Except RecordError α
  | some a => .ok a
  | none => .error (.missingField field)

def readState (members : List (String × Json)) : Except RecordError ModelState :=
  match Json.present? stateField members with
  | none => .error (.missingField stateField)
  | some value =>
    (ModelState.ofJson value).mapError fun cause => .invalidField stateField (.mismatch cause)

end Document

/-- What is known of a model: who owns it, its state, on how many nodes it should be and was last
seen, and when its document was last changed. -/
structure ModelRecord where
  id : ModelId
  tenant : Option TenantId
  state : ModelState
  planned : UInt32
  current : UInt32
  updated : Option Instant
  deriving DecidableEq

namespace ModelRecord

open Document

def ofDocument (id : ModelId) (source : Json) : Except RecordError ModelRecord :=
  match source with
  | .obj members => do
    let state ← readState members
    let tenant ← readText tenantField members
    let planned ← demand plannedField (← readCount plannedField members)
    let current ← readCount currentField members
    let updated ← readMillis updatedField members
    return ⟨id, tenant.map .mk, state, planned, current.getD 0, updated⟩
  | _ => .error .notAnObject

def members (record : ModelRecord) : List (String × Json) :=
  [(stateField, record.state.toJson), (plannedField, .int record.planned.toNat),
    (currentField, .int record.current.toNat)] ++
  (record.tenant.map fun tenant => (tenantField, .str tenant.text)).toList ++
  (record.updated.map fun t => (updatedField, .int t.millis)).toList

def toDocument (record : ModelRecord) : Json := .object record.members

end ModelRecord

end ModelFleet
