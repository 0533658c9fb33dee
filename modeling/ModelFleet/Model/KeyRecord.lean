import ModelFleet.Model.Record

/-!
# The record of the master key

The document that holds the cluster's key in its stored form, with the time at which it was made.
An empty key counts as absent.
-/

namespace ModelFleet

structure KeyRecord where
  masterKey : String
  created : Instant
  deriving DecidableEq

namespace KeyRecord

open Document

def keyField : String := "master_key"
def createdField : String := "create_time"

def ofDocument : Json → Except RecordError KeyRecord
  | .obj members => do
    let key ← demand keyField ((← readText keyField members).filter (· ≠ ""))
    let created ← demand createdField (← readMillis createdField members)
    return ⟨key, created⟩
  | _ => .error .notAnObject

def toDocument (record : KeyRecord) : Json :=
  .object [(keyField, .str record.masterKey), (createdField, .int record.created.millis)]

end KeyRecord

end ModelFleet
