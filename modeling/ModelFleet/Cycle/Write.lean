import ModelFleet.Cycle.Job

/-!
# Writing corrections

All corrections are written in one bulk request.  A correction whose model the store reports as
failed counts as failed, with the last error reported for it; every other one counts as written.
-/

namespace ModelFleet

/-- Corrections that wait to be written with a time. -/
structure Write where
  corrections : List Correction
  time : Instant
  deriving DecidableEq

namespace Write

def itemOf (time : Instant) (c : Correction) : BulkItem := ⟨c.model.text, c.tenant, c.changes time⟩

def request (collection : String) (write : Write) : Request :=
  .update collection (write.corrections.map (itemOf write.time))

/-- The last error that a response reports for a correction. -/
def errorOf (response : BulkResponse) (c : Correction) : Option StoreError :=
  ((response.failures.filter (·.1 = c.model.text)).getLast?).map (·.2)

def event (response : BulkResponse) (c : Correction) : SyncEvent :=
  match errorOf response c with
  | some e => .bulkWriteFailed (some c.model) e.message
  | none => .modelStateCorrected c.model c.fromState c.toState c.fromCount c.toCount

def outcome (corrections : List Correction) : Except StoreError BulkResponse → BulkOutcome
  | .error e => ⟨corrections.length, 0, [], some e⟩
  | .ok response =>
    let (failed, written) := corrections.partition fun c => (errorOf response c).isSome
    ⟨corrections.length, written.length, failed.map (·.model), none⟩

def events (corrections : List Correction) : Except StoreError BulkResponse → List SyncEvent
  | .error e => [.bulkWriteFailed none e.message]
  | .ok response => corrections.map (event response)

/-- Begins a write; writing nothing asks for nothing. -/
def start (corrections : List Correction) : StateM Daemon (Next Write BulkOutcome) := do
  if corrections.isEmpty then return .over .empty
  return .wait ⟨corrections, ← Daemon.now⟩

def resume (collection : String) (cycle : CycleId) (write : Write)
    (reply : (write.request collection).Reply) : StateM Daemon (Next Write BulkOutcome) := do
  Daemon.emitAll cycle (events write.corrections reply)
  return .over (outcome write.corrections reply)

def job (collection : String) (cycle : CycleId) : Job Write BulkOutcome :=
  ⟨request collection, resume collection cycle⟩

end Write

end ModelFleet
