import ModelFleet.Cycle.Error
import ModelFleet.Model.Record
import ModelFleet.Node.Aggregate

/-!
# Corrections

`Reconciler.decide` compares the record of a model with what the nodes report.  A model that some
node is deploying is deploying; one whose record was changed within the grace period, or seems to
have been changed in the future, is left alone; otherwise it has failed where no node holds it and
is partially deployed where fewer nodes hold it than planned.  A record that says so already needs
no correction.
-/

namespace ModelFleet

/-- A change of the state and count of a model's record. -/
structure Correction where
  model : ModelId
  tenant : Option TenantId
  fromState : ModelState
  toState : ModelState
  fromCount : UInt32
  toCount : UInt32
  deriving DecidableEq

namespace Correction

def toJson (c : Correction) : Json :=
  .object [("model_id", c.model.toJson), ("tenant_id", .optionalText (c.tenant.map (·.text))),
    ("from_state", c.fromState.toJson), ("to_state", c.toState.toJson),
    ("from_count", .int c.fromCount.toNat), ("to_count", .int c.toCount.toNat)]

def ofJson : Decoder Correction :=
  Decode.record "Correction" (mk <$> .required "model_id" Name.ofJson
    <*> .nullable "tenant_id" Name.ofJson
    <*> .required "from_state" ModelState.ofJson <*> .required "to_state" ModelState.ofJson
    <*> .required "from_count" Decode.count32 <*> .required "to_count" Decode.count32)

/-- The members that a correction puts into the document of its model. -/
def changes (c : Correction) (now : Instant) : Json :=
  .object [(Document.stateField, c.toState.toJson), (Document.currentField, .int c.toCount.toNat),
    (Document.updatedField, .int now.millis)]

end Correction

/-- What decides on corrections: the grace period, the state of the cluster and the time. -/
structure Reconciler where
  graceMillis : Nat
  state : Aggregate
  now : Instant

namespace Reconciler

/-- Whether a record was changed so recently that it is left alone. -/
def withinGrace (r : Reconciler) (record : ModelRecord) : Bool :=
  match record.updated with
  | none => false
  | some t => r.now.nanos < t.nanos || r.now.nanos - t.nanos < r.graceMillis * 1000000

/-- The state in which a model should be, where that is certain. -/
def target (r : Reconciler) (record : ModelRecord) : Option ModelState :=
  let held := r.state.workerCount record.id
  if r.state.isDeploying record.id then some .deploying
  else if r.withinGrace record then none
  else if held = 0 then some .deployFailed
  else if held < record.planned then some .partiallyDeployed
  else none

def decide (r : Reconciler) (record : ModelRecord) : Option Correction :=
  if record.state.isReconcilable then
    match r.target record with
    | none => none
    | some toState =>
      let held := r.state.workerCount record.id
      if record.state = toState ∧ record.current = held then none
      else some ⟨record.id, record.tenant, record.state, toState, record.current, held⟩
  else none

end Reconciler

/-- What a pass over records has found so far. -/
structure Refresh where
  scanned : Nat
  corrections : List Correction
  deriving DecidableEq, Inhabited

namespace Refresh

def empty : Refresh := ⟨0, []⟩

def add (r : Reconciler) (refresh : Refresh) (record : ModelRecord) : Refresh :=
  ⟨refresh.scanned + 1, refresh.corrections ++ (r.decide record).toList⟩

def addAll (r : Reconciler) (refresh : Refresh) (records : List ModelRecord) : Refresh :=
  ⟨refresh.scanned + records.length, refresh.corrections ++ records.filterMap r.decide⟩

/-- Takes in a stream of records, which the first error ends. -/
def addStream (r : Reconciler) (refresh : Refresh) (items : List (Except SyncError ModelRecord)) :
    Except SyncError Refresh :=
  items.foldlM (fun refresh item => do return refresh.add r (← item)) refresh

theorem addAll_eq_foldl (r : Reconciler) (refresh : Refresh) (records : List ModelRecord) :
    refresh.addAll r records = records.foldl (add r) refresh := by
  induction records generalizing refresh with
  | nil => simp [addAll]
  | cons record rest ih =>
    rw [List.foldl_cons, ← ih]
    cases h : r.decide record <;> simp [addAll, add, h, Nat.add_assoc, Nat.add_comm 1]

end Refresh

end ModelFleet
