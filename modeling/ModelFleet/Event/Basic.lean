import ModelFleet.Id.Cycle
import ModelFleet.Model.State
import ModelFleet.Node.Report

/-!
# Events

What a cycle did and which failures it survived, for those who watch it.
-/

namespace ModelFleet

/-- How much an event matters. -/
inductive Severity
  | debug
  | info
  | warning
  | error
  deriving DecidableEq, Inhabited

namespace Severity

def name : Severity → String
  | debug => "Debug"
  | info => "Info"
  | warning => "Warning"
  | error => "Error"

def toJson (s : Severity) : Json := .str s.name

def ofJson : Decoder Severity :=
  Decode.choice ([debug, info, warning, error].map fun s => .bare s.name s)

end Severity

inductive SyncEvent
  | cycleStarted
  | cycleSkipped (reason : String)
  | cycleAborted (reason : String)
  | cycleCompleted (scanned corrected durationMillis : UInt64)
  | nodeUnreachable (node : NodeId) (reason : String)
  | expiredModelsUndeployed (node : NodeId) (models : List ModelId)
  | modelStateCorrected (model : ModelId) (fromState toState : ModelState)
      (fromCount toCount : UInt32)
  | bulkWriteFailed (model : Option ModelId) (reason : String)
  | masterKeyCreated (fingerprint : String)
  | masterKeyAdopted (fingerprint : String)
  deriving DecidableEq, Inhabited

namespace SyncEvent

def severity : SyncEvent → Severity
  | cycleAborted _ | bulkWriteFailed .. => .error
  | nodeUnreachable .. => .warning
  | cycleSkipped _ | cycleStarted => .debug
  | _ => .info

/-- An event with fields as a document. -/
def tagged (name : String) (members : List (String × Json)) : Json :=
  .object [(name, .object members)]

def toJson : SyncEvent → Json
  | cycleStarted => .str "CycleStarted"
  | cycleSkipped reason => tagged "CycleSkipped" [("reason", .str reason)]
  | cycleAborted reason => tagged "CycleAborted" [("reason", .str reason)]
  | cycleCompleted scanned corrected durationMillis =>
    tagged "CycleCompleted" [("scanned", .int scanned.toNat), ("corrected", .int corrected.toNat),
      ("duration_ms", .int durationMillis.toNat)]
  | nodeUnreachable node reason =>
    tagged "NodeUnreachable" [("node_id", node.toJson), ("reason", .str reason)]
  | expiredModelsUndeployed node models =>
    tagged "ExpiredModelsUndeployed"
      [("node_id", node.toJson), ("model_ids", .arr (models.map Name.toJson))]
  | modelStateCorrected model fromState toState fromCount toCount =>
    tagged "ModelStateCorrected" [("model_id", model.toJson), ("from_state", fromState.toJson),
      ("to_state", toState.toJson), ("from_count", .int fromCount.toNat),
      ("to_count", .int toCount.toNat)]
  | bulkWriteFailed model reason =>
    tagged "BulkWriteFailed"
      [("model_id", .optionalText (model.map (·.text))), ("reason", .str reason)]
  | masterKeyCreated fingerprint => tagged "MasterKeyCreated" [("fingerprint", .str fingerprint)]
  | masterKeyAdopted fingerprint => tagged "MasterKeyAdopted" [("fingerprint", .str fingerprint)]

def variants : List (Decode.Variant SyncEvent) :=
  [.bare "CycleStarted" cycleStarted,
   .fields "CycleSkipped" (cycleSkipped <$> .required "reason" Decode.text),
   .fields "CycleAborted" (cycleAborted <$> .required "reason" Decode.text),
   .fields "CycleCompleted" (cycleCompleted <$> .required "scanned" Decode.size
     <*> .required "corrected" Decode.size <*> .required "duration_ms" Decode.count64),
   .fields "NodeUnreachable" (nodeUnreachable <$> .required "node_id" Name.ofJson
     <*> .required "reason" Decode.text),
   .fields "ExpiredModelsUndeployed" (expiredModelsUndeployed <$> .required "node_id" Name.ofJson
     <*> .required "model_ids" (Decode.list Name.ofJson)),
   .fields "ModelStateCorrected" (modelStateCorrected <$> .required "model_id" Name.ofJson
     <*> .required "from_state" ModelState.ofJson <*> .required "to_state" ModelState.ofJson
     <*> .required "from_count" Decode.count32 <*> .required "to_count" Decode.count32),
   .fields "BulkWriteFailed" (bulkWriteFailed <$> .nullable "model_id" Name.ofJson
     <*> .required "reason" Decode.text),
   .fields "MasterKeyCreated" (masterKeyCreated <$> .required "fingerprint" Decode.text),
   .fields "MasterKeyAdopted" (masterKeyAdopted <$> .required "fingerprint" Decode.text)]

def ofJson : Decoder SyncEvent := Decode.choice variants

end SyncEvent

end ModelFleet
