import ModelFleet.Id.Name
import ModelFleet.Json.Decode

/-!
# Reports of nodes

A node reports which models it holds, which it is deploying in which tasks, and which of its models
have expired.
-/

namespace ModelFleet

namespace Name

variable {kind : Kind}

def toJson (name : Name kind) : Json := .str name.text

def ofJson : Decoder (Name kind) := fun value => Name.mk <$> Decode.text value

end Name

namespace SortedSet

variable {kind : Kind}

def toJson (names : SortedSet (Name kind)) : Json := .arr (names.toList.map Name.toJson)

def ofJson : Decoder (SortedSet (Name kind)) := Decode.set Name.ofJson

def debug (names : SortedSet (Name kind)) : String :=
  "\x7b" ++ ", ".intercalate (names.toList.map Name.debug) ++ "\x7d"

end SortedSet

/-- What one node says about itself. -/
structure NodeReport where
  node : NodeId
  deployed : SortedSet ModelId
  deploying : SortedSet ModelId
  tasks : SortedSet TaskId
  expired : SortedSet ModelId
  deriving DecidableEq

namespace NodeReport

def empty (node : NodeId) : NodeReport := ⟨node, ∅, ∅, ∅, ∅⟩

instance : Inhabited NodeReport := ⟨empty default⟩

def withDeployed (report : NodeReport) (models : List ModelId) : NodeReport :=
  { report with deployed := models.foldl .insert report.deployed }

def withDeploying (report : NodeReport) (model : ModelId) (task : TaskId) : NodeReport :=
  { report with deploying := report.deploying.insert model, tasks := report.tasks.insert task }

def withExpired (report : NodeReport) (models : List ModelId) : NodeReport :=
  { report with expired := models.foldl .insert report.expired }

/-! ### In documents -/

def members (report : NodeReport) : List (String × Json) :=
  [("node_id", report.node.toJson), ("deployed_model_ids", report.deployed.toJson),
    ("running_deploy_model_ids", report.deploying.toJson),
    ("running_deploy_task_ids", report.tasks.toJson),
    ("expired_model_ids", report.expired.toJson)]

def toJson (report : NodeReport) : Json := .object report.members

/-- The fields of a report; sets may be left out. -/
def fields : Fields NodeReport :=
  mk <$> .required "node_id" Name.ofJson
    <*> .withDefault "deployed_model_ids" SortedSet.ofJson ∅
    <*> .withDefault "running_deploy_model_ids" SortedSet.ofJson ∅
    <*> .withDefault "running_deploy_task_ids" SortedSet.ofJson ∅
    <*> .withDefault "expired_model_ids" SortedSet.ofJson ∅

def ofJson : Decoder NodeReport := Decode.record "NodeReport" fields

def debug (report : NodeReport) : String :=
  "NodeReport \x7b node_id: " ++ report.node.debug ++
    ", deployed_model_ids: " ++ report.deployed.debug ++
    ", running_deploy_model_ids: " ++ report.deploying.debug ++
    ", running_deploy_task_ids: " ++ report.tasks.debug ++
    ", expired_model_ids: " ++ report.expired.debug ++ " \x7d"

end NodeReport

end ModelFleet
