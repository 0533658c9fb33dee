import ModelFleet.Node.Placement

/-!
# The state of the cluster

The reports of the nodes, put together: which nodes hold, deploy or have let expire each model,
which run each task, and which nodes answered or failed to.  A model is fully expired when every
node that holds it has reported it expired; the routing table leaves such models out.
-/

namespace ModelFleet

/-- What the nodes have reported, put together. -/
structure Aggregate where
  workers : Placement .model
  deploying : Placement .model
  tasks : Placement .task
  expired : Placement .model
  responded : SortedSet NodeId
  failed : SortedSet NodeId
  deriving DecidableEq

namespace Aggregate

/-- The state in which no node has answered or failed. -/
def empty : Aggregate := ⟨∅, ∅, ∅, ∅, ∅, ∅⟩

instance : EmptyCollection Aggregate := ⟨empty⟩
instance : Inhabited Aggregate := ⟨empty⟩

/-- Takes in the report of a node, which thereby has not failed. -/
def absorb (state : Aggregate) (report : NodeReport) : Aggregate where
  workers := state.workers.add report.node report.deployed
  deploying := state.deploying.add report.node report.deploying
  tasks := state.tasks.add report.node report.tasks
  expired := state.expired.add report.node report.expired
  responded := state.responded.insert report.node
  failed := state.failed.erase report.node

/-- Notes that a node did not report, unless it did before. -/
def markFailed (state : Aggregate) (node : NodeId) : Aggregate :=
  if node ∈ state.responded then state else { state with failed := state.failed.insert node }

def removeWorkers (state : Aggregate) (node : NodeId) (models : SortedSet ModelId) : Aggregate :=
  { state with workers := state.workers.remove node models }

def ofReports (reports : List NodeReport) : Aggregate := reports.foldl absorb ∅

/-- The number of nodes that hold a model, as far as a count goes. -/
def workerCount (state : Aggregate) (model : ModelId) : UInt32 :=
  UInt32.ofNat (min (state.workers.nodesOf model).size (2 ^ 32 - 1))

def isDeploying (state : Aggregate) (model : ModelId) : Bool :=
  !(state.deploying.nodesOf model).isEmpty

/-- Whether every node that holds a model is among these. -/
def heldOnlyBy (state : Aggregate) (model : ModelId) (nodes : SortedSet NodeId) : Bool :=
  (state.workers.nodesOf model).isSubset nodes

/-- The models reported expired by every node that holds them. -/
def fullyExpired (state : Aggregate) : SortedSet ModelId :=
  .ofList (state.expired.filter state.heldOnlyBy).keys

/-- Which nodes hold each model that is not fully expired. -/
def routingTable (state : Aggregate) : Placement .model :=
  let expired := state.fullyExpired
  state.workers.filter fun model _ => model ∉ expired

def nodes (state : Aggregate) : SortedSet NodeId := state.responded ∪ state.failed

/-! ### In documents -/

def toJson (state : Aggregate) : Json :=
  .object [("model_worker_nodes", state.workers.toJson),
    ("deploying_models", state.deploying.toJson), ("running_deploy_tasks", state.tasks.toJson),
    ("expired_models", state.expired.toJson), ("responded_nodes", state.responded.toJson),
    ("failed_nodes", state.failed.toJson)]

def fields : Fields Aggregate :=
  mk <$> .required "model_worker_nodes" Placement.ofJson
    <*> .required "deploying_models" Placement.ofJson
    <*> .required "running_deploy_tasks" Placement.ofJson
    <*> .required "expired_models" Placement.ofJson
    <*> .required "responded_nodes" SortedSet.ofJson
    <*> .required "failed_nodes" SortedSet.ofJson

def ofJson : Decoder Aggregate := Decode.record "AggregatedState" fields

/-! ### Who holds what -/

theorem mem_workers_absorb {state : Aggregate} {report : NodeReport} {node : NodeId}
    {model : ModelId} :
    node ∈ (state.absorb report).workers.nodesOf model ↔
      node ∈ state.workers.nodesOf model ∨ (model ∈ report.deployed ∧ node = report.node) :=
  Placement.mem_at_add

theorem mem_workers_removeWorkers {state : Aggregate} {node n : NodeId}
    {models : SortedSet ModelId} {model : ModelId} :
    n ∈ (state.removeWorkers node models).workers.nodesOf model ↔
      n ∈ state.workers.nodesOf model ∧ ¬ (model ∈ models ∧ n = node) :=
  Placement.mem_at_remove

theorem mem_fullyExpired {state : Aggregate} {model : ModelId} :
    model ∈ state.fullyExpired ↔
      ∃ nodes, state.expired.get? model = some nodes ∧ state.heldOnlyBy model nodes = true := by
  simp only [fullyExpired, SortedSet.mem_ofList, SortedMap.keys, List.mem_map, Prod.exists,
    exists_and_right, exists_eq_right]
  refine exists_congr fun nodes => ?_
  rw [← SortedMap.get?_eq_some_iff, SortedMap.get?_filter, Option.filter_eq_some_iff]

end Aggregate

end ModelFleet
