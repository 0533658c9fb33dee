import ModelFleet.Id.Cycle
import ModelFleet.Node.Aggregate

/-!
# Messages to nodes

A cycle sends two rounds of requests.  In the first each node is asked for its report; in the second
each is told where models are found, which tasks run, and which models have expired everywhere.  In
a document a message has its kind beside its fields; the fields of a report stand there directly.
-/

namespace ModelFleet

/-- What a node is told in the second round. -/
structure RoutingPush where
  routing : Placement .model
  tasks : Placement .task
  expired : SortedSet ModelId
  deriving DecidableEq, Inhabited

def Aggregate.push (state : Aggregate) : RoutingPush :=
  ⟨state.routingTable, state.tasks, state.fullyExpired⟩

inductive SyncRequest
  | gather (cycle : CycleId)
  | applyRouting (cycle : CycleId) (push : RoutingPush)
  deriving DecidableEq, Inhabited

namespace SyncRequest

def cycle : SyncRequest → CycleId
  | gather cycle => cycle
  | applyRouting cycle _ => cycle

def toJson : SyncRequest → Json
  | gather cycle => .object [("kind", .str "gather"), ("cycle_id", cycle.toJson)]
  | applyRouting cycle push =>
    .object [("kind", .str "apply_routing"), ("cycle_id", cycle.toJson),
      ("routing_table", push.routing.toJson), ("running_deploy_tasks", push.tasks.toJson),
      ("expired_model_ids", push.expired.toJson)]

def pushFields : Fields SyncRequest :=
  (fun cycle routing tasks expired => applyRouting cycle ⟨routing, tasks, expired⟩)
    <$> .required "cycle_id" CycleId.ofJson
    <*> .required "routing_table" Placement.ofJson
    <*> .required "running_deploy_tasks" Placement.ofJson
    <*> .required "expired_model_ids" SortedSet.ofJson

def ofJson : Decoder SyncRequest :=
  Decode.tagged "SyncUpRequest" "kind"
    [⟨"gather", "struct variant SyncUpRequest::Gather",
      .inr (gather <$> .required "cycle_id" CycleId.ofJson)⟩,
     ⟨"apply_routing", "struct variant SyncUpRequest::ApplyRouting", .inr pushFields⟩]

end SyncRequest

inductive SyncResponse
  | report (report : NodeReport)
  | applied (node : NodeId) (undeployed : SortedSet ModelId)
  deriving DecidableEq, Inhabited

namespace SyncResponse

def node : SyncResponse → NodeId
  | report r => r.node
  | applied node _ => node

def toJson : SyncResponse → Json
  | report r => .object (("kind", .str "report") :: r.members)
  | applied node undeployed =>
    .object [("kind", .str "applied"), ("node_id", node.toJson),
      ("undeployed_model_ids", undeployed.toJson)]

def ofJson : Decoder SyncResponse :=
  Decode.tagged "SyncUpResponse" "kind"
    [⟨"report", "struct NodeReport", .inr (report <$> NodeReport.fields)⟩,
     ⟨"applied", "struct variant SyncUpResponse::Applied",
      .inr (applied <$> .required "node_id" Name.ofJson
        <*> .required "undeployed_model_ids" SortedSet.ofJson)⟩]

def debug : SyncResponse → String
  | report r => s!"Report({r.debug})"
  | applied node undeployed =>
    "Applied \x7b node_id: " ++ node.debug ++ ", undeployed_model_ids: " ++ undeployed.debug ++
      " \x7d"

end SyncResponse

end ModelFleet
