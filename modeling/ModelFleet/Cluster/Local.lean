import ModelFleet.Cluster.Error

/-!
# A cluster within the process

Each node has a runtime: the models it holds, the tasks that deploy models, the models that have
expired, and the last routing it was told.  A request first arrives, which fails at once where the
node cannot be reached and otherwise tells how long the node waits, and is then served, which fails
where the node can no longer be reached.
-/

namespace ModelFleet

structure NodeRuntime where
  eligible : Bool
  reachable : Bool
  /-- How many milliseconds the node waits before it answers. -/
  delay : Option Nat
  deployed : SortedSet ModelId
  deploying : SortedMap TaskId ModelId
  expired : SortedSet ModelId
  routing : Placement .model
  knownTasks : Placement .task
  deriving DecidableEq

namespace NodeRuntime

def fresh : NodeRuntime := ⟨true, true, none, ∅, ∅, ∅, ∅, ∅⟩

instance : Inhabited NodeRuntime := ⟨fresh⟩

def report (runtime : NodeRuntime) (node : NodeId) : NodeReport where
  node := node
  deployed := runtime.deployed
  deploying := .ofList (runtime.deploying.entries.map (·.2))
  tasks := .ofList runtime.deploying.keys
  expired := runtime.expired

/-- The expired models that a node holds or has let expire itself. -/
def removable (runtime : NodeRuntime) (expired : SortedSet ModelId) : SortedSet ModelId :=
  expired.filter fun model => model ∈ runtime.deployed || model ∈ runtime.expired

/-- Takes over the routing and drops the expired models. -/
def apply (runtime : NodeRuntime) (push : RoutingPush) : NodeRuntime :=
  { runtime with
    routing := push.routing
    knownTasks := push.tasks
    deployed := runtime.deployed.filter (· ∉ push.expired)
    expired := runtime.expired.filter (· ∉ push.expired) }

def serve (runtime : NodeRuntime) (node : NodeId) : SyncRequest → NodeRuntime × SyncResponse
  | .gather _ => (runtime, .report (runtime.report node))
  | .applyRouting _ push =>
    (runtime.apply push, .applied node (runtime.removable push.expired))

end NodeRuntime

/-- The nodes of a cluster, and how many requests were sent to them. -/
structure LocalCluster where
  nodes : SortedMap NodeId NodeRuntime
  membershipDown : Bool
  requests : Nat
  deriving DecidableEq

namespace LocalCluster

def empty : LocalCluster := ⟨∅, false, 0⟩

instance : Inhabited LocalCluster := ⟨empty⟩

def addNode (cluster : LocalCluster) (node : NodeId) : LocalCluster :=
  if cluster.nodes.contains node then cluster
  else { cluster with nodes := cluster.nodes.insert node .fresh }

def ofNodes (nodes : List NodeId) : LocalCluster := nodes.foldl addNode empty

/-- Changes the runtime of a node, if it is there. -/
def update (cluster : LocalCluster) (node : NodeId) (f : NodeRuntime → NodeRuntime) :
    LocalCluster :=
  match cluster.nodes.get? node with
  | none => cluster
  | some runtime => { cluster with nodes := cluster.nodes.insert node (f runtime) }

/-- The nodes that take part, in the order of their names. -/
def members (cluster : LocalCluster) : Except ClusterError (List NodeId) :=
  if cluster.membershipDown then .error (.membership "local membership marked down")
  else .ok (cluster.nodes.filter fun _ runtime => runtime.eligible).keys

def unreachable (node : NodeId) : ClusterError := .unreachable node "node not reachable"

/-- The runtime of a node, if it can be reached. -/
def reach (cluster : LocalCluster) (node : NodeId) : Except ClusterError NodeRuntime :=
  match cluster.nodes.get? node with
  | some runtime => if runtime.reachable then .ok runtime else .error (unreachable node)
  | none => .error (unreachable node)

def count (cluster : LocalCluster) : LocalCluster :=
  { cluster with requests := cluster.requests + 1 }

/-- How long a node waits, if it does, before it serves a request that has just arrived. -/
def wait (cluster : LocalCluster) (node : NodeId) : Except ClusterError (Option Nat) :=
  (cluster.reach node).map (·.delay)

def serve (cluster : LocalCluster) (node : NodeId) (request : SyncRequest) :
    LocalCluster × Except ClusterError SyncResponse :=
  match cluster.reach node with
  | .error e => (cluster, .error e)
  | .ok runtime =>
    let (after, response) := runtime.serve node request
    ({ cluster with nodes := cluster.nodes.insert node after }, .ok response)

end LocalCluster

end ModelFleet
