import ModelFleet.Cycle.Job

/-!
# The two rounds

In the first round the nodes that take part are asked for their reports, which are put together.  In
the second round the nodes that answered or failed are told the routing and what to drop.  An answer
of the wrong kind counts as a failure, and an answer is always that of the node that was asked,
whichever node it names.
-/

namespace ModelFleet

def ClusterError.event (node : NodeId) (error : ClusterError) : SyncEvent :=
  .nodeUnreachable node error.message

/-- What the first round waits for. -/
inductive Gather
  | listing
  | asking (nodes : List NodeId)
  deriving DecidableEq

namespace Gather

/-- What an answer says, or why it does not count. -/
def reportOf : Answer → Except ClusterError NodeReport
  | (node, .ok (.report report)) => .ok { report with node }
  | (node, .ok response) => .error (.wrongKind node response)
  | (_, .error e) => .error e

def absorb (state : Aggregate) (answer : Answer) : Aggregate :=
  match reportOf answer with
  | .ok report => state.absorb report
  | .error _ => state.markFailed answer.1

def state (answers : List Answer) : Aggregate := answers.foldl absorb ∅

/-- The event of an answer that does not count. -/
def event? (answer : Answer) : Option SyncEvent :=
  match reportOf answer with
  | .ok _ => none
  | .error e => some (e.event answer.1)

def request (cycle : CycleId) : Gather → Request
  | listing => .members
  | asking nodes => .broadcast nodes (.gather cycle)

def resume (cycle : CycleId) :
    (g : Gather) → (g.request cycle).Reply →
      StateM Daemon (Next Gather (Except SyncError Aggregate))
  | listing, reply =>
    match reply with
    | .error e => return .over (.error (.cluster e))
    | .ok nodes => return .wait (.asking nodes)
  | asking _, answers => do
    Daemon.emitAll cycle (List.filterMap event? answers)
    return .over (.ok (state answers))

def job (cycle : CycleId) : Job Gather (Except SyncError Aggregate) := ⟨request cycle, resume cycle⟩

end Gather

/-- The second round waits for the answers of the nodes to which a state is pushed. -/
structure Routing where
  state : Aggregate
  deriving DecidableEq

namespace Routing

/-- What a node says that it dropped, or why its answer does not count. -/
def undeployedOf : Answer → Except ClusterError (SortedSet ModelId)
  | (_, .ok (.applied _ undeployed)) => .ok undeployed
  | (node, .ok response) => .error (.wrongKind node response)
  | (_, .error e) => .error e

def absorb (outcome : RoutingOutcome) (answer : Answer) : RoutingOutcome :=
  match undeployedOf answer with
  | .ok undeployed =>
    { outcome with
      acknowledged := outcome.acknowledged.insert answer.1
      undeployed :=
        if undeployed.isEmpty then outcome.undeployed
        else outcome.undeployed.insert answer.1 undeployed }
  | .error _ => { outcome with failed := outcome.failed.insert answer.1 }

def outcome (answers : List Answer) : RoutingOutcome := answers.foldl absorb .empty

/-- The event of an answer: that models were dropped, or that it does not count. -/
def event? (answer : Answer) : Option SyncEvent :=
  match undeployedOf answer with
  | .ok undeployed =>
    if undeployed.isEmpty then none
    else some (.expiredModelsUndeployed answer.1 undeployed.toList)
  | .error e => some (e.event answer.1)

def request (cycle : CycleId) (round : Routing) : Request :=
  .broadcast round.state.nodes.toList (.applyRouting cycle round.state.push)

def resume (cycle : CycleId) (round : Routing) (answers : (round.request cycle).Reply) :
    StateM Daemon (Next Routing RoutingOutcome) := do
  Daemon.emitAll cycle (List.filterMap event? answers)
  return .over (outcome answers)

def job (cycle : CycleId) : Job Routing RoutingOutcome := ⟨request cycle, resume cycle⟩

end Routing

/-- The state after the second round, in which the nodes no longer hold what they dropped. -/
def Aggregate.afterRouting (state : Aggregate) (outcome : RoutingOutcome) : Aggregate :=
  outcome.undeployed.entries.foldl (fun state e => state.removeWorkers e.1 e.2) state

end ModelFleet
