import ModelFleet.Cluster.Local
import ModelFleet.Cycle.Job
import ModelFleet.Simulation.Clock

/-!
# Calls to nodes

A request to a node becomes a call, which is answered when the node has waited long enough, or fails
when the time for answers is over before.  An answer may be prepared for one call of one round; such
a call does not reach the node.
-/

namespace ModelFleet.Simulation

inductive Round
  | gather
  | routing
  deriving DecidableEq

def Round.of : SyncRequest → Round
  | .gather _ => .gather
  | .applyRouting .. => .routing

/-- An answer prepared for the next call of a node in a round. -/
structure Script where
  node : NodeId
  round : Round
  answer : Except ClusterError SyncResponse
  delay : Option Nat

/-- The nodes, the prepared answers, and how many milliseconds a node has to answer. -/
structure Network where
  cluster : LocalCluster
  scripts : List Script
  timeout : Nat

/-- Where a call stands: it is over, or it waits for an alarm, if there is one, and is then answered
by what was prepared, or else by the node. -/
inductive CallStage
  | answered (result : Except ClusterError SyncResponse)
  | waiting (delay : Option Alarm) (prepared : Option (Except ClusterError SyncResponse))

/-- A call to a node, which fails at its deadline. -/
structure Call where
  node : NodeId
  deadline : Alarm
  stage : CallStage

namespace Network

/-- Takes the first of the scripts that is for a node and a round. -/
def takeScript (node : NodeId) (round : Round) : List Script → Option (Script × List Script)
  | [] => none
  | script :: rest =>
    if script.node = node ∧ script.round = round then some (script, rest)
    else (takeScript node round rest).map fun (found, left) => (found, script :: left)

def place (network : Network) (clock : Clock) (message : SyncRequest) (node : NodeId) :
    Network × Call :=
  let deadline := clock.after network.timeout
  match takeScript node (Round.of message) network.scripts with
  | some (script, scripts) =>
    ({ network with scripts },
      ⟨node, deadline, .waiting (script.delay.map clock.after) (some script.answer)⟩)
  | none =>
    let network := { network with cluster := network.cluster.count }
    match network.cluster.wait node with
    | .error e => (network, ⟨node, deadline, .answered (.error e)⟩)
    | .ok delay => (network, ⟨node, deadline, .waiting (delay.map clock.after) none⟩)

/-- The answer of a call that has waited long enough. -/
def answer (network : Network) (message : SyncRequest) (call : Call)
    (prepared : Option (Except ClusterError SyncResponse)) : Network × Call :=
  match prepared with
  | some result => (network, { call with stage := .answered result })
  | none =>
    let (cluster, result) := network.cluster.serve call.node message
    ({ network with cluster }, { call with stage := .answered result })

def expire (network : Network) (call : Call) : Call :=
  { call with stage := .answered (.error (.timedOut call.node network.timeout)) }

end Network

namespace Call

def answer? (call : Call) : Option Answer :=
  match call.stage with
  | .answered result => some (call.node, result)
  | _ => none

def alarms (call : Call) : List Alarm :=
  match call.stage with
  | .answered _ => []
  | .waiting delay _ => delay.toList ++ [call.deadline]

end Call

end ModelFleet.Simulation
