import ModelFleet.Node.Message

/-!
# Failures of the cluster
-/

namespace ModelFleet

/-- Why a list of nodes or the answer of a node is not there. -/
inductive ClusterError
  | membership (reason : String)
  | unreachable (node : NodeId) (reason : String)
  | timedOut (node : NodeId) (millis : Nat)
  | unexpected (node : NodeId) (detail : String)
  deriving DecidableEq

namespace ClusterError

def message : ClusterError → String
  | membership reason => s!"Membership unavailable: {reason}"
  | unreachable node reason => s!"Node {node.text} unreachable: {reason}"
  | timedOut node millis => s!"Node {node.text} timed out after {millis}ms"
  | unexpected node detail => s!"Node {node.text} sent an unexpected response: {detail}"

/-- The failure of a node whose answer belongs to the other round. -/
def wrongKind (node : NodeId) (response : SyncResponse) : ClusterError :=
  unexpected node response.debug

end ClusterError

end ModelFleet
