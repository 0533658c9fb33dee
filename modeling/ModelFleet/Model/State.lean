import ModelFleet.Json.Decode

/-!
# States of a model

Four of the seven states say something about the nodes that hold the model; only these are
reconciled with what the nodes report.
-/

namespace ModelFleet

/-- Where a model stands in its life. -/
inductive ModelState
  | registering
  | registered
  | deploying
  | deployed
  | partiallyDeployed
  | undeployed
  | deployFailed
  deriving DecidableEq, Inhabited

namespace ModelState

def name : ModelState → String
  | registering => "REGISTERING"
  | registered => "REGISTERED"
  | deploying => "DEPLOYING"
  | deployed => "DEPLOYED"
  | partiallyDeployed => "PARTIALLY_DEPLOYED"
  | undeployed => "UNDEPLOYED"
  | deployFailed => "DEPLOY_FAILED"

def all : List ModelState :=
  [registering, registered, deploying, deployed, partiallyDeployed, undeployed, deployFailed]

/-- The states that speak of nodes. -/
def reconcilable : List ModelState := [deploying, deployed, partiallyDeployed, deployFailed]

def isReconcilable (s : ModelState) : Bool := s ∈ reconcilable

def toJson (s : ModelState) : Json := .str s.name

def ofJson : Decoder ModelState := Decode.choice (all.map fun s => .bare s.name s)

end ModelState

end ModelFleet
