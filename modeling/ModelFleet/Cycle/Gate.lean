/-!
# The gate

Only one cycle at a time may reconcile.  A cycle that finds the gate open goes in and closes it
until it leaves.
-/

namespace ModelFleet

/-- The gate, which is taken while a cycle is inside. -/
structure Gate where
  taken : Bool
  deriving DecidableEq, Inhabited

namespace Gate

def fresh : Gate := ⟨false⟩

def isOpen (gate : Gate) : Bool := !gate.taken

/-- Goes in, if the gate is open. -/
def enter (gate : Gate) : Option Gate := if gate.taken then none else some ⟨true⟩

def leave (_gate : Gate) : Gate := ⟨false⟩

end Gate

end ModelFleet
