/-!
# Shifts

Those who work take turns, and whoever has its turn works until it must wait.  So that nobody keeps
the others waiting for ever, a turn comes with a credit: whatever could make one wait costs one
unit, and one whose credit is used up must let the others go first, even where it could go on.
-/

namespace ModelFleet.Simulation

/-- Those who take turns: the jobs in the foreground by their places, the scheduler, and the cycles
that this has started by their numbers. -/
inductive Party
  | branch (place : Nat)
  | scheduler
  | cycle (number : Nat)
  deriving DecidableEq, Inhabited

/-- The turn of a party. -/
structure Shift where
  party : Party
  credit : Nat
  /-- Whether the party would have gone on, had it had more credit. -/
  starved : Bool
  deriving DecidableEq, Inhabited

namespace Shift

/-- The credit with which a turn begins. -/
def fullCredit : Nat := 128

def fresh (party : Party) : Shift := ⟨party, fullCredit, false⟩

def passTo (shift : Shift) (party : Party) : Shift := { shift with party, starved := false }

/-- Spends one unit, if there is any. -/
def spend (shift : Shift) : Shift × Bool :=
  match shift.credit with
  | 0 => ({ shift with starved := true }, false)
  | n + 1 => ({ shift with credit := n }, true)

end Shift

end ModelFleet.Simulation
