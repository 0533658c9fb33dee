import ModelFleet.Simulation.Shift

/-!
# Locks

A lock is held by one party alone or shared by several.  Those who come while it is held, or while
others wait for it, stand in a line.  Whoever finds it free holds it at once, even if it cannot go
on before its next turn; the others are given it in the order of the line.
-/

namespace ModelFleet.Simulation

/-- A claim on a lock, for one party alone or to be shared. -/
structure LockClaim where
  party : Party
  alone : Bool
  deriving DecidableEq, Inhabited

/-- Those who hold a lock and have not gone on yet, and those who wait for it. -/
structure Lock where
  held : List LockClaim
  line : List LockClaim
  deriving DecidableEq, Inhabited

namespace Lock

def fresh : Lock := ⟨[], []⟩

/-- Whether a claim goes together with those that hold the lock. -/
def fits (lock : Lock) (claim : LockClaim) : Bool :=
  lock.held.isEmpty || (!claim.alone && lock.held.all (!·.alone))

/-- Asks for the lock; `free` says whether nobody has gone on with it. -/
def ask (lock : Lock) (free : Bool) (claim : LockClaim) : Lock :=
  if free && lock.line.isEmpty && lock.fits claim then { lock with held := lock.held ++ [claim] }
  else { lock with line := lock.line ++ [claim] }

def isHeldBy (lock : Lock) (party : Party) : Bool := lock.held.any (·.party = party)

def leave (lock : Lock) (party : Party) : Lock :=
  { lock with held := lock.held.filter (·.party ≠ party) }

/-- Gives the lock to those of a line who come first, as long as they go together. -/
def giveTo (lock : Lock) : List LockClaim → Lock × List Party
  | [] => ({ lock with line := [] }, [])
  | claim :: rest =>
    if lock.fits claim then
      let (lock, others) := giveTo { lock with held := lock.held ++ [claim] } rest
      (lock, claim.party :: others)
    else ({ lock with line := claim :: rest }, [])

/-- Gives the lock to those who wait, and says to whom. -/
def give (lock : Lock) : Lock × List Party := lock.giveTo lock.line

end Lock

end ModelFleet.Simulation
