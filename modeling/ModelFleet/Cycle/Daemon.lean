import ModelFleet.Cycle.Gate
import ModelFleet.Cycle.Report
import ModelFleet.Event.Feed
import ModelFleet.Key.Ring

/-!
# What the cycles of one daemon share

The time, the key ring, the gate, the event feed, the report of the last cycle that ended, and
whether some job is looking for the master key.
-/

namespace ModelFleet

/-- The state that all cycles of a daemon share. -/
structure Daemon where
  clock : Instant
  ring : KeyRing
  gate : Gate
  feed : Feed
  lastReport : Option CycleReport
  /-- Whether some job is looking for the master key. -/
  keySought : Bool
  /-- How many cycles have begun. -/
  begun : Nat

namespace Daemon

def fresh (clock : Instant) (ring : KeyRing) (feed : Feed) : Daemon :=
  ⟨clock, ring, .fresh, feed, none, false, 0⟩

def emit (cycle : Option CycleId) (event : SyncEvent) : StateM Daemon Unit :=
  modify fun d => { d with feed := d.feed.emit d.clock cycle event }

def emitAll (cycle : CycleId) : List SyncEvent → StateM Daemon Unit
  | [] => pure ()
  | event :: rest => do
    emit (some cycle) event
    emitAll cycle rest

def now : StateM Daemon Instant := do return (← get).clock

def install (key : KeyMaterial) : StateM Daemon (Except KeyError Unit) := do
  let d ← get
  match d.ring.install key with
  | .ok ring =>
    set { d with ring }
    return .ok ()
  | .error e => return .error e

def drawKey : StateM Daemon KeyMaterial :=
  modifyGet fun d => (d.ring.next, { d with ring := d.ring.draw })

/-- Goes through the gate, if it is open. -/
def enterGate : StateM Daemon Bool := do
  let d ← get
  match d.gate.enter with
  | some gate =>
    set { d with gate }
    return true
  | none => return false

def leaveGate : StateM Daemon Unit := modify fun d => { d with gate := d.gate.leave }

/-- Begins or ends the search for the master key, which one job does at a time. -/
def seekKey (sought : Bool) : StateM Daemon Unit := modify fun d => { d with keySought := sought }

def nextCycle : StateM Daemon CycleId :=
  modifyGet fun d => (.ofNat (d.begun + 1), { d with begun := d.begun + 1 })

def keepReport (report : CycleReport) : StateM Daemon Unit :=
  modify fun d => { d with lastReport := some report }

end Daemon

end ModelFleet
