/-!
# The scheduler

A scheduler starts a cycle at once, then one per period, and one for every trigger that it accepts;
only one trigger can be pending.  It looks whether it has been stopped only when it wakes up, and
ends then.  A tick is heard once alarms have rung up to its time; one that is heard late moves all
later ones.  Times are in milliseconds.
-/

namespace ModelFleet

/-- What the loop of a scheduler is doing. -/
inductive SchedulerPhase
  | idle
  | spawned
  | looping (nextTick : Nat)
  | ended
  deriving DecidableEq, Inhabited

structure Scheduler where
  period : Nat
  running : Bool
  triggered : Bool
  phase : SchedulerPhase
  deriving DecidableEq, Inhabited

namespace Scheduler

def fresh (period : Nat) : Scheduler := ⟨period, false, false, .idle⟩

/-- Starts the loop, unless it was started before. -/
def start (s : Scheduler) : Option Scheduler :=
  match s.phase with
  | .idle => some { s with phase := .spawned }
  | _ => none

def stop (s : Scheduler) : Scheduler := { s with running := false }

def accepts (s : Scheduler) : Bool := !s.triggered && s.phase ≠ .ended

def trigger (s : Scheduler) : Scheduler :=
  if s.accepts then { s with triggered := true } else s

/-- How late a tick may be without moving the later ones. -/
def tolerance : Nat := 5

/-- The tick after the one that was due at `tick` and is noticed at `now`. -/
def tickAfter (period tick now : Nat) : Nat :=
  if tick + tolerance < now then now + period else tick + period

/-- Goes on after waking up: with a cycle if the scheduler is running, otherwise it ends. -/
def wake (s : Scheduler) : Scheduler × Bool :=
  if s.running then (s, true) else ({ s with phase := .ended }, false)

/-- The next step of the loop at a time `now` when alarms have rung up to `rung`, if it has one, and
whether it starts a cycle. -/
def step (s : Scheduler) (rung now : Nat) : Option (Scheduler × Bool) :=
  match s.phase with
  | .spawned => some ({ s with running := true, phase := .looping now }, false)
  | .looping tick =>
    if tick ≤ rung then some (wake { s with phase := .looping (tickAfter s.period tick now) })
    else if s.triggered then some (wake { s with triggered := false })
    else none
  | _ => none

/-- When the loop wakes up by itself. -/
def nextTick? (s : Scheduler) : Option Nat :=
  match s.phase with
  | .looping tick => some tick
  | _ => none

def finished (s : Scheduler) : Bool := s.phase = .ended

/-- Steps of the loop as long as it has any, at most `fuel` of them, and how many cycles they
start. -/
def run (rung now : Nat) : Nat → Scheduler → Scheduler × Nat
  | 0, s => (s, 0)
  | fuel + 1, s =>
    match s.step rung now with
    | none => (s, 0)
    | some (s, starts) =>
      let (s, count) := run rung now fuel s
      (s, count + starts.toNat)

/-- All steps of the loop at a time: a start, a tick and a trigger at most, for the next tick is
later. -/
def runAll (s : Scheduler) (rung now : Nat) : Scheduler × Nat := run rung now 4 s

end Scheduler

end ModelFleet
