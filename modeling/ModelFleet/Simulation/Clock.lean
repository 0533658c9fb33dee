/-!
# The virtual clock

Time stands still while somebody works.  An alarm is set when somebody begins to wait for it; the
alarms that have come due ring when the clock is looked at, in the order in which they are due, and
those of one moment in the order in which they were set.  So a clock that has moved on has not yet
rung: whoever works in between hears only what rang before.
-/

namespace ModelFleet.Simulation

structure Clock where
  /-- The time in milliseconds. -/
  now : Nat
  /-- The time up to which alarms have rung. -/
  rung : Nat
  /-- How many alarms were ever set. -/
  placed : Nat
  deriving DecidableEq, Inhabited

/-- An alarm: when it is due and, once it is set, its place in the order of setting. -/
structure Alarm where
  due : Nat
  place : Option Nat
  deriving DecidableEq, Inhabited

namespace Clock

def zero : Clock := ⟨0, 0, 0⟩

def moveTo (clock : Clock) (time : Nat) : Clock := { clock with now := max clock.now time }

def look (clock : Clock) : Clock := { clock with rung := clock.now }

/-- An alarm so many milliseconds from now, not set yet. -/
def after (clock : Clock) (millis : Nat) : Alarm := ⟨clock.now + millis, none⟩

/-- Sets an alarm, unless it is set. -/
def set (clock : Clock) (alarm : Alarm) : Clock × Alarm :=
  match alarm.place with
  | some _ => (clock, alarm)
  | none => ({ clock with placed := clock.placed + 1 }, { alarm with place := some clock.placed })

def hasRung (clock : Clock) (alarm : Alarm) : Bool := alarm.due ≤ clock.rung

/-- Whether a set alarm rings when the clock is looked at next. -/
def rings (clock : Clock) (alarm : Alarm) : Bool :=
  alarm.place.isSome && clock.rung < alarm.due && alarm.due ≤ clock.now

end Clock

namespace Alarm

def notAfter (a b : Alarm) : Bool :=
  a.due < b.due || (a.due == b.due && a.place.getD 0 ≤ b.place.getD 0)

end Alarm

end ModelFleet.Simulation
