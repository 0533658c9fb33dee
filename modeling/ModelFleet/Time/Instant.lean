import ModelFleet.Number.Power

/-!
# Instants

A point in time as nanoseconds since the epoch, and its whole milliseconds, which is what documents
hold.  `millis_ofMillis` says that whole milliseconds are kept.
-/

namespace ModelFleet

/-- Nanoseconds since the beginning of 1970, universal time. -/
structure Instant where
  nanos : Int
  deriving DecidableEq, Inhabited

namespace Instant

def ofMillis (ms : Int) : Instant := ⟨ms * 1000000⟩

/-- The whole milliseconds since the epoch, rounded down. -/
def millis (t : Instant) : Int := t.nanos / 1000000

@[simp] theorem millis_ofMillis (ms : Int) : (ofMillis ms).millis = ms := by
  simp [millis, ofMillis]

def firstMillis : Int := -8334601228800000

def lastMillis : Int := 8210266876799999

def ofMillis? (ms : Int) : Option Instant :=
  if firstMillis ≤ ms ∧ ms ≤ lastMillis then some (ofMillis ms) else none

theorem ofMillis?_eq_some_iff {ms : Int} {t : Instant} :
    ofMillis? ms = some t ↔ (firstMillis ≤ ms ∧ ms ≤ lastMillis) ∧ ofMillis ms = t := by
  simp [ofMillis?]

end Instant

end ModelFleet
