import ModelFleet.Event.Basic

/-!
# Envelopes

An event with its identifier, its time, its severity and the cycle that it belongs to.
-/

namespace ModelFleet

/-- An event as it is sent to those who watch. -/
structure Envelope where
  id : Uuid
  time : Stamp
  severity : Severity
  cycle : Option CycleId
  event : SyncEvent
  deriving DecidableEq

namespace Envelope

def ofEvent (id : Uuid) (time : Instant) (cycle : Option CycleId) (event : SyncEvent) : Envelope :=
  ⟨id, Stamp.ofInstant time, event.severity, cycle, event⟩

/-- An identifier of a cycle, or `null`. -/
def cycleJson (cycle : Option CycleId) : Json := .optionalText (cycle.map (·.uuid.toString))

def toJson (e : Envelope) : Json :=
  .object [("id", .str e.id.toString), ("timestamp", .str e.time.toString),
    ("severity", e.severity.toJson), ("cycle_id", cycleJson e.cycle), ("event", e.event.toJson)]

def fields : Fields Envelope :=
  mk <$> .required "id" Decode.uuid <*> .required "timestamp" Decode.stamp
    <*> .required "severity" Severity.ofJson <*> .nullable "cycle_id" CycleId.ofJson
    <*> .required "event" SyncEvent.ofJson

def ofJson : Decoder Envelope := Decode.record "SyncEventEnvelope" fields

end Envelope

end ModelFleet
