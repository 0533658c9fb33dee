import ModelFleet.Json.Decode

/-!
# Identifiers of cycles
-/

namespace ModelFleet

structure CycleId where
  uuid : Uuid
  deriving DecidableEq, Inhabited

namespace CycleId

def ofNat (n : Nat) : CycleId := ⟨Uuid.ofNat n⟩

/-- The form in which an identifier is shown to people. -/
def toString (cycle : CycleId) : String := s!"cycle:{cycle.uuid}"

instance : ToString CycleId := ⟨toString⟩

def toJson (cycle : CycleId) : Json := .str cycle.uuid.toString

def ofJson : Decoder CycleId := fun value => mk <$> Decode.uuid value

end CycleId

end ModelFleet
