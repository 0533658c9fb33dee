import ModelFleet.Cycle.Gate
import ModelFleet.Sorted.Map

/-!
# Permits

Several gates, each of which has a name, and the permits of those who are inside.  A permit is kept
in a slot.  A slot has room for one permit only: a new one takes the place of an old one, whose
holder thereby comes out of its gate.
-/

namespace ModelFleet

/-- Gates by their names, and by slot the name of the gate that its permit is for. -/
structure Permits where
  gates : SortedMap String Gate
  slots : SortedMap String String
  deriving DecidableEq

namespace Permits

def empty : Permits := ⟨∅, ∅⟩

instance : EmptyCollection Permits := ⟨empty⟩
instance : Inhabited Permits := ⟨empty⟩

def gate (p : Permits) (name : String) : Gate := (p.gates.get? name).getD .fresh

def isOpen (p : Permits) (name : String) : Bool := (p.gate name).isOpen

/-- Comes out of the gate whose permit is in a slot; says whether there was one. -/
def leave (slot : String) : StateM Permits Bool := do
  let p ← get
  match p.slots.get? slot with
  | none => return false
  | some name =>
    set { p with gates := p.gates.insert name (p.gate name).leave, slots := p.slots.erase slot }
    return true

/-- Goes through a gate, if it is open, and keeps the permit in a slot; says whether it was. -/
def enter (name slot : String) : StateM Permits Bool := do
  match (← get).gate name |>.enter with
  | none => return false
  | some gate =>
    modify fun p => { p with gates := p.gates.insert name gate }
    let _ ← leave slot
    modify fun p => { p with slots := p.slots.insert slot name }
    return true

end Permits

end ModelFleet
