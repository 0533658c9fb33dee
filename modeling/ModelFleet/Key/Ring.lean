import ModelFleet.Key.Material

/-!
# Key rings

A ring holds the key in use and counts how often one was installed.  Fresh keys come from a
sequence that is fixed beforehand, of which the ring knows how many it has drawn.  A ring whose
state is lost refuses every installation.
-/

namespace ModelFleet

/-- What encrypts and decrypts: the key in use. -/
structure KeyRing where
  held : Option KeyMaterial
  installs : Nat
  refuses : Bool
  drawn : Nat
  source : Nat → KeyMaterial

namespace KeyRing

def empty (source : Nat → KeyMaterial) : KeyRing := ⟨none, 0, false, 0, source⟩

instance : Inhabited KeyRing := ⟨empty fun _ => default⟩

def install (ring : KeyRing) (key : KeyMaterial) : Except KeyError KeyRing :=
  if ring.refuses then .error .poisoned
  else .ok { ring with held := some key, installs := ring.installs + 1 }

def next (ring : KeyRing) : KeyMaterial := ring.source ring.drawn

def draw (ring : KeyRing) : KeyRing := { ring with drawn := ring.drawn + 1 }

def fingerprint (ring : KeyRing) : Option String := ring.held.map (·.fingerprint)

def debug (ring : KeyRing) : String :=
  let fingerprint := match ring.fingerprint with
    | some f => s!"Some({Quoted.quote f})"
    | none => "None"
  "MasterKeyEncryptor \x7b fingerprint: " ++ fingerprint ++ s!", installs: {ring.installs} \x7d"

end KeyRing

end ModelFleet
