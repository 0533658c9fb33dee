import ModelFleet.Key.Base64
import ModelFleet.Key.Blake3
import ModelFleet.Text.Blank
import ModelFleet.Text.Hex
import ModelFleet.Text.Quoted

/-!
# Keys

A key is thirty-two bytes.  It is stored in base64 and shown only by its fingerprint.
-/

namespace ModelFleet

/-- Why a text or a ring does not give a key. -/
inductive KeyError
  | badEncoding (detail : String)
  | badLength (expected actual : Nat)
  | poisoned
  deriving DecidableEq

def KeyError.message : KeyError → String
  | badEncoding detail => s!"invalid key encoding: {detail}"
  | badLength expected actual => s!"invalid key length: expected {expected} bytes, got {actual}"
  | poisoned => "encryptor state poisoned"

def KeyMaterial.size : Nat := 32

structure KeyMaterial where
  bytes : List UInt8
  length_bytes : bytes.length = KeyMaterial.size
  deriving DecidableEq

namespace KeyMaterial

/-- The key of these bytes, if there are as many as a key has. -/
def ofBytes (bytes : List UInt8) : Except KeyError KeyMaterial :=
  if h : bytes.length = size then .ok ⟨bytes, h⟩ else .error (.badLength size bytes.length)

def uniform (b : UInt8) : KeyMaterial := ⟨List.replicate size b, by simp⟩

instance : Inhabited KeyMaterial := ⟨uniform 0⟩

def encode (key : KeyMaterial) : String := Base64.encode key.bytes

/-- Reads the stored form, around which blanks may stand. -/
def decode (s : String) : Except KeyError KeyMaterial :=
  match Base64.decode (trimBlanks s.toList) with
  | .ok bytes => ofBytes bytes
  | .error e => .error (.badEncoding e.message)

def fingerprint (key : KeyMaterial) : String := Hex.ofBytes ((Blake3.digest key.bytes).take 8)

def debug (key : KeyMaterial) : String := s!"KeyMaterial({Quoted.quote key.fingerprint})"

end KeyMaterial

end ModelFleet
