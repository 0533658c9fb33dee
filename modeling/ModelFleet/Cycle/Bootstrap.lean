import ModelFleet.Cycle.Job
import ModelFleet.Model.KeyRecord

/-!
# Agreeing on the master key

Every daemon uses the key that the store holds.  A daemon that finds none puts a fresh key to use
and offers it to the store; the store takes the first offer only, and a daemon whose offer comes too
late reads the stored key and uses that.  The jobs of one daemon take turns.
-/

namespace ModelFleet

/-- How a daemon came to its key. -/
inductive KeyStatus
  | alreadyInstalled
  | installed
  | created
  | adopted
  deriving DecidableEq, Inhabited

def KeyStatus.name : KeyStatus → String
  | alreadyInstalled => "already_installed"
  | installed => "installed"
  | created => "created"
  | adopted => "adopted"

/-- What a daemon that looks for its key waits for. -/
inductive Bootstrap
  | queueing
  | reading
  | creating (key : KeyMaterial) (record : KeyRecord)
  | rereading
  deriving DecidableEq

namespace Bootstrap

abbrev Result := Except SyncError KeyStatus

def keyOf (source : Json) : Except SyncError KeyMaterial :=
  match KeyRecord.ofDocument source with
  | .error e => .error (.masterKeyInvalid e.message)
  | .ok record => (KeyMaterial.decode record.masterKey).mapError .crypto

def finish (result : Result) : StateM Daemon (Next Bootstrap Result) := do
  Daemon.seekKey false
  return .over result

/-- Puts a stored key to use, unless it is in use. -/
def installStored (source : Json) (status : KeyStatus) : StateM Daemon Result := do
  match keyOf source with
  | .error e => return .error e
  | .ok key =>
    if (← get).ring.fingerprint = some key.fingerprint then return .ok .alreadyInstalled
    match ← Daemon.install key with
    | .error e => return .error (.crypto e)
    | .ok () =>
      if status = .adopted then Daemon.emit none (.masterKeyAdopted key.fingerprint)
      return .ok status

/-- Puts a fresh key to use and goes on to offer it. -/
def offer : StateM Daemon (Next Bootstrap Result) := do
  let key ← Daemon.drawKey
  let record : KeyRecord := ⟨key.encode, ← Daemon.now⟩
  match ← Daemon.install key with
  | .error e => finish (.error (.crypto e))
  | .ok () => return .wait (.creating key record)

def request (collection keyId : String) : Bootstrap → Request
  | queueing => .turn
  | reading | rereading => .fetch collection keyId
  | creating _ record => .create collection keyId record.toDocument

def resume (collection keyId : String) :
    (b : Bootstrap) → (b.request collection keyId).Reply → StateM Daemon (Next Bootstrap Result)
  | queueing, _ => do
    Daemon.seekKey true
    return .wait .reading
  | reading, reply =>
    match reply with
    | .error e => finish (.error (.storage e))
    | .ok none => offer
    | .ok (some source) => do finish (← installStored source .installed)
  | creating key _, reply =>
    match reply with
    | .ok () => do
      Daemon.emit none (.masterKeyCreated key.fingerprint)
      finish (.ok .created)
    | .error (.conflict _) => return .wait .rereading
    | .error e => finish (.error (.storage e))
  | rereading, reply =>
    match reply with
    | .error e => finish (.error (.storage e))
    | .ok none =>
      finish (.error (.masterKeyInvalid "create conflicted but no master key is stored"))
    | .ok (some source) => do finish (← installStored source .adopted)

/-- The job of agreeing on the key that is stored under an identifier. -/
def job (collection keyId : String) : Job Bootstrap Result :=
  ⟨request collection keyId, resume collection keyId⟩

end Bootstrap

end ModelFleet
