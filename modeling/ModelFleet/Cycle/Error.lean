import ModelFleet.Cluster.Error
import ModelFleet.Key.Material
import ModelFleet.Store.Basic

/-!
# Errors of a cycle
-/

namespace ModelFleet

/-- Why a stage of a cycle failed. -/
inductive SyncError
  | storage (error : StoreError)
  | cluster (error : ClusterError)
  | crypto (error : KeyError)
  | masterKeyInvalid (detail : String)
  deriving DecidableEq

def SyncError.message : SyncError → String
  | storage error => s!"Storage error: {error.message}"
  | cluster error => s!"Cluster error: {error.message}"
  | crypto error => s!"Crypto error: {error.message}"
  | masterKeyInvalid detail => s!"Master key record invalid: {detail}"

/-- The stage at which a cycle was given up, and why. -/
inductive AbortCause
  | bootstrap (error : SyncError)
  | collection (error : SyncError)
  | gather (error : SyncError)
  | scan (error : SyncError)
  deriving DecidableEq

def AbortCause.message : AbortCause → String
  | bootstrap error => s!"master key bootstrap failed: {error.message}"
  | collection error => s!"model collection check failed: {error.message}"
  | gather error => s!"gather failed: {error.message}"
  | scan error => s!"model state scan failed: {error.message}"

end ModelFleet
