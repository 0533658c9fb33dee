import ModelFleet.Cycle.Daemon

/-!
# Jobs

A job is what a daemon does in several steps, each of which ends with a request to the store or to
the cluster.  Between a request and its reply other jobs may run; a step itself is indivisible and
acts only on what the jobs of the daemon share.  So the state of a job says what it waits for, and
everything that may happen is a sequence of replies.
-/

namespace ModelFleet

/-- The answer of a node, or why there is none. -/
abbrev Answer := NodeId × Except ClusterError SyncResponse

/-- What a job asks for.  Its turn to look for the master key comes when no other job does; a report
is filed for those who ask for the last one. -/
inductive Request
  | turn
  | fetch (collection id : String)
  | create (collection id : String) (source : Json)
  | probe (collection : String)
  | search (collection : String) (query : Query) (page : PageRequest)
  | update (collection : String) (items : List BulkItem)
  | members
  | broadcast (nodes : List NodeId) (message : SyncRequest)
  | file
  deriving DecidableEq

/-- What a job gets for a request. -/
@[reducible] def Request.Reply : Request → Type
  | turn => Unit
  | fetch .. => Except StoreError (Option Json)
  | create .. => Except StoreError Unit
  | probe _ => Except StoreError Bool
  | search .. => Except StoreError SearchPage
  | update .. => Except StoreError BulkResponse
  | members => Except ClusterError (List NodeId)
  | broadcast .. => List Answer
  | file => Unit

/-- After a step a job waits in a new state, or is over. -/
inductive Next (σ α : Type)
  | wait (state : σ)
  | over (result : α)

/-- What a job waits for in each state, and what it does with the reply. -/
structure Job (σ α : Type) where
  request : σ → Request
  resume : (state : σ) → (request state).Reply → StateM Daemon (Next σ α)

namespace Next

variable {σ τ α β : Type}

/-- A step of a job that is part of another one. -/
def andThen (next : Next σ α) (waiting : σ → τ) (goOn : α → StateM Daemon (Next τ β)) :
    StateM Daemon (Next τ β) :=
  match next with
  | .wait state => pure (.wait (waiting state))
  | .over result => goOn result

end Next

end ModelFleet
