import ModelFleet.Store.Memory

/-!
# A store with faults

A store in memory whose operations can be made to fail, to answer something prepared, or to miss
what is there.  It counts the calls and keeps the requests that it received.  A call that fails
stores nothing.
-/

namespace ModelFleet.Simulation

inductive Operation
  | get
  | put
  | create
  | exist
  | search
  | bulk
  deriving DecidableEq

def Operation.name : Operation → String
  | get => "get"
  | put => "put"
  | create => "create"
  | exist => "exists"
  | search => "search"
  | bulk => "bulk"

def Operation.all : List Operation := [get, put, create, exist, search, bulk]

/-- A fault: some calls are let through, then a number of calls, or all of them, fail. -/
structure Fault where
  error : StoreError
  after : Nat
  times : Option Nat

/-- Whether a call fails, and what is left of the fault. -/
def Fault.hit (fault : Fault) : Bool × Fault :=
  match fault.after, fault.times with
  | n + 1, _ => (false, { fault with after := n })
  | 0, none => (true, fault)
  | 0, some 0 => (false, fault)
  | 0, some (n + 1) => (true, { fault with times := some n })

/-- A store in memory behind what makes it fail. -/
structure FaultyStore where
  inner : MemoryStore
  faults : SortedMap String Fault
  calls : SortedMap String Nat
  /-- How many reads will find nothing. -/
  staleReads : Nat
  /-- How many milliseconds a search waits. -/
  searchDelay : Nat
  searchReplies : List SearchPage
  bulkReplies : List BulkResponse
  /-- The bulk requests, the oldest first. -/
  bulkRequests : List (List BulkItem)
  /-- The pages that were searched, the oldest first. -/
  pages : List PageRequest

namespace FaultyStore

def fresh : FaultyStore := ⟨∅, ∅, ∅, 0, 0, [], [], [], []⟩

instance : Inhabited FaultyStore := ⟨fresh⟩

/-- Counts a call, which fails if the fault of its operation is hit. -/
def call (store : FaultyStore) (op : Operation) : FaultyStore × Except StoreError Unit :=
  let count := (store.calls.get? op.name).getD 0 + 1
  let store := { store with calls := store.calls.insert op.name count }
  match store.faults.get? op.name with
  | none => (store, .ok ())
  | some fault =>
    let (fails, left) := fault.hit
    ({ store with faults := store.faults.insert op.name left },
      if fails then .error fault.error else .ok ())

/-- What a call finds before it reaches the documents: its fault, or what `act` has for it. -/
def guarded {α : Type} (store : FaultyStore) (op : Operation)
    (act : FaultyStore → FaultyStore × Option (Except StoreError α)) :
    FaultyStore × Option (Except StoreError α) :=
  match store.call op with
  | (store, .ok ()) => act store
  | (store, .error e) => (store, some (.error e))

/-- A call for which nothing is prepared. -/
def enter {α : Type} (store : FaultyStore) (op : Operation) :
    FaultyStore × Option (Except StoreError α) :=
  store.guarded op fun store => (store, none)

/-- What a read finds before it reaches the documents: nothing, if it is to miss them. -/
def enterGet (store : FaultyStore) : FaultyStore × Option (Except StoreError (Option Json)) :=
  store.guarded .get fun store =>
    if 0 < store.staleReads then
      ({ store with staleReads := store.staleReads - 1 }, some (.ok none))
    else (store, none)

/-- What a search finds before it reaches the documents. -/
def enterSearch (store : FaultyStore) (page : PageRequest) :
    FaultyStore × Option (Except StoreError SearchPage) :=
  store.guarded .search fun store =>
    let store := { store with pages := store.pages ++ [page] }
    match store.searchReplies with
    | reply :: rest => ({ store with searchReplies := rest }, some (.ok reply))
    | [] => (store, none)

/-- What an update finds before it reaches the documents. -/
def enterUpdate (store : FaultyStore) (items : List BulkItem) :
    FaultyStore × Option (Except StoreError BulkResponse) :=
  let store := { store with bulkRequests := store.bulkRequests ++ [items] }
  store.guarded .bulk fun store =>
    match store.bulkReplies with
    | reply :: rest => ({ store with bulkReplies := rest }, some (.ok reply))
    | [] => (store, none)

def setFault (store : FaultyStore) (op : Operation) (fault : Fault) : FaultyStore :=
  { store with faults := store.faults.insert op.name fault }

def heal (store : FaultyStore) (op : Operation) : FaultyStore :=
  { store with faults := store.faults.erase op.name }

def within {α : Type} (store : FaultyStore) (act : MemoryStore → MemoryStore × α) :
    FaultyStore × α :=
  let (inner, result) := act store.inner
  ({ store with inner }, result)

end FaultyStore

end ModelFleet.Simulation
