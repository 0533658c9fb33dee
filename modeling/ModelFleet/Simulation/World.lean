import ModelFleet.Cycle.Run
import ModelFleet.Simulation.Lock
import ModelFleet.Simulation.Network
import ModelFleet.Simulation.Store

/-!
# The world of a simulation

The store and the network with a clock of their own, and the turn of the party that works now.  A
request of a job is answered at once, or is pending: until an alarm has rung, or until the party
holds the lock that it needs and has credit for what it does with it.
-/

namespace ModelFleet.Simulation

/-- What is locked while somebody uses it: the search for the master key, the documents, and the
report of the last cycle. -/
inductive Resource
  | key
  | documents
  | reports
  deriving DecidableEq

/-- What jobs talk to, the time, and who works. -/
structure World where
  store : FaultyStore
  network : Network
  clock : Clock
  shift : Shift
  locks : Resource → Lock
  /-- Those who have been given a lock and do not know it yet. -/
  called : List Party

/-- A request that is not answered yet. -/
inductive Pending : Request → Type
  /-- What is missing is a lock, or credit. -/
  | asking {q : Request} : Pending q
  | delayed {collection : String} {query : Query} {page : PageRequest} (alarm : Alarm) :
      Pending (.search collection query page)
  | calling {nodes : List NodeId} {message : SyncRequest} (calls : List Call) :
      Pending (.broadcast nodes message)

abbrev Served (q : Request) := q.Reply ⊕ Pending q

/-- What is done under a lock. -/
structure Effect (α : Type) where
  resource : Resource
  alone : Bool
  act : MemoryStore → MemoryStore × α

/-- What a request does under a lock and what it is answered then. -/
def effect : (q : Request) → Option (Effect q.Reply)
  | .turn => some ⟨.key, true, fun m => (m, ())⟩
  | .fetch collection id => some ⟨.documents, false, fun m => (m, .ok (m.get? collection id))⟩
  | .create collection id source => some ⟨.documents, true, (·.create collection id source)⟩
  | .probe collection => some ⟨.documents, false, fun m => (m, .ok (m.hasCollection collection))⟩
  | .search collection query page =>
    some ⟨.documents, false, fun m => (m, m.search collection query page)⟩
  | .update collection items => some ⟨.documents, true, (·.bulkUpdate collection items)⟩
  | .file => some ⟨.reports, true, fun m => (m, ())⟩
  | .members | .broadcast .. => none

namespace World

def begin (store : FaultyStore) (network : Network) : World :=
  ⟨store, network, .zero, .fresh (.branch 0), fun _ => .fresh, []⟩

def now (w : World) : Nat := w.clock.now

def onStore {α : Type} (act : FaultyStore → FaultyStore × α) : StateM World α :=
  modifyGet fun w => let (store, a) := act w.store; (a, { w with store })

def onNetwork {α : Type} (act : Network → Network × α) : StateM World α :=
  modifyGet fun w => let (network, a) := act w.network; (a, { w with network })

/-- Spends one unit of credit, if there is any. -/
def spend : StateM World Bool :=
  modifyGet fun w => let (shift, paid) := w.shift.spend; (paid, { w with shift })

/-! ### Locks -/

def changeLock (resource : Resource) (f : Lock → Lock) : StateM World Unit :=
  modify fun w =>
    { w with locks := fun r => if r = resource then f (w.locks r) else w.locks r }

/-- Asks for a lock; `free` says whether nobody has gone on with it. -/
def ask (resource : Resource) (free alone : Bool) : StateM World Unit := do
  let party := (← get).shift.party
  changeLock resource (·.ask free ⟨party, alone⟩)

/-- Pays for what is done under a lock, if the party holds it. -/
def pay (resource : Resource) : StateM World Bool := do
  let w ← get
  if (w.locks resource).isHeldBy w.shift.party then spend else return false

def give (resource : Resource) : StateM World Unit :=
  modify fun w =>
    let (lock, parties) := (w.locks resource).give
    { w with
      locks := fun r => if r = resource then lock else w.locks r
      called := w.called ++ parties }

/-- Goes on with a lock that is held until somebody says otherwise. -/
def leave (resource : Resource) : StateM World Unit := do
  let party := (← get).shift.party
  changeLock resource (·.leave party)

def release (resource : Resource) : StateM World Unit := do
  leave resource
  give resource

/-! ### Alarms -/

/-- Sets an alarm, unless it is set. -/
def setAlarm (alarm : Alarm) : StateM World Alarm :=
  modifyGet fun w => let (clock, alarm) := w.clock.set alarm; (alarm, { w with clock })

/-- Listens for an alarm: nothing is left of it if it has rung.  Listening takes credit, which is
spent when the alarm is heard. -/
def hear (alarm : Alarm) : StateM World (Option Alarm) := do
  if (← get).shift.credit = 0 then
    discard spend
    return some alarm
  else
    let alarm ← setAlarm alarm
    if (← get).clock.hasRung alarm then
      discard spend
      return none
    else return some alarm

/-- Listens for an alarm, if there is one. -/
def hearIfAny : Option Alarm → StateM World (Option Alarm)
  | none => return none
  | some alarm => hear alarm

/-! ### Calls -/

/-- What has become of a call.  One that has waited long enough is answered even after its
deadline. -/
def pollCall (message : SyncRequest) (call : Call) : StateM World Call :=
  match call.stage with
  | .answered _ => return call
  | .waiting delay prepared => do
    match ← hearIfAny delay with
    | none => onNetwork (·.answer message call prepared)
    | some delay =>
      let call := { call with stage := .waiting (some delay) prepared }
      match ← hear call.deadline with
      | some deadline => return { call with deadline }
      | none => return (← get).network.expire call

def place (message : SyncRequest) (node : NodeId) : StateM World Call := do
  let clock := (← get).clock
  pollCall message (← onNetwork (·.place clock message node))

def answered {nodes : List NodeId} {message : SyncRequest} (calls : List Call) :
    Served (.broadcast nodes message) :=
  match calls.mapM Call.answer? with
  | some answers => .inl answers
  | none => .inr (.calling calls)

/-! ### Requests -/

/-- Carries out a request for which a lock was asked. -/
def goOn (q : Request) : StateM World (Served q) := do
  match effect q with
  | none => return .inr .asking
  | some e =>
    if !(← pay e.resource) then return .inr .asking
    let reply ← onStore (·.within e.act)
    if e.resource = .key then leave e.resource else release e.resource
    return .inl reply

/-- Asks for the lock that a request needs and carries it out. -/
def carryOut (free : Bool) (q : Request) : StateM World (Served q) := do
  match effect q with
  | none => return .inr .asking
  | some e =>
    ask e.resource free e.alone
    goOn q

/-- Carries out a request, unless it has been answered before it reached the documents. -/
def unlessAnswered {q : Request} (early : Option q.Reply) : StateM World (Served q) :=
  match early with
  | some reply => return .inl reply
  | none => carryOut true q

def searchNow (collection : String) (query : Query) (page : PageRequest) :
    StateM World (Served (.search collection query page)) := do
  unlessAnswered (← onStore (·.enterSearch page))

def poll : {q : Request} → Pending q → StateM World (Served q)
  | q, .asking => goOn q
  | .search collection query page, .delayed alarm => do
    match ← hear alarm with
    | some alarm => return .inr (.delayed alarm)
    | none => searchNow collection query page
  | .broadcast _ message, .calling calls => return answered (← calls.mapM (pollCall message))

/-- Begins to serve a request; `free` says whether nobody looks for the master key. -/
def serve (free : Bool) : (q : Request) → StateM World (Served q)
  | .turn => carryOut free .turn
  | .fetch .. => do unlessAnswered (← onStore (·.enterGet))
  | .create .. => do unlessAnswered (← onStore (·.enter .create))
  | .probe _ => do unlessAnswered (← onStore (·.enter .exist))
  | .search collection query page => do
    let w ← get
    if w.store.searchDelay = 0 then searchNow collection query page
    else poll (.delayed (w.clock.after w.store.searchDelay))
  | .update _ items => do unlessAnswered (← onStore (·.enterUpdate items))
  | .members => return .inl (← get).network.cluster.members
  | .broadcast nodes message => return answered (← nodes.mapM (place message))
  | .file => carryOut true .file

def size (w : World) : Nat :=
  w.store.inner.collections.entries.foldl (fun n e => n + e.2.size) 0

/-- More requests than any one job makes: every prepared page may begin a new reading of all
documents. -/
def patience (w : World) : Nat := (w.store.searchReplies.length + 1) * (w.size + 2) + 16

end World

def Pending.alarms {q : Request} : Pending q → List Alarm
  | .asking => []
  | .delayed alarm => [alarm]
  | .calling calls => calls.flatMap Call.alarms

end ModelFleet.Simulation
