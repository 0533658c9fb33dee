import ModelFleet.Api.Routes
import ModelFleet.Simulation.Engine

/-!
# Sessions

A session is a daemon in a world of its own, whose operator sets up the store and the cluster, runs
cycles and their stages, starts and stops the scheduler, moves the clock, and looks at everything.
Requests of the operator to the store pass its faults where they are reads and writes of single
documents.  The operator works in the foreground and pays for what it does as everybody else: it
lets the others go first when its credit is used up.
-/

namespace ModelFleet.Simulation

/-- A response of the daemon that streams events, with the moment at which a sign of life is due. -/
structure Stream where
  subscription : Subscription
  due : Nat

inductive Frame
  | data (e : Envelope)
  | lagged
  | ping

/-- The text of a frame that carries no event. -/
def Frame.text? : Frame → Option String
  | data _ => none
  | lagged => some ": lagged\n\n"
  | ping => some ": ping\n\n"

/-- A daemon, its world, and what its operator holds. -/
structure Session (settings : SyncSettings) where
  engine : Engine settings
  /-- The subscription of the operator. -/
  watch : Subscription
  streams : SortedMap String Stream
  /-- The state that the last gathering gave. -/
  gathered : Aggregate
  /-- Whether the operator is inside the gate. -/
  inside : Bool

namespace Session

variable {settings : SyncSettings}

/-- A session that begins at an instant, with these nodes, room for a history and a channel, and a
source of fresh keys. -/
def begin (settings : SyncSettings) (clock : Instant) (nodes : List NodeId) (room window : Nat)
    (keys : Nat → KeyMaterial) : Session settings :=
  let feed := Feed.empty room window
  let network : Network := ⟨.ofNodes nodes, [], settings.gatherTimeoutMillis⟩
  let scene : Scene := ⟨.begin .fresh network, .fresh clock (.empty keys) feed⟩
  ⟨.begin settings scene, feed.subscribe, ∅, ∅, false⟩

/-! ### Parts -/

def onEngine {α : Type} (act : StateM (Engine settings) α) : StateM (Session settings) α :=
  modifyGet fun s => let (a, engine) := act s.engine; (a, { s with engine })

def onDaemon {α : Type} (act : StateM Daemon α) : StateM (Session settings) α :=
  onEngine (Engine.onScene (Scene.onDaemon act))

def onWorld {α : Type} (act : StateM World α) : StateM (Session settings) α :=
  onEngine (Engine.onScene (Scene.onWorld act))

def onStore {α : Type} (act : FaultyStore → FaultyStore × α) : StateM (Session settings) α :=
  onWorld (World.onStore act)

/-- Pays for one thing that the operator does. -/
def spend : StateM (Session settings) Unit := onEngine Engine.spend

/-- Reads from the documents, past the faults. -/
def look {α : Type} (f : MemoryStore → α) : StateM (Session settings) α :=
  onEngine (Engine.under .documents false do return f (← get).store.inner)

/-- Changes the documents, past the faults. -/
def change {α : Type} (act : MemoryStore → MemoryStore × α) : StateM (Session settings) α :=
  onEngine (Engine.under .documents true (World.onStore (·.within act)))

/-- Goes on, unless the store answers before. -/
def unlessAnswered {α : Type} (enter : FaultyStore → FaultyStore × Option α)
    (act : StateM (Session settings) α) : StateM (Session settings) α := do
  match ← onStore enter with
  | some answer => return answer
  | none => act

def changeNetwork (f : Network → Network) : StateM (Session settings) Unit :=
  onWorld (modify fun w => { w with network := f w.network })

def changeCluster (f : LocalCluster → LocalCluster) : StateM (Session settings) Unit :=
  changeNetwork fun n => { n with cluster := f n.cluster }

def onScheduler {α : Type} (act : StateM Scheduler α) : StateM (Session settings) α :=
  onEngine (modifyGet fun e => let (a, scheduler) := act e.scheduler; (a, { e with scheduler }))

def daemon (s : Session settings) : Daemon := s.engine.scene.daemon

def world (s : Session settings) : World := s.engine.scene.world

def cluster (s : Session settings) : LocalCluster := s.world.network.cluster

def wakeScheduler : StateM (Session settings) Unit := do
  if (← get).engine.scheduler.nextTick?.isSome then onEngine (Engine.wake .scheduler)

/-! ### Documents -/

def createCollection (collection : String) : StateM (Session settings) Unit :=
  change fun m => (m.createCollection collection, ())

def put (collection id : String) (source : Json) :
    StateM (Session settings) (Except StoreError Unit) :=
  unlessAnswered (·.enter .put) (change fun m => (m.put collection id source, .ok ()))

def create (collection id : String) (source : Json) :
    StateM (Session settings) (Except StoreError Unit) :=
  unlessAnswered (·.enter .create) (change (·.create collection id source))

def read (collection id : String) : StateM (Session settings) (Except StoreError (Option Json)) :=
  unlessAnswered (·.enterGet) (look fun m => .ok (m.get? collection id))

/-- Looks a document up, past the faults. -/
def lookUp (collection id : String) : StateM (Session settings) (Option Json) :=
  look (·.get? collection id)

def hasCollection (collection : String) : StateM (Session settings) Bool :=
  look (·.hasCollection collection)

def size (collection : String) : StateM (Session settings) Nat := look (·.size collection)

/-- Searches a collection, past the faults. -/
def search (collection : String) (query : Query) (page : PageRequest) :
    StateM (Session settings) (Except StoreError SearchPage) :=
  look (·.search collection query page)

/-- Updates documents, past the faults. -/
def bulkUpdate (collection : String) (items : List BulkItem) :
    StateM (Session settings) (Except StoreError BulkResponse) :=
  change (·.bulkUpdate collection items)

/-! ### Stages -/

/-- The cycle to which stages belong that the operator runs one by one. -/
def operatorCycle : CycleId := .ofNat 0

def run : StateM (Session settings) (Option CycleReport) :=
  onEngine (Engine.perform (Cycle.job settings) Cycle.start)

def runOverlapping (n : Nat) : StateM (Session settings) (List (Option CycleReport)) :=
  onEngine (Engine.performAll (Cycle.job settings) (List.replicate n Cycle.start))

/-- Agrees on the key that is stored under an identifier. -/
def ensure (collection keyId : String) : StateM (Session settings) (Option Bootstrap.Result) :=
  onEngine (Engine.perform (Bootstrap.job collection keyId) (pure (.wait .queueing)))

/-- Reads at most so many records; gives the pages that were searched too. -/
def scan (collection : String) (pageSize : Nat) (limit : Option Nat) :
    StateM (Session settings) (Option (List Scan.Item) × List PageRequest) := do
  onStore fun store => ({ store with pages := [] }, ())
  let items ← onEngine
    (Engine.perform (Scan.job collection pageSize limit) (pure (Scan.start limit)))
  return (items, (← get).world.store.pages)

/-- Gathers the reports of the nodes and keeps the state that they give. -/
def gather : StateM (Session settings) (Option (Except SyncError Aggregate)) := do
  let result ← onEngine (Engine.perform (Gather.job operatorCycle) (pure (.wait .listing)))
  match result with
  | some (.ok gathered) => modify fun s => { s with gathered }
  | _ => pure ()
  return result

/-- Pushes the routing of the kept state, which then forgets what the nodes dropped. -/
def syncRouting : StateM (Session settings) (Option RoutingOutcome) := do
  let state := (← get).gathered
  let result ← onEngine (Engine.perform (Routing.job operatorCycle) (pure (.wait ⟨state⟩)))
  match result with
  | some outcome => modify fun s => { s with gathered := s.gathered.afterRouting outcome }
  | none => pure ()
  return result

def write (collection : String) (corrections : List Correction) :
    StateM (Session settings) (Option BulkOutcome) :=
  onEngine (Engine.perform (Write.job collection operatorCycle) (Write.start corrections))

/-- Looks whether a collection is there, as a cycle does. -/
def probe (collection : String) : StateM (Session settings) (Except SyncError Bool) := do
  let found ← unlessAnswered (·.enter .exist) (look fun m => .ok (m.hasCollection collection))
  return found.mapError .storage

def lastReport : StateM (Session settings) (Option CycleReport) := do
  onEngine (Engine.under .reports false (pure ()))
  return (← get).daemon.lastReport

/-! ### Keys and gate -/

def installKey (key : KeyMaterial) : StateM (Session settings) (Except KeyError String) := do
  return (← onDaemon (Daemon.install key)).map fun _ => key.fingerprint

/-- Makes the key ring refuse keys, or no longer. -/
def refuseKeys (refuses : Bool) : StateM (Session settings) Unit :=
  onDaemon (modify fun d => { d with ring := { d.ring with refuses } })

/-- Goes through the gate, if it is open. -/
def holdGate : StateM (Session settings) Bool := do
  let entered ← onDaemon Daemon.enterGate
  if entered then modify fun s => { s with inside := true }
  return entered

/-- Comes back through the gate, if the operator is inside. -/
def releaseGate : StateM (Session settings) Bool := do
  let inside := (← get).inside
  if inside then
    onDaemon Daemon.leaveGate
    modify fun s => { s with inside := false }
  return inside

/-! ### Scheduler and clock -/

def isRunning : StateM (Session settings) Bool := do
  spend
  return (← get).engine.scheduler.running

/-- Starts the scheduler, unless it was started before. -/
def startScheduler : StateM (Session settings) (Option Bool) := do
  match (← get).engine.scheduler.start with
  | none => return none
  | some scheduler =>
    onScheduler (set scheduler)
    onEngine (Engine.wake .scheduler)
    onEngine Engine.settle
    return some (← isRunning)

def stopScheduler : StateM (Session settings) Bool := do
  spend
  onScheduler (modify Scheduler.stop)
  onEngine Engine.settle
  isRunning

/-- Triggers a cycle; says whether the trigger was accepted. -/
def trigger : StateM (Session settings) Bool := do
  let accepted := (← get).engine.scheduler.accepts
  onScheduler (modify Scheduler.trigger)
  if accepted then wakeScheduler
  onEngine Engine.settle
  return accepted

/-- Moves the clock forward at once; says whether the scheduler is running and has ended. -/
def advance (millis : Nat) : StateM (Session settings) (Bool × Bool) := do
  onEngine (Engine.advance millis)
  return (← isRunning, (← get).engine.scheduler.finished)

/-- Sends a request to a node of the cluster and waits for the answer, however long that takes. -/
def call (node : NodeId) (request : SyncRequest) :
    StateM (Session settings) (Except ClusterError SyncResponse) := do
  changeCluster (·.count)
  match (← get).cluster.wait node with
  | .error e => return .error e
  | .ok delay =>
    match delay with
    | none => pure ()
    | some millis =>
      let alarm := (← get).engine.clock.after millis
      onEngine (Engine.await alarm (millis + 2))
    let (cluster, result) := (← get).cluster.serve node request
    changeCluster fun _ => cluster
    return result

/-! ### Watching -/

def events : StateM (Session settings) (List Received) := do
  let s ← get
  let (received, watch) := s.daemon.feed.receiveAll s.watch
  set { s with watch }
  return received

def respond (cors : Bool) (method target : String) (uptimeMillis : Int) :
    StateM (Session settings) Api.Response := do
  (Api.lookUps method target).forM fun what =>
    match what with
    | .running => discard isRunning
    | .report => discard lastReport
  let view : Api.View := ⟨(← get).daemon, uptimeMillis⟩
  let before := (← get).engine.scheduler.triggered
  let response ← onScheduler (Api.respond view cors method target)
  if !before && (← get).engine.scheduler.triggered then wakeScheduler
  return response

/-- How many milliseconds a stream may be silent. -/
def silence : Nat := 15000

def openStream (slot : String) : StateM (Session settings) Unit :=
  modify fun s =>
    let stream : Stream := ⟨s.daemon.feed.subscribe, s.engine.clock.now + silence⟩
    { s with streams := s.streams.insert slot stream }

def frameOf : Received → Option Frame
  | .envelope e => some (.data e)
  | .lagged _ => some .lagged
  | .nothing => none

/-- The next frame of a stream, if it has one ready: an event, or a sign of life if it has been
silent. -/
def nextFrame (clock : Clock) (feed : Feed) (stream : Stream) : Option (Frame × Stream) :=
  let (received, subscription) := feed.receive stream.subscription
  match frameOf received with
  | some frame => some (frame, ⟨subscription, clock.now + silence⟩)
  | none =>
    if stream.due ≤ clock.rung then some (.ping, ⟨subscription, clock.now + silence⟩) else none

/-- The frames that a stream has ready, at most `fuel` of them and as many as the operator has
credit for. -/
def readFrames (stream : Stream) : Nat → StateM (Session settings) (List Frame × Stream)
  | 0 => return ([], stream)
  | fuel + 1 => do
    let s ← get
    match nextFrame s.engine.clock s.daemon.feed stream with
    | none => return ([], stream)
    | some (frame, later) =>
      if !(← onWorld World.spend) then return ([], stream)
      let (frames, stream) ← readFrames later fuel
      return (frame :: frames, stream)

def readStream (slot : String) : StateM (Session settings) (Option (List Frame)) := do
  let s ← get
  match s.streams.get? slot with
  | none => return none
  | some stream =>
    let (frames, stream) ← readFrames stream (s.daemon.feed.channel.length + 3)
    modify fun s => { s with streams := s.streams.insert slot stream }
    return some frames

end Session

end ModelFleet.Simulation
