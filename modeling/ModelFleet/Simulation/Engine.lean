import ModelFleet.Scheduler
import ModelFleet.Simulation.World

/-!
# Taking turns on a virtual clock

The operator is in the foreground: it works until it must wait, and then the others take turns, each
when it is woken, in the order of waking.  Now and then the clock is looked at: the alarms that are
due wake those who wait for them, and those who have run out of credit are woken too, the last one
first.  Only when nobody has anything to do does the clock move, and then to the next alarm.

Jobs in the foreground share the credit of one turn.  If there are few of them all are looked at in
order in every turn; if there are many each is looked at only when it was woken.
-/

namespace ModelFleet.Simulation

structure Scene where
  world : World
  daemon : Daemon

namespace Scene

def onWorld {α : Type} (act : StateM World α) : StateM Scene α :=
  modifyGet fun s => let (a, world) := act s.world; (a, { s with world })

def onDaemon {α : Type} (act : StateM Daemon α) : StateM Scene α :=
  modifyGet fun s => let (a, daemon) := act s.daemon; (a, { s with daemon })

/-- Lets those in the line for the master key have it, if nobody looks for it, and says who has been
given a lock since the last time. -/
def callNext : StateM Scene (List Party) := do
  if !(← get).daemon.keySought then onWorld (World.give .key)
  onWorld (modifyGet fun w => (w.called, { w with called := [] }))

end Scene

/-! ### Jobs under way -/

/-- A job under way. -/
inductive Run {σ α : Type} (job : Job σ α)
  | fresh (start : StateM Daemon (Next σ α))
  | waiting (state : σ) (pending : Pending (job.request state))
  | ended (result : α)
  /-- The job has made more requests than it was allowed. -/
  | exhausted

namespace Run

variable {σ α : Type} {job : Job σ α}

/-- Serves requests as long as they are answered at once, at most `fuel` of them. -/
def proceed (job : Job σ α) : Nat → Next σ α → StateM Scene (Run job)
  | _, .over result => return .ended result
  | 0, .wait _ => return .exhausted
  | fuel + 1, .wait state => do
    let free := !(← get).daemon.keySought
    match ← Scene.onWorld (World.serve free (job.request state)) with
    | .inr pending => return .waiting state pending
    | .inl reply =>
      let next ← Scene.onDaemon (job.resume state reply)
      proceed job fuel next

def poll (run : Run job) : StateM Scene (Run job) := do
  let patience := (← get).world.patience
  match run with
  | .fresh start => do
    let next ← Scene.onDaemon start
    proceed job patience next
  | .waiting state pending =>
    match ← Scene.onWorld (World.poll pending) with
    | .inr pending => return .waiting state pending
    | .inl reply => do
      let next ← Scene.onDaemon (job.resume state reply)
      proceed job patience next
  | run => return run

def alarms : Run job → List Alarm
  | .waiting _ pending => pending.alarms
  | _ => []

def isOver : Run job → Bool
  | .ended _ | .exhausted => true
  | _ => false

def result? : Run job → Option α
  | .ended result => some result
  | _ => none

end Run

/-! ### The daemon as a whole -/

abbrev Wait := Party × Alarm

/-- A daemon with its scheduler, the cycles that this has started, and who is to take a turn. -/
structure Engine (settings : SyncSettings) where
  scene : Scene
  scheduler : Scheduler
  /-- The alarm for the next tick of the scheduler. -/
  ticker : Alarm
  /-- The cycles by their numbers. -/
  cycles : List (Nat × Run (Cycle.job settings))
  /-- How many cycles the scheduler has started. -/
  started : Nat
  /-- Those who have been woken, the first one first. -/
  ready : List Party
  /-- Those who have run out of credit, the last one first. -/
  deferred : List Party
  /-- Whether the foreground has been woken. -/
  awake : Bool
  /-- The jobs in the foreground that have been woken, the first one first. -/
  branches : List Nat

namespace Engine

variable {settings : SyncSettings}

/-- A daemon that nobody has asked for anything. -/
def begin (settings : SyncSettings) (scene : Scene) : Engine settings :=
  ⟨scene, .fresh settings.intervalMillis, ⟨0, none⟩, [], 0, [], [], false, []⟩

def onScene {α : Type} (act : StateM Scene α) : StateM (Engine settings) α :=
  modifyGet fun e => let (a, scene) := act e.scene; (a, { e with scene })

def onWorld {α : Type} (act : StateM World α) : StateM (Engine settings) α :=
  onScene (Scene.onWorld act)

def clock (e : Engine settings) : Clock := e.scene.world.clock

def changeClock (f : Clock → Clock) : StateM (Engine settings) Unit :=
  onWorld (modify fun w => { w with clock := f w.clock })

def changeShift (f : Shift → Shift) : StateM (Engine settings) Unit :=
  onWorld (modify fun w => { w with shift := f w.shift })

/-! ### Waking -/

/-- Adds a member to a list in which it is not yet. -/
def enlist {α : Type} [DecidableEq α] (l : List α) (a : α) : List α :=
  if a ∈ l then l else l ++ [a]

def wake (party : Party) : StateM (Engine settings) Unit :=
  modify fun e =>
    match party with
    | .branch place => { e with awake := true, branches := enlist e.branches place }
    | party => { e with ready := enlist e.ready party }

/-- Lets a party wait for the next look at the clock. -/
def defer (party : Party) : StateM (Engine settings) Unit :=
  modify fun e => { e with deferred := party :: e.deferred }

/-- What follows when a party has had its turn: without credit it waits for the next look at the
clock, and it may have left a lock to others. -/
def afterTurn : StateM (Engine settings) Unit := do
  let shift := (← get).scene.world.shift
  if shift.starved then defer shift.party
  (← onScene Scene.callNext).forM wake

/-- The alarms for which anybody but the foreground waits. -/
def waits (e : Engine settings) : List Wait :=
  (.scheduler, e.ticker) ::
    e.cycles.flatMap fun (number, run) => run.alarms.map fun alarm => (.cycle number, alarm)

def look (foreground : List Wait) : StateM (Engine settings) Unit := do
  let e ← get
  let due := (e.waits ++ foreground).filter fun wait => e.clock.rings wait.2
  changeClock Clock.look
  (due.mergeSort fun a b => a.2.notAfter b.2).forM fun wait => wake wait.1
  modify fun e => { e with deferred := [] }
  e.deferred.forM wake

def nextAlarm (e : Engine settings) (foreground : List Wait) : Option Nat :=
  ((e.waits ++ foreground).filter fun wait => wait.2.place.isSome && e.clock.rung < wait.2.due)
    |>.map (·.2.due) |>.min?

/-! ### Turns of the scheduler and of cycles -/

/-- Lets the scheduler have its turn; it starts cycles and then waits for its next tick. -/
def runScheduler : StateM (Engine settings) Unit := do
  let e ← get
  let (scheduler, starts) := e.scheduler.runAll e.clock.rung e.clock.now
  let numbers := (List.range starts).map (e.started + ·)
  set { e with
    scheduler
    started := e.started + starts
    cycles := e.cycles ++ numbers.map fun number => (number, Run.fresh Cycle.start) }
  numbers.forM fun number => wake (.cycle number)
  let ticker : Alarm ← match scheduler.nextTick? with
    | none => pure ⟨0, none⟩
    | some tick =>
      if tick = e.ticker.due then pure e.ticker
      else onWorld (World.setAlarm ⟨tick, none⟩)
  modify fun e => { e with ticker }

def runCycle (number : Nat) : StateM (Engine settings) Unit := do
  match (← get).cycles.lookup number with
  | none => return
  | some run =>
    let run ← onScene run.poll
    modify fun e =>
      let cycles := e.cycles.map fun c => if c.1 = number then (number, run) else c
      { e with cycles := cycles.filter (!·.2.isOver) }
    afterTurn

def runParty (party : Party) : StateM (Engine settings) Unit := do
  changeShift fun _ => .fresh party
  match party with
  | .branch _ => return
  | .scheduler => runScheduler
  | .cycle number => runCycle number

/-- Lets at most so many parties have their turns. -/
def work : Nat → StateM (Engine settings) Unit
  | 0 => return
  | n + 1 => do
    match (← get).ready with
    | [] => return
    | party :: rest =>
      modify fun e => { e with ready := rest }
      runParty party
      work n

/-- How many turns there are at most between two looks at the clock. -/
def turnsPerLook : Nat := 61

/-- Lets those who are ready have their turns and looks at the clock, which moves on if nobody has
anything to do; says whether anything can still happen. -/
def round (foreground : List Wait) : StateM (Engine settings) Bool := do
  work turnsPerLook
  let e ← get
  let idle := e.ready.isEmpty && e.deferred.isEmpty && !e.awake
  let next := e.nextAlarm foreground
  if idle then changeClock (·.moveTo (next.getD 0))
  look foreground
  return !idle || next.isSome

/-- Lets the others go on until the foreground is woken, for at most `fuel` rounds; says whether it
was. -/
def untilAwake (foreground : List Wait) : Nat → StateM (Engine settings) Bool
  | 0 => return false
  | fuel + 1 => do
    if !(← round foreground) then return false
    if (← get).awake then
      modify fun e => { e with awake := false }
      changeShift fun _ => .fresh (.branch 0)
      return true
    else untilAwake foreground fuel

/-- More rounds than anybody needs who waits for nothing but its next turn. -/
def turnsOfAll (e : Engine settings) : Nat :=
  (e.cycles.length + e.scene.world.patience + 4) * 4

def pause : StateM (Engine settings) Unit := do
  defer (.branch 0)
  discard (untilAwake [] (turnsOfAll (← get)))

/-- Spends one unit of credit, and lets the others go first if there is none. -/
def spend : StateM (Engine settings) Unit := do
  if !(← onWorld World.spend) then
    pause
    discard (onWorld World.spend)

/-- Waits until the foreground holds a lock and can pay for what it does with it, at most `fuel`
times. -/
def payFor (resource : Resource) : Nat → StateM (Engine settings) Unit
  | 0 => return
  | fuel + 1 => do
    if ← onWorld (World.pay resource) then return
    if (← get).scene.world.shift.starved then defer (.branch 0)
    if ← untilAwake [] (turnsOfAll (← get)) then payFor resource fuel

def under {α : Type} (resource : Resource) (alone : Bool) (act : StateM World α) :
    StateM (Engine settings) α := do
  changeShift (·.passTo (.branch 0))
  onWorld (World.ask resource true alone)
  payFor resource (turnsOfAll (← get))
  let a ← onWorld act
  onWorld (World.release resource)
  (← onScene Scene.callNext).forM wake
  return a

/-- Lets the others go first until they all wait, at most `fuel` times. -/
def settleWithin : Nat → StateM (Engine settings) Unit
  | 0 => return
  | fuel + 1 => do
    pause
    let e ← get
    if e.ready.isEmpty && e.deferred.isEmpty then return
    settleWithin fuel

/-- Lets the others go first until they all wait. -/
def settle : StateM (Engine settings) Unit := do settleWithin (turnsOfAll (← get))

/-- Moves the clock forward before anybody else can work. -/
def advance (millis : Nat) : StateM (Engine settings) Unit := do
  changeClock fun clock => clock.moveTo (clock.now + millis)
  pause
  settle

/-- Lets time pass until an alarm has rung that only the foreground has set, in at most `fuel`
turns. -/
def await (alarm : Alarm) : Nat → StateM (Engine settings) Unit
  | 0 => return
  | fuel + 1 => do
    changeShift (·.passTo (.branch 0))
    match ← onWorld (World.hear alarm) with
    | none => return
    | some alarm =>
      if (← get).scene.world.shift.starved then defer (.branch 0)
      if ← untilAwake [(.branch 0, alarm)] (alarm.due + turnsOfAll (← get)) then
        await alarm fuel

/-! ### Jobs in the foreground -/

variable {σ α : Type} {job : Job σ α}

def runBranch (runs : List (Run job)) (place : Nat) :
    StateM (Engine settings) (List (Run job)) := do
  match runs[place]? with
  | none => return runs
  | some run =>
    if run.isOver then return runs
    changeShift (·.passTo (.branch place))
    let run ← onScene run.poll
    afterTurn
    return runs.set place run

/-- Lets all jobs of the foreground go on in order. -/
def runInOrder (runs : List (Run job)) : StateM (Engine settings) (List (Run job)) :=
  (List.range runs.length).foldlM runBranch runs

/-- Lets those jobs of the foreground go on that have been woken.  When as many as are not over have
gone on without one of them ending, the others come first again; `left` counts down to that. -/
def runWoken (runs : List (Run job)) : Nat → Nat → StateM (Engine settings) (List (Run job))
  | 0, _ => return runs
  | fuel + 1, left => do
    match (← get).branches with
    | [] => return runs
    | place :: rest =>
      modify fun e => { e with branches := rest }
      if (runs[place]?.map Run.isOver).getD true then runWoken runs fuel left
      else
        let unfinished := runs.countP (!·.isOver)
        let runs ← runBranch runs place
        let after := runs.countP (!·.isOver)
        if after < unfinished then runWoken runs fuel after
        else if left ≤ 1 then
          modify fun e => { e with awake := true }
          return runs
        else runWoken runs fuel (left - 1)

/-- How many jobs are looked at in every turn. -/
def manyJobs : Nat := 30

def attend (runs : List (Run job)) : StateM (Engine settings) (List (Run job)) := do
  if runs.length ≤ manyJobs then runInOrder runs
  else
    let unfinished := runs.countP (!·.isOver)
    runWoken runs (runs.length * (runs.length + 1)) unfinished

/-- The alarms for which the jobs of the foreground wait. -/
def waitsOf (runs : List (Run job)) : List Wait :=
  runs.zipIdx.flatMap fun (run, place) => run.alarms.map fun alarm => (.branch place, alarm)

/-- Runs jobs in the foreground until they are over, in at most `fuel` turns of the foreground. -/
def performWithin (runs : List (Run job)) : Nat → StateM (Engine settings) (List (Run job))
  | 0 => return runs
  | fuel + 1 => do
    let runs ← attend runs
    if runs.all Run.isOver then return runs
    if ← untilAwake (waitsOf runs) (fuel + 1) then performWithin runs fuel else return runs

/-- More turns than a job in the foreground needs: each of its requests is answered within the time
for answers or for searches, and in each moment it pauses at most as often as it has requests. -/
def horizon (w : World) : Nat :=
  (w.patience * (w.network.timeout + w.store.searchDelay + 1) + 1) * (w.patience + 8)

/-- Runs jobs in the foreground, which begin in this order, and gives their results. -/
def performAll (job : Job σ α) (starts : List (StateM Daemon (Next σ α))) :
    StateM (Engine settings) (List (Option α)) := do
  modify fun e => { e with branches := List.range starts.length }
  let runs : List (Run job) := starts.map .fresh
  let e ← get
  let fuel := horizon e.scene.world * (e.turnsOfAll + starts.length + 1)
  let runs ← performWithin runs fuel
  return runs.map Run.result?

/-- Runs a job in the foreground and gives its result. -/
def perform (job : Job σ α) (start : StateM Daemon (Next σ α)) :
    StateM (Engine settings) (Option α) := do
  return (← performAll job [start]).head?.join

end Engine

end ModelFleet.Simulation
