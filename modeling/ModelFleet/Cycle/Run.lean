import ModelFleet.Config.Settings
import ModelFleet.Cycle.Bootstrap
import ModelFleet.Cycle.Rounds
import ModelFleet.Cycle.Scan
import ModelFleet.Cycle.Write

/-!
# Cycles

A cycle agrees on the master key, looks for the collection of models, gathers what the nodes report,
pushes the routing, and then, if it gets through the gate, reads the records and writes all
corrections at once.  It comes back through the gate however it ends.
-/

namespace ModelFleet

/-- What a cycle waits for. -/
inductive Stage
  | bootstrapping (b : Bootstrap)
  | probing
  | gathering (g : Gather)
  | routing (r : Routing)
  | scanning (reconciler : Reconciler) (cursor : Cursor) (refresh : Refresh)
  | writing (refresh : Refresh) (write : Write)
  | filing

/-- A cycle under way: its report so far and what it waits for. -/
structure Cycle where
  report : CycleReport
  stage : Stage

namespace Cycle

variable (settings : SyncSettings)

abbrev Step := StateM Daemon (Next Cycle CycleReport)

def holdsGate (cycle : Cycle) : Bool :=
  match cycle.stage with
  | .scanning .. | .writing .. => true
  | _ => false

/-- Ends a cycle that is not inside the gate; what is left is to file its report. -/
def finish (report : CycleReport) (outcome : Outcome) : Step := do
  return .wait ⟨{ report with outcome, finishedAt := ← Daemon.now }, .filing⟩

def abort (report : CycleReport) (cause : AbortCause) : Step := do
  Daemon.emit (some report.cycle) (.cycleAborted cause.message)
  finish report (.aborted cause)

def start : Step := do
  let id ← Daemon.nextCycle
  let report := CycleReport.fresh id (← Daemon.now)
  Daemon.emit (some id) .cycleStarted
  return .wait ⟨report, .bootstrapping .queueing⟩

/-- Goes on when there is a key, or not. -/
def afterBootstrap (report : CycleReport) : Bootstrap.Result → Step
  | .error e => abort report (.bootstrap e)
  | .ok _ => pure (.wait ⟨report, .probing⟩)

/-- Goes on when it is known whether the collection of models is there. -/
def afterProbe (report : CycleReport) : Except StoreError Bool → Step
  | .error e => abort report (.collection (.storage e))
  | .ok false => finish report .noModelIndex
  | .ok true => pure (.wait ⟨report, .gathering .listing⟩)

def afterGather (report : CycleReport) : Except SyncError Aggregate → Step
  | .error e => abort report (.gather e)
  | .ok state =>
    let report := { report with responded := state.responded, failed := state.failed }
    pure (.wait ⟨report, .routing ⟨state⟩⟩)

/-- Goes on after the second round, if the gate is open. -/
def afterRouting (report : CycleReport) (state : Aggregate) (outcome : RoutingOutcome) : Step := do
  let report := { report with routing := some outcome }
  if ← Daemon.enterGate then
    let reconciler : Reconciler :=
      ⟨settings.graceMillis, state.afterRouting outcome, ← Daemon.now⟩
    return .wait ⟨report, .scanning reconciler .start .empty⟩
  else
    Daemon.emit (some report.cycle) (.cycleSkipped "previous refresh still running")
    finish report .skipped

def complete (report : CycleReport) (refresh : Refresh) (bulk : Option BulkOutcome) : Step := do
  let elapsed := ((← Daemon.now).nanos - report.startedAt.nanos).toNat / 1000000
  Daemon.emit (some report.cycle)
    (.cycleCompleted (.ofNat refresh.scanned) (.ofNat refresh.corrections.length)
      (.ofNat (min elapsed (2 ^ 64 - 1))))
  Daemon.leaveGate
  finish { report with scanned := refresh.scanned, corrections := refresh.corrections, bulk }
    .completed

def afterScan (report : CycleReport) (refresh : Refresh) : Step := do
  if refresh.corrections.isEmpty then complete report refresh none
  else
    (← Write.start refresh.corrections).andThen (fun write => ⟨report, .writing refresh write⟩)
      fun bulk => complete report refresh (some bulk)

def afterPage (report : CycleReport) (reconciler : Reconciler) (refresh : Refresh)
    (reply : Except StoreError SearchPage) : Step := do
  let (items, next) := Scan.read reply
  match refresh.addStream reconciler items, next with
  | .error e, _ =>
    Daemon.leaveGate
    abort report (.scan e)
  | .ok refresh, some cursor => return .wait ⟨report, .scanning reconciler cursor refresh⟩
  | .ok refresh, none => afterScan report refresh

def request (cycle : Cycle) : Request :=
  match cycle.stage with
  | .bootstrapping b => b.request settings.configCollection settings.masterKeyId
  | .probing => .probe settings.modelCollection
  | .gathering g => g.request cycle.report.cycle
  | .routing r => r.request cycle.report.cycle
  | .scanning _ cursor _ => Scan.request settings.modelCollection settings.pageSize cursor
  | .writing _ write => write.request settings.modelCollection
  | .filing => .file

def resume : (cycle : Cycle) → (cycle.request settings).Reply → Step
  | ⟨report, .bootstrapping b⟩, reply => do
    (← b.resume settings.configCollection settings.masterKeyId reply).andThen
      (fun b => ⟨report, .bootstrapping b⟩) (afterBootstrap report)
  | ⟨report, .probing⟩, reply => afterProbe report reply
  | ⟨report, .gathering g⟩, reply => do
    (← g.resume report.cycle reply).andThen (fun g => ⟨report, .gathering g⟩) (afterGather report)
  | ⟨report, .routing r⟩, reply => do
    (← r.resume report.cycle reply).andThen (fun r => ⟨report, .routing r⟩)
      (afterRouting settings report r.state)
  | ⟨report, .scanning reconciler _ refresh⟩, reply => afterPage report reconciler refresh reply
  | ⟨report, .writing refresh write⟩, reply => do
    (← write.resume settings.modelCollection report.cycle reply).andThen
      (fun write => ⟨report, .writing refresh write⟩)
      fun bulk => complete report refresh (some bulk)
  | ⟨report, .filing⟩, _ => do
    Daemon.keepReport report
    return .over report

def job : Job Cycle CycleReport := ⟨request settings, resume settings⟩

def seeksKey (cycle : Cycle) : Bool :=
  match cycle.stage with
  | .bootstrapping b => b ≠ .queueing
  | _ => false

/-- Drops a cycle, which gives up the gate and the search for the key. -/
def cancel (cycle : Cycle) : StateM Daemon Unit := do
  if cycle.holdsGate then Daemon.leaveGate
  if cycle.seeksKey then Daemon.seekKey false

end Cycle

end ModelFleet
