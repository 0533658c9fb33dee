import ModelFleet.Proofs.Run.Course

/-!
# What a cycle has asked for so far

`Cycle.Stands` says for each stage what a cycle at that stage has asked for and what it was replied,
whatever happened to its daemon in the meantime, and `Cycle.Closed` lists all the ways in which a
cycle comes to its end.  `Cycle.went_of_course` shows both for every course of a cycle.
-/

namespace ModelFleet

open Outside

namespace Cycle

variable (settings : SyncSettings)

/-! ### Before the first record -/

/-- What has come of a search for the key that a cycle has made. -/
abbrev Seeking (keys : List Exchange) (next : Next Bootstrap Bootstrap.Result) : Prop :=
  (Bootstrap.job settings.configCollection settings.masterKeyId).Course (.wait .queueing) keys next

/-- A search for the key that has succeeded. -/
def Keyed (keys : List Exchange) : Prop := ∃ status, Seeking settings keys (.over (.ok status))

/-- What a cycle that has come to its second round was told before. -/
structure Opening where
  keys : List Exchange
  nodes : List NodeId
  reports : List Answer
  receipts : List Answer
  keyed : Keyed settings keys

namespace Opening

variable {settings} (o : Opening settings)

/-- What the nodes have reported. -/
def state : Aggregate := Gather.state o.reports

/-- What the two rounds have given. -/
def rounds : Rounds Unit := ⟨(), o.state, Routing.outcome o.receipts⟩

/-- All requests up to the second round. -/
def trail (id : CycleId) : List Exchange :=
  o.keys ++ [probed settings (.ok true), listed (.ok o.nodes), gathered id o.nodes o.reports,
    routed id o.state o.receipts]

/-- The report of the cycle after its second round. -/
def report (id : CycleId) (now : Instant) : CycleReport :=
  (CycleReport.fresh id now).routed o.rounds

end Opening

/-! ### Reading -/

/-- What has been read of the records so far, and where to go on. -/
inductive Reading (r : Reconciler) : List Exchange → Refresh → Option Cursor → Prop
  | start : Reading r [] .empty (some .start)
  | page {pages : List Exchange} {cursor : Cursor} {refresh refresh' : Refresh}
      (h : Reading r pages refresh (some cursor)) (reply : Except StoreError SearchPage)
      (ha : refresh.addStream r (Scan.read reply).1 = .ok refresh') :
      Reading r (pages ++ [paged settings cursor reply]) refresh' (Scan.read reply).2

/-! ### The end -/

variable (id : CycleId) (now : Instant)

/-- The report of a cycle after its first round. -/
def heard (answers : List Answer) : CycleReport :=
  { CycleReport.fresh id now with
    responded := (Gather.state answers).responded
    failed := (Gather.state answers).failed }

/-- **All the ways in which a cycle comes to its end**: what it has asked for, and its report. -/
inductive Closed : List Exchange → CycleReport → Prop
  | keyless {keys : List Exchange} {e : SyncError} (h : Seeking settings keys (.over (.error e)))
      (t : Instant) : Closed keys ((CycleReport.fresh id now).close (.aborted (.bootstrap e)) t)
  | noModelIndex {keys : List Exchange} (h : Keyed settings keys) (t : Instant) :
      Closed (keys ++ [probed settings (.ok false)])
        ((CycleReport.fresh id now).close .noModelIndex t)
  | unprobed {keys : List Exchange} (h : Keyed settings keys) (e : StoreError) (t : Instant) :
      Closed (keys ++ [probed settings (.error e)])
        ((CycleReport.fresh id now).close (.aborted (.collection (.storage e))) t)
  | unlisted {keys : List Exchange} (h : Keyed settings keys) (e : ClusterError) (t : Instant) :
      Closed (keys ++ [probed settings (.ok true), listed (.error e)])
        ((CycleReport.fresh id now).close (.aborted (.gather (.cluster e))) t)
  | skipped (o : Opening settings) (t : Instant) :
      Closed (o.trail id) ((o.report id now).close .skipped t)
  | unread (o : Opening settings) {decided : Instant} {pages : List Exchange} {cursor : Cursor}
      {refresh : Refresh} {e : SyncError} {reply : Except StoreError SearchPage}
      (h : Reading settings (o.rounds.reconciler settings decided) pages refresh (some cursor))
      (hr : refresh.addStream (o.rounds.reconciler settings decided) (Scan.read reply).1 = .error e)
      (t : Instant) :
      Closed (o.trail id ++ pages ++ [paged settings cursor reply])
        ((o.report id now).close (.aborted (.scan e)) t)
  | idle (o : Opening settings) {decided : Instant} {pages : List Exchange} {refresh : Refresh}
      (h : Reading settings (o.rounds.reconciler settings decided) pages refresh none)
      (hc : refresh.corrections = []) (t : Instant) :
      Closed (o.trail id ++ pages) ((o.report id now).completed refresh none t)
  | written (o : Opening settings) {decided time : Instant} {pages : List Exchange}
      {refresh : Refresh}
      (h : Reading settings (o.rounds.reconciler settings decided) pages refresh none)
      (hc : refresh.corrections ≠ []) (reply : Except StoreError BulkResponse) (t : Instant) :
      Closed (o.trail id ++ pages ++ [written settings ⟨refresh.corrections, time⟩ reply])
        ((o.report id now).completed refresh (some (Write.outcome refresh.corrections reply)) t)

/-! ### Under way -/

/-- **What a cycle under way has asked for so far**, by its stage. -/
inductive Stands : List Exchange → Cycle → Prop
  | bootstrapping {keys : List Exchange} {b : Bootstrap} (h : Seeking settings keys (.wait b)) :
      Stands keys ⟨.fresh id now, .bootstrapping b⟩
  | probing {keys : List Exchange} (h : Keyed settings keys) : Stands keys ⟨.fresh id now, .probing⟩
  | listing {keys : List Exchange} (h : Keyed settings keys) :
      Stands (keys ++ [probed settings (.ok true)]) ⟨.fresh id now, .gathering .listing⟩
  | asking {keys : List Exchange} (h : Keyed settings keys) (nodes : List NodeId) :
      Stands (keys ++ [probed settings (.ok true), listed (.ok nodes)])
        ⟨.fresh id now, .gathering (.asking nodes)⟩
  | routing {keys : List Exchange} (h : Keyed settings keys) (nodes : List NodeId)
      (answers : List Answer) :
      Stands
        (keys ++ [probed settings (.ok true), listed (.ok nodes), gathered id nodes answers])
        ⟨heard id now answers, .routing ⟨Gather.state answers⟩⟩
  | scanning (o : Opening settings) {decided : Instant} {pages : List Exchange} {cursor : Cursor}
      {refresh : Refresh}
      (h : Reading settings (o.rounds.reconciler settings decided) pages refresh (some cursor)) :
      Stands (o.trail id ++ pages)
        ⟨o.report id now, .scanning (o.rounds.reconciler settings decided) cursor refresh⟩
  | writing (o : Opening settings) {decided : Instant} {pages : List Exchange} {refresh : Refresh}
      (h : Reading settings (o.rounds.reconciler settings decided) pages refresh none)
      (hc : refresh.corrections ≠ []) (time : Instant) :
      Stands (o.trail id ++ pages)
        ⟨o.report id now, .writing refresh ⟨refresh.corrections, time⟩⟩
  | filing {trail : List Exchange} {report : CycleReport}
      (h : Closed settings id now trail report) : Stands trail ⟨report, .filing⟩

/-- What a cycle has asked for that is under way or has ended. -/
def Went (trail : List Exchange) : Next Cycle CycleReport → Prop
  | .wait cycle => Stands settings id now trail cycle
  | .over report => ∃ before, trail = before ++ [⟨.file, ()⟩] ∧ Closed settings id now before report

variable {settings id now}

theorem Seeking.step {keys : List Exchange} {b : Bootstrap}
    {next : Next Bootstrap Bootstrap.Result} {d : Daemon}
    (h : Seeking settings keys (.wait b))
    (reply : (b.request settings.configCollection settings.masterKeyId).Reply)
    (hn : ((b.resume settings.configCollection settings.masterKeyId reply).run d).1 = next) :
    Seeking settings (keys ++ [⟨_, reply⟩]) next :=
  hn ▸ Job.Course.step h reply d

/-- A step of a cycle that reads records. -/
theorem Reading.advance {o : Opening settings} {decided : Instant} {pages : List Exchange}
    {cursor : Cursor} {refresh : Refresh} {x : Exchange} {d : Daemon}
    {next : Next Cycle CycleReport} {gate : Gate}
    (h : Reading settings (o.rounds.reconciler settings decided) pages refresh (some cursor))
    (ha : Advance settings d ⟨o.report id now,
      .scanning (o.rounds.reconciler settings decided) cursor refresh⟩ x next gate) :
    Went settings id now (o.trail id ++ pages ++ [x]) next := by
  cases ha with
  | turns reply hr hn =>
    have hp := h.page reply hr
    rw [hn] at hp
    rw [List.append_assoc]
    exact .scanning o hp
  | idles reply hr hn hc =>
    have hp := h.page reply hr
    rw [hn] at hp
    rw [List.append_assoc]
    exact .filing (.idle o hp hc d.clock)
  | corrects reply hr hn hc =>
    have hp := h.page reply hr
    rw [hn] at hp
    rw [List.append_assoc]
    exact .writing o hp hc d.clock
  | unread reply hr => exact .filing (.unread o h hr d.clock)

/-- The answers of the second round complete what a cycle is told before the first record. -/
theorem Stands.opens {trail : List Exchange} {report : CycleReport} {state : Aggregate}
    (h : Stands settings id now trail ⟨report, .routing ⟨state⟩⟩) (receipts : List Answer) :
    ∃ o : Opening settings, trail ++ [routed report.cycle state receipts] = o.trail id ∧
      o.rounds = ⟨(), state, Routing.outcome receipts⟩ ∧
      { report with routing := some (Routing.outcome receipts) } = o.report id now := by
  cases h with
  | @routing keys h nodes reports =>
    refine ⟨⟨keys, nodes, reports, receipts, h⟩, ?_, rfl, rfl⟩
    rw [List.append_assoc]
    rfl

/-- **A step of a cycle that stands somewhere.** -/
theorem Stands.advance {trail : List Exchange} {cycle : Cycle} {x : Exchange} {d : Daemon}
    {next : Next Cycle CycleReport} {gate : Gate} (h : Stands settings id now trail cycle)
    (ha : Advance settings d cycle x next gate) : Went settings id now (trail ++ [x]) next := by
  cases h with
  | bootstrapping h =>
    cases ha with
    | seeks reply hn => exact .bootstrapping (h.step reply hn)
    | keyed reply hn => exact .probing ⟨_, h.step reply hn⟩
    | keyless reply hn => exact .filing (.keyless (h.step reply hn) d.clock)
  | probing h =>
    cases ha with
    | finds => exact .listing h
    | misses => exact .filing (.noModelIndex h d.clock)
    | unprobed e => exact .filing (.unprobed h e d.clock)
  | listing h =>
    cases ha with
    | lists nodes =>
      rw [List.append_assoc]
      exact .asking h nodes
    | unlisted e =>
      rw [List.append_assoc]
      exact .filing (.unlisted h e d.clock)
  | asking h nodes =>
    cases ha with
    | gathers answers =>
      rw [List.append_assoc]
      exact .routing h nodes answers
  | routing h nodes reports =>
    cases ha with
    | enters receipts =>
      obtain ⟨o, htrail, hrounds, hreport⟩ := (Stands.routing h nodes reports).opens receipts
      have hs : Stands settings id now (o.trail id ++ [])
          ⟨o.report id now, .scanning (o.rounds.reconciler settings d.clock) .start .empty⟩ :=
        .scanning o .start
      rw [List.append_nil, ← htrail, ← hreport, hrounds] at hs
      exact hs
    | skips receipts =>
      obtain ⟨o, htrail, -, hreport⟩ := (Stands.routing h nodes reports).opens receipts
      have hs : Closed settings id now (o.trail id) ((o.report id now).close .skipped d.clock) :=
        .skipped o d.clock
      rw [← htrail, ← hreport] at hs
      exact .filing hs
  | scanning o h => exact h.advance ha
  | writing o h hc time =>
    cases ha with
    | writes reply => exact .filing (.written o h hc reply d.clock)
  | filing h =>
    cases ha with
    | files => exact ⟨_, rfl, h⟩

/-- **What a cycle has asked for at any time.** -/
theorem went_of_course {trail : List Exchange} {next : Next Cycle CycleReport}
    (h : (job settings).Course (.wait ⟨.fresh id now, .bootstrapping .queueing⟩) trail next) :
    Went settings id now trail next := by
  induction h with
  | start => exact .bootstrapping .start
  | step _ reply d ih => exact ih.advance (Cycle.advance _ reply d)

/-! ### The requests before the first record -/

/-- The requests that come before the first record is read. -/
inductive Preliminary (settings : SyncSettings) : Request → Prop
  | key (b : Bootstrap) :
      Preliminary settings (b.request settings.configCollection settings.masterKeyId)
  | probe : Preliminary settings (.probe settings.modelCollection)
  | members : Preliminary settings .members
  | broadcast (nodes : List NodeId) (message : SyncRequest) :
      Preliminary settings (.broadcast nodes message)

variable {x : Exchange}

theorem Seeking.preliminary {keys : List Exchange} {next : Next Bootstrap Bootstrap.Result}
    (h : Seeking settings keys next) (hx : x ∈ keys) : Preliminary settings x.request := by
  obtain ⟨b, hb⟩ := h.exists_state_of_mem hx
  rw [hb]
  exact .key b

theorem Keyed.preliminary {keys rest : List Exchange} (h : Keyed settings keys)
    (hr : ∀ y ∈ rest, Preliminary settings y.request) (hx : x ∈ keys ++ rest) :
    Preliminary settings x.request := by
  obtain ⟨_, hs⟩ := h
  rcases List.mem_append.1 hx with hx | hx
  · exact hs.preliminary hx
  · exact hr x hx

theorem Opening.preliminary (o : Opening settings) (hx : x ∈ o.trail id) :
    Preliminary settings x.request := by
  refine o.keyed.preliminary (fun y hy => ?_) hx
  simp only [List.mem_cons, List.not_mem_nil, or_false] at hy
  rcases hy with rfl | rfl | rfl | rfl
  · exact .probe
  · exact .members
  · exact .broadcast ..
  · exact .broadcast ..

end Cycle

end ModelFleet
