import ModelFleet.Proofs.Key.Search
import ModelFleet.Proofs.Run.Stages

/-!
# What a cycle may go through

A job on its own, whatever it is replied and whatever else happens to its daemon in the meantime: a
`Job.Course` lists the requests that a job has made so far, with their replies.

`Cycle.Advance` lists everything that one step of a cycle can do, and `Cycle.advance` says that the
list is complete.
-/

namespace ModelFleet

/-- A request with its reply. -/
structure Exchange where
  request : Request
  reply : request.Reply

/-- What may come of a job, whatever it is replied and whatever daemon it finds at each step. -/
inductive Job.Course {σ α : Type} (job : Job σ α) (start : Next σ α) :
    List Exchange → Next σ α → Prop
  | start : Course job start [] start
  | step {trail : List Exchange} {state : σ} (h : Course job start trail (.wait state))
      (reply : (job.request state).Reply) (d : Daemon) :
      Course job start (trail ++ [⟨job.request state, reply⟩])
        ((job.resume state reply).run d).1

/-- The report of a cycle that ends without having read all records. -/
def CycleReport.close (report : CycleReport) (outcome : Outcome) (finishedAt : Instant) :
    CycleReport :=
  { report with outcome, finishedAt }

namespace Job.Course

variable {σ α : Type} {job : Job σ α} {start next : Next σ α} {trail : List Exchange}

/-- Every request of a course was made in some state of the job. -/
theorem exists_state_of_mem (h : Course job start trail next) {x : Exchange} (hx : x ∈ trail) :
    ∃ state, x.request = job.request state := by
  induction h with
  | start => cases hx
  | @step trail state h reply d ih =>
    rcases List.mem_append.1 hx with hx | hx
    · exact ih hx
    · rw [List.mem_singleton] at hx
      exact ⟨state, by rw [hx]⟩

end Job.Course

namespace Bootstrap

/-- A search for the key does not touch the gate. -/
theorem Outcome.gate {collection keyId : String} {b : Bootstrap}
    {reply : (b.request collection keyId).Reply} {d : Daemon} {p : Next Bootstrap Result × Daemon}
    (h : Outcome collection keyId b reply d p) : p.2.gate = d.gate := by
  cases h <;> rfl

theorem Outcome.clock {collection keyId : String} {b : Bootstrap}
    {reply : (b.request collection keyId).Reply} {d : Daemon} {p : Next Bootstrap Result × Daemon}
    (h : Outcome collection keyId b reply d p) : p.2.clock = d.clock := by
  cases h <;> rfl

end Bootstrap

/-! ### What a reply to a search says -/

namespace Scan

/-- **A reply to a search** brings records, says that the collection is not there, or is the failure
that ends the reading. -/
theorem read_cases (r : Reconciler) (refresh : Refresh) (reply : Except StoreError SearchPage) :
    (∃ page, reply = .ok page ∧ (read reply).2 = page.next.map .after ∧
        refresh.addStream r (read reply).1 = .ok (refresh.addAll r (records page.hits))) ∨
      (∃ detail, reply = .error (.notFound detail) ∧ (read reply).2 = none ∧
        refresh.addStream r (read reply).1 = .ok refresh) ∨
      ∃ e, reply = .error e ∧ (∀ detail, e ≠ .notFound detail) ∧
        refresh.addStream r (read reply).1 = .error (.storage e) := by
  match reply with
  | .ok page => exact .inl ⟨page, rfl, rfl, Refresh.addStream_ok r refresh _⟩
  | .error (.notFound detail) => exact .inr (.inl ⟨detail, rfl, rfl, rfl⟩)
  | .error (.conflict _) | .error (.invalidData _) | .error (.transport _) =>
    exact .inr (.inr ⟨_, rfl, nofun, rfl⟩)

end Scan

namespace Cycle

variable (settings : SyncSettings)

/-! ### Requests and replies of a cycle -/

/-- Whether the collection of models is there. -/
def probed (reply : Except StoreError Bool) : Exchange := ⟨.probe settings.modelCollection, reply⟩

/-- Which nodes take part. -/
def listed (reply : Except ClusterError (List NodeId)) : Exchange := ⟨.members, reply⟩

/-- What the nodes answer in the first round. -/
def gathered (id : CycleId) (nodes : List NodeId) (answers : List Answer) : Exchange :=
  ⟨.broadcast nodes (.gather id), answers⟩

/-- What the nodes answer in the second round. -/
def routed (id : CycleId) (state : Aggregate) (answers : List Answer) : Exchange :=
  ⟨.broadcast state.nodes.toList (.applyRouting id state.push), answers⟩

/-- A page of records. -/
def paged (cursor : Cursor) (reply : Except StoreError SearchPage) : Exchange :=
  ⟨Scan.request settings.modelCollection settings.pageSize cursor, reply⟩

/-- What became of the corrections. -/
def written (write : Write) (reply : Except StoreError BulkResponse) : Exchange :=
  ⟨write.request settings.modelCollection, reply⟩

/-! ### One step -/

/-- **Everything that a step of a cycle can do**, by the reply that it is given: what the cycle does
next, and the gate after the step. -/
inductive Advance (d : Daemon) : Cycle → Exchange → Next Cycle CycleReport → Gate → Prop
  | seeks {report b b'} (reply : (b.request settings.configCollection settings.masterKeyId).Reply)
      (h : ((b.resume settings.configCollection settings.masterKeyId reply).run d).1 = .wait b') :
      Advance d ⟨report, .bootstrapping b⟩ ⟨_, reply⟩ (.wait ⟨report, .bootstrapping b'⟩) d.gate
  | keyed {report b status}
      (reply : (b.request settings.configCollection settings.masterKeyId).Reply)
      (h : ((b.resume settings.configCollection settings.masterKeyId reply).run d).1 =
        .over (.ok status)) :
      Advance d ⟨report, .bootstrapping b⟩ ⟨_, reply⟩ (.wait ⟨report, .probing⟩) d.gate
  | keyless {report b e}
      (reply : (b.request settings.configCollection settings.masterKeyId).Reply)
      (h : ((b.resume settings.configCollection settings.masterKeyId reply).run d).1 =
        .over (.error e)) :
      Advance d ⟨report, .bootstrapping b⟩ ⟨_, reply⟩
        (.wait ⟨report.close (.aborted (.bootstrap e)) d.clock, .filing⟩) d.gate
  | finds {report} :
      Advance d ⟨report, .probing⟩ (probed settings (.ok true))
        (.wait ⟨report, .gathering .listing⟩) d.gate
  | misses {report} :
      Advance d ⟨report, .probing⟩ (probed settings (.ok false))
        (.wait ⟨report.close .noModelIndex d.clock, .filing⟩) d.gate
  | unprobed {report} (e : StoreError) :
      Advance d ⟨report, .probing⟩ (probed settings (.error e))
        (.wait ⟨report.close (.aborted (.collection (.storage e))) d.clock, .filing⟩) d.gate
  | lists {report} (nodes : List NodeId) :
      Advance d ⟨report, .gathering .listing⟩ (listed (.ok nodes))
        (.wait ⟨report, .gathering (.asking nodes)⟩) d.gate
  | unlisted {report} (e : ClusterError) :
      Advance d ⟨report, .gathering .listing⟩ (listed (.error e))
        (.wait ⟨report.close (.aborted (.gather (.cluster e))) d.clock, .filing⟩) d.gate
  | gathers {report nodes} (answers : List Answer) :
      Advance d ⟨report, .gathering (.asking nodes)⟩ (gathered report.cycle nodes answers)
        (.wait ⟨{ report with
            responded := (Gather.state answers).responded
            failed := (Gather.state answers).failed }, .routing ⟨Gather.state answers⟩⟩) d.gate
  | enters {report state} (answers : List Answer) (hg : d.gate.isOpen = true) :
      Advance d ⟨report, .routing ⟨state⟩⟩ (routed report.cycle state answers)
        (.wait ⟨{ report with routing := some (Routing.outcome answers) },
          .scanning ⟨settings.graceMillis, state.afterRouting (Routing.outcome answers), d.clock⟩
            .start .empty⟩) ⟨true⟩
  | skips {report state} (answers : List Answer) (hg : d.gate.isOpen = false) :
      Advance d ⟨report, .routing ⟨state⟩⟩ (routed report.cycle state answers)
        (.wait ⟨{ report with routing := some (Routing.outcome answers) }.close .skipped d.clock,
          .filing⟩) d.gate
  | turns {report r cursor cursor' refresh refresh'} (reply : Except StoreError SearchPage)
      (ha : refresh.addStream r (Scan.read reply).1 = .ok refresh')
      (hn : (Scan.read reply).2 = some cursor') :
      Advance d ⟨report, .scanning r cursor refresh⟩ (paged settings cursor reply)
        (.wait ⟨report, .scanning r cursor' refresh'⟩) d.gate
  | idles {report r cursor refresh refresh'} (reply : Except StoreError SearchPage)
      (ha : refresh.addStream r (Scan.read reply).1 = .ok refresh')
      (hn : (Scan.read reply).2 = none) (hc : refresh'.corrections = []) :
      Advance d ⟨report, .scanning r cursor refresh⟩ (paged settings cursor reply)
        (.wait ⟨report.completed refresh' none d.clock, .filing⟩) ⟨false⟩
  | corrects {report r cursor refresh refresh'} (reply : Except StoreError SearchPage)
      (ha : refresh.addStream r (Scan.read reply).1 = .ok refresh')
      (hn : (Scan.read reply).2 = none) (hc : refresh'.corrections ≠ []) :
      Advance d ⟨report, .scanning r cursor refresh⟩ (paged settings cursor reply)
        (.wait ⟨report, .writing refresh' ⟨refresh'.corrections, d.clock⟩⟩) d.gate
  | unread {report r cursor refresh e} (reply : Except StoreError SearchPage)
      (ha : refresh.addStream r (Scan.read reply).1 = .error e) :
      Advance d ⟨report, .scanning r cursor refresh⟩ (paged settings cursor reply)
        (.wait ⟨report.close (.aborted (.scan e)) d.clock, .filing⟩) ⟨false⟩
  | writes {report refresh write} (reply : Except StoreError BulkResponse) :
      Advance d ⟨report, .writing refresh write⟩ (written settings write reply)
        (.wait ⟨report.completed refresh (some (Write.outcome write.corrections reply)) d.clock,
          .filing⟩) ⟨false⟩
  | files {report} : Advance d ⟨report, .filing⟩ ⟨.file, ()⟩ (.over report) d.gate

variable {settings}

theorem afterRouting_of_closed (report : CycleReport) (state : Aggregate) (outcome : RoutingOutcome)
    {d : Daemon} (h : d.gate.isOpen = false) :
    ∃ feed, (afterRouting settings report state outcome).run d =
      (.wait ⟨{ report with routing := some outcome }.close .skipped d.clock, .filing⟩,
        { d with feed }) := by
  have hg : d.gate.taken = true := by simpa [Gate.isOpen] using h
  refine ⟨d.feed.emit d.clock (some report.cycle) (.cycleSkipped "previous refresh still running"),
    ?_⟩
  unfold afterRouting Daemon.enterGate
  simp [Gate.enter, hg]
  rfl

theorem advance_bootstrapping (report : CycleReport) (b : Bootstrap)
    (reply : (b.request settings.configCollection settings.masterKeyId).Reply) (d : Daemon) :
    Advance settings d ⟨report, .bootstrapping b⟩ ⟨_, reply⟩
      ((resume settings ⟨report, .bootstrapping b⟩ reply).run d).1
      ((resume settings ⟨report, .bootstrapping b⟩ reply).run d).2.gate := by
  have ho := Bootstrap.resume_outcome b reply d
  rw [resume_bootstrapping]
  generalize hp : (b.resume settings.configCollection settings.masterKeyId reply).run d = p at *
  have hgate := ho.gate
  have hclock := ho.clock
  obtain ⟨b' | (e | status), d'⟩ := p
  · show Advance settings d _ _ (.wait ⟨report, .bootstrapping b'⟩) d'.gate
    rw [hgate]
    exact .seeks reply (by rw [hp])
  · show Advance settings d _ _
      (.wait ⟨report.close (.aborted (.bootstrap e)) d'.clock, .filing⟩) d'.gate
    rw [hgate, hclock]
    exact .keyless reply (by rw [hp])
  · show Advance settings d _ _ (.wait ⟨report, .probing⟩) d'.gate
    rw [hgate]
    exact .keyed reply (by rw [hp])

theorem advance_gathering (report : CycleReport) (g : Gather)
    (reply : (g.request report.cycle).Reply) (d : Daemon) :
    Advance settings d ⟨report, .gathering g⟩ ⟨_, reply⟩
      ((resume settings ⟨report, .gathering g⟩ reply).run d).1
      ((resume settings ⟨report, .gathering g⟩ reply).run d).2.gate := by
  cases g with
  | listing =>
    match reply with
    | .ok nodes => exact .lists nodes
    | .error e => exact .unlisted e
  | asking nodes =>
    have hr := resume_asking settings report nodes reply d
    rw [Daemon.emitAll_run] at hr
    show Advance settings d _ _ ((resume settings ⟨report, .gathering (.asking nodes)⟩ reply).run
      d).1 ((resume settings ⟨report, .gathering (.asking nodes)⟩ reply).run d).2.gate
    rw [hr]
    exact .gathers reply

theorem advance_routing (report : CycleReport) (r : Routing) (answers : List Answer) (d : Daemon) :
    Advance settings d ⟨report, .routing r⟩ (routed report.cycle r.state answers)
      ((resume settings ⟨report, .routing r⟩ answers).run d).1
      ((resume settings ⟨report, .routing r⟩ answers).run d).2.gate := by
  rw [resume_routing, Daemon.emitAll_run]
  generalize (answers.filterMap Routing.event?).foldl _ d.feed = feed
  show Advance settings d _ _
    ((afterRouting settings report r.state (Routing.outcome answers)).run { d with feed }).1
    ((afterRouting settings report r.state (Routing.outcome answers)).run { d with feed }).2.gate
  cases hg : d.gate.isOpen with
  | true =>
    rw [afterRouting_of_open settings (d := { d with feed }) report r.state _ hg]
    exact .enters answers hg
  | false =>
    obtain ⟨feed', hclosed⟩ := afterRouting_of_closed (d := { d with feed }) report r.state
      (Routing.outcome answers) hg
    rw [hclosed]
    exact .skips answers hg

theorem advance_scanning (report : CycleReport) (r : Reconciler) (cursor : Cursor)
    (refresh : Refresh) (reply : Except StoreError SearchPage) (d : Daemon) :
    Advance settings d ⟨report, .scanning r cursor refresh⟩ (paged settings cursor reply)
      ((resume settings ⟨report, .scanning r cursor refresh⟩ reply).run d).1
      ((resume settings ⟨report, .scanning r cursor refresh⟩ reply).run d).2.gate := by
  show Advance settings d _ _ ((afterPage report r refresh reply).run d).1
    ((afterPage report r refresh reply).run d).2.gate
  unfold afterPage
  cases ha : refresh.addStream r (Scan.read reply).1 with
  | error e =>
    simp only [ha]
    exact .unread reply ha
  | ok refresh' =>
    cases hn : (Scan.read reply).2 with
    | some cursor' =>
      simp only [ha, hn]
      exact .turns reply ha hn
    | none =>
      simp only [ha, hn]
      by_cases hc : refresh'.corrections = []
      · rw [afterScan_of_nil report hc]
        exact .idles reply ha hn hc
      · rw [afterScan_of_ne_nil report hc]
        exact .corrects reply ha hn hc

theorem advance_writing (report : CycleReport) (refresh : Refresh) (write : Write)
    (reply : Except StoreError BulkResponse) (d : Daemon) :
    Advance settings d ⟨report, .writing refresh write⟩ (written settings write reply)
      ((resume settings ⟨report, .writing refresh write⟩ reply).run d).1
      ((resume settings ⟨report, .writing refresh write⟩ reply).run d).2.gate := by
  have hr : (resume settings ⟨report, .writing refresh write⟩ reply).run d =
      (complete report refresh (some (Write.outcome write.corrections reply))).run
        ((Daemon.emitAll report.cycle (Write.events write.corrections reply)).run d).2 := rfl
  rw [hr, Daemon.emitAll_run]
  exact .writes reply

/-- **There is nothing else that a step of a cycle can do.** -/
theorem advance (cycle : Cycle) (reply : (cycle.request settings).Reply) (d : Daemon) :
    Advance settings d cycle ⟨cycle.request settings, reply⟩
      ((cycle.resume settings reply).run d).1 ((cycle.resume settings reply).run d).2.gate := by
  obtain ⟨report, stage⟩ := cycle
  cases stage with
  | bootstrapping b => exact advance_bootstrapping report b reply d
  | probing =>
    match reply with
    | .ok true => exact .finds
    | .ok false => exact .misses
    | .error e => exact .unprobed e
  | gathering g => exact advance_gathering report g reply d
  | routing r => exact advance_routing report r reply d
  | scanning r cursor refresh => exact advance_scanning report r cursor refresh reply d
  | writing refresh write => exact advance_writing report refresh write reply d
  | filing => exact .files

/-! ### The gate -/

/-- Whether a cycle is inside the gate after a step. -/
def insideAfter : Next Cycle CycleReport → Bool
  | .wait cycle => cycle.holdsGate
  | .over _ => false

/-- **A step leaves the gate as it is, or takes the cycle in, which finds it open, or out.** -/
theorem Advance.gate_cases {d : Daemon} {cycle : Cycle} {x : Exchange}
    {next : Next Cycle CycleReport} {gate : Gate} (h : Advance settings d cycle x next gate) :
    (insideAfter next = cycle.holdsGate ∧ gate = d.gate) ∨
      (cycle.holdsGate = false ∧ d.gate.isOpen = true ∧ insideAfter next = true ∧ gate = ⟨true⟩) ∨
      (cycle.holdsGate = true ∧ insideAfter next = false ∧ gate = ⟨false⟩) := by
  cases h with
  | enters _ hg => exact .inr (.inl ⟨rfl, hg, rfl, rfl⟩)
  | idles | unread | writes => exact .inr (.inr ⟨rfl, rfl, rfl⟩)
  | _ => exact .inl ⟨rfl, rfl⟩

end Cycle

end ModelFleet
