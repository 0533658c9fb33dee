import ModelFleet.Proofs.Run.Bootstrap
import ModelFleet.Proofs.Store.Pages
import ModelFleet.Proofs.Store.Updates

/-!
# The stages of a cycle

What each stage of a cycle leads to when nobody else writes and the store serves all requests but
bulk updates, which may fail.  The search for the master key takes the same steps inside a cycle as
on its own (`leads_inCycle`), and the reading takes in all records page by page
(`leads_of_scanning`).
-/

namespace ModelFleet

open Outside

variable {γ : Type} {out : Outside γ} (settings : SyncSettings)

/-! ### The search for the key -/

/-- A moment of a search for the master key, inside a cycle. -/
def Outside.Moment.inCycle (report : CycleReport) (m : Moment Bootstrap Bootstrap.Result γ) :
    Moment Cycle CycleReport γ :=
  match m.next with
  | .wait b => ⟨.wait ⟨report, .bootstrapping b⟩, m.outside, m.daemon⟩
  | .over result => .after ((Cycle.afterBootstrap report result).run m.daemon) m.outside

namespace Cycle

theorem resume_bootstrapping (report : CycleReport) (b : Bootstrap)
    (reply : (b.request settings.configCollection settings.masterKeyId).Reply) (d : Daemon) :
    (resume settings ⟨report, .bootstrapping b⟩ reply).run d =
      match (b.resume settings.configCollection settings.masterKeyId reply).run d with
      | (.wait b, d) => (.wait ⟨report, .bootstrapping b⟩, d)
      | (.over result, d) => (afterBootstrap report result).run d := by
  show (match (b.resume settings.configCollection settings.masterKeyId reply).run d with
    | (next, d) => (next.andThen (fun b => (⟨report, .bootstrapping b⟩ : Cycle))
        (afterBootstrap report)).run d) = _
  rcases (b.resume settings.configCollection settings.masterKeyId reply).run d with ⟨_ | _, d'⟩
  · rfl
  · rfl

theorem step_inCycle (report : CycleReport) (b : Bootstrap) (s : State γ) (d : Daemon) :
    out.step (job settings) (Moment.inCycle report ⟨.wait b, s, d⟩) =
      (out.step (Bootstrap.job settings.configCollection settings.masterKeyId)
        ⟨.wait b, s, d⟩).inCycle report := by
  generalize ha : out.answer (b.request settings.configCollection settings.masterKeyId) s = p
  obtain ⟨s', reply⟩ := p
  have hcycle : out.answer ((job settings).request ⟨report, .bootstrapping b⟩) s = (s', reply) := ha
  have hkey : out.answer
      ((Bootstrap.job settings.configCollection settings.masterKeyId).request b) s = (s', reply) :=
    ha
  have hr := resume_bootstrapping settings report b reply
    { d with clock := out.time s.asked.length }
  simp only [Moment.inCycle, step, hcycle, hkey]
  show Moment.after ((resume settings ⟨report, .bootstrapping b⟩ reply).run _) s' =
    Moment.inCycle report
      (.after ((b.resume settings.configCollection settings.masterKeyId reply).run _) s')
  rw [hr]
  rcases (b.resume settings.configCollection settings.masterKeyId reply).run _ with ⟨_ | _, d'⟩
  · rfl
  · rfl

/-- A search for the master key takes the same steps inside a cycle. -/
theorem leads_inCycle (report : CycleReport) {m m' : Moment Bootstrap Bootstrap.Result γ}
    (h : Leads out (Bootstrap.job settings.configCollection settings.masterKeyId) m m') :
    Leads out (job settings) (m.inCycle report) (m'.inCycle report) := by
  induction h with
  | refl => exact .refl _
  | @step m m' h ih =>
    obtain ⟨b | result, s, d⟩ := m
    · refine .step ?_
      rw [step_inCycle settings]
      exact ih
    · exact ih

end Cycle

/-! ### The two rounds -/

/-- What the two rounds of a cycle give: the nodes as they are then, what they have reported, and
what became of the second round. -/
structure Outside.Rounds (γ : Type) where
  cluster : γ
  state : Aggregate
  outcome : RoutingOutcome

/-- The rounds of a cycle in which these nodes take part. -/
def Outside.rounds (out : Outside γ) (cycle : CycleId) (nodes : List NodeId) (cluster : γ) :
    Rounds γ :=
  let (cluster, answers) := out.askAll (.gather cycle) nodes cluster
  let state := Gather.state answers
  let (cluster, answers) := out.askAll (.applyRouting cycle state.push) state.nodes.toList cluster
  ⟨cluster, state, Routing.outcome answers⟩

/-- The report of a cycle after its rounds. -/
def CycleReport.routed (report : CycleReport) (rounds : Rounds γ) : CycleReport :=
  { report with
    responded := rounds.state.responded
    failed := rounds.state.failed
    routing := some rounds.outcome }

/-- What a cycle decides with after its rounds. -/
def Outside.Rounds.reconciler (rounds : Rounds γ) (settings : SyncSettings) (now : Instant) :
    Reconciler :=
  ⟨settings.graceMillis, rounds.state.afterRouting rounds.outcome, now⟩

namespace Cycle

theorem resume_asking (report : CycleReport) (nodes : List NodeId) (answers : List Answer)
    (d : Daemon) :
    (resume settings ⟨report, .gathering (.asking nodes)⟩ answers).run d =
      (.wait ⟨{ report with
          responded := (Gather.state answers).responded
          failed := (Gather.state answers).failed }, .routing ⟨Gather.state answers⟩⟩,
        ((Daemon.emitAll report.cycle (answers.filterMap Gather.event?)).run d).2) := rfl

theorem resume_routing (report : CycleReport) (round : Routing) (answers : List Answer)
    (d : Daemon) :
    (resume settings ⟨report, .routing round⟩ answers).run d =
      (afterRouting settings report round.state (Routing.outcome answers)).run
        ((Daemon.emitAll report.cycle (answers.filterMap Routing.event?)).run d).2 := rfl

theorem afterRouting_of_open (report : CycleReport) (state : Aggregate) (outcome : RoutingOutcome)
    {d : Daemon} (h : d.gate.isOpen = true) :
    (afterRouting settings report state outcome).run d =
      (.wait ⟨{ report with routing := some outcome },
          .scanning ⟨settings.graceMillis, state.afterRouting outcome, d.clock⟩ .start .empty⟩,
        { d with gate := ⟨true⟩ }) := by
  have hg : d.gate.taken = false := by simpa [Gate.isOpen] using h
  unfold afterRouting Daemon.enterGate
  simp [Gate.enter, hg]
  rfl

theorem leads_of_asking (hq : out.Quiet) (report : CycleReport) (nodes : List NodeId)
    (s : State γ) (d : Daemon) {answers : List Answer}
    (ha : (out.askAll (.gather report.cycle) nodes s.cluster).2 = answers) :
    ∃ d', Leads out (job settings) ⟨.wait ⟨report, .gathering (.asking nodes)⟩, s, d⟩
        ⟨.wait ⟨{ report with
              responded := (Gather.state answers).responded
              failed := (Gather.state answers).failed }, .routing ⟨Gather.state answers⟩⟩,
          out.tell nodes (.gather report.cycle) s, d'⟩ ∧ d'.gate = d.gate := by
  have hb := answer_broadcast hq nodes (.gather report.cycle) s
  rw [ha] at hb
  refine ⟨_, .next hb (resume_asking settings report nodes answers _) (.refl _), ?_⟩
  rw [Daemon.emitAll_run]

theorem leads_of_routing (hq : out.Quiet) (report : CycleReport) (state : Aggregate) (s : State γ)
    {d : Daemon} (hg : d.gate.isOpen = true) {answers : List Answer}
    (ha : (out.askAll (.applyRouting report.cycle state.push) state.nodes.toList s.cluster).2 =
      answers) :
    ∃ d', Leads out (job settings) ⟨.wait ⟨report, .routing ⟨state⟩⟩, s, d⟩
        ⟨.wait ⟨{ report with routing := some (Routing.outcome answers) },
            .scanning ⟨settings.graceMillis, state.afterRouting (Routing.outcome answers),
              out.time s.asked.length⟩ .start .empty⟩,
          out.tell state.nodes.toList (.applyRouting report.cycle state.push) s, d'⟩ := by
  have hb := answer_broadcast hq state.nodes.toList (.applyRouting report.cycle state.push) s
  rw [ha] at hb
  have hr := resume_routing settings report ⟨state⟩ answers
    { d with clock := out.time s.asked.length }
  rw [Daemon.emitAll_run] at hr
  exact ⟨_, .next hb (hr.trans (afterRouting_of_open settings _ _ _ hg)) (.refl _)⟩

/-- **The two rounds of a cycle**, after which it begins to read. -/
theorem leads_of_listing (hq : out.Quiet) (report : CycleReport) {s : State γ} {d : Daemon}
    {nodes : List NodeId} (hm : out.members s.cluster = .ok nodes) (hg : d.gate.isOpen = true) :
    ∃ k s' d', Leads out (job settings) ⟨.wait ⟨report, .gathering .listing⟩, s, d⟩
        ⟨.wait ⟨report.routed (out.rounds report.cycle nodes s.cluster), .scanning
          ((out.rounds report.cycle nodes s.cluster).reconciler settings (out.time k)) .start
            .empty⟩, s', d'⟩ ∧
      Untouched settings.modelCollection s s' ∧
      s'.cluster = (out.rounds report.cycle nodes s.cluster).cluster ∧
      s.asked.length ≤ k ∧ k < s'.asked.length := by
  have hmembers : out.answer .members s = (s.note .members, .ok nodes) := by
    rw [answer_members hq, hm]
  obtain ⟨d₁, hfirst, hg₁⟩ := leads_of_asking settings hq report nodes
    (s.note .members) { d with clock := out.time s.asked.length } rfl
  obtain ⟨d₂, hsecond⟩ := leads_of_routing settings hq _ _
    (out.tell nodes (.gather report.cycle) (s.note .members)) (hg₁ ▸ hg) rfl
  refine ⟨_, _, d₂, .next hmembers rfl (hfirst.trans hsecond), ?_, rfl, ?_, ?_⟩
  · exact (untouched_note rfl).trans (untouched_tell.trans untouched_tell)
  · simp [State.note, Outside.tell]
  · simp [State.note, Outside.tell]

end Cycle

/-! ### Reading all records -/

/-- The records of documents. -/
def Scan.records (documents : List StoredDocument) : List ModelRecord :=
  documents.filterMap recordOf

theorem Scan.records_append (a b : List StoredDocument) :
    records (a ++ b) = records a ++ records b := List.filterMap_append

/-- The corrections of the records of a collection. -/
def Reconciler.corrections (r : Reconciler) (documents : Collection) : List Correction :=
  (Scan.records (MemoryStore.matchesAfter documents Scan.query none)).filterMap r.decide

/-- A stream without an error. -/
theorem Refresh.addStream_ok (r : Reconciler) (refresh : Refresh) (records : List ModelRecord) :
    refresh.addStream r (records.map .ok) = .ok (refresh.addAll r records) := by
  rw [addAll_eq_foldl]
  induction records generalizing refresh with
  | nil => rfl
  | cons record rest ih => exact ih (refresh.add r record)

theorem Refresh.addAll_append (r : Reconciler) (refresh : Refresh) (a b : List ModelRecord) :
    refresh.addAll r (a ++ b) = (refresh.addAll r a).addAll r b := by
  simp [addAll, Nat.add_assoc]

namespace Cycle

open MemoryStore

variable (report : CycleReport) (r : Reconciler) {documents : Collection}

theorem resume_scanning (cursor : Cursor) (refresh : Refresh) (page : SearchPage) (d : Daemon) :
    (resume settings ⟨report, .scanning r cursor refresh⟩ (.ok page)).run d =
      match page.next with
      | some last =>
        (.wait ⟨report, .scanning r (.after last) (refresh.addAll r (Scan.records page.hits))⟩, d)
      | none => (afterScan report (refresh.addAll r (Scan.records page.hits))).run d := by
  have hr := Refresh.addStream_ok r refresh (Scan.records page.hits)
  rw [Scan.records] at hr
  show (afterPage report r refresh (.ok page)).run d = _
  unfold afterPage
  simp only [Scan.read, hr, Scan.records]
  cases page.next <;> rfl

theorem step_scanning (hq : out.Quiet) {s : State γ}
    (hs : s.store.collections.get? settings.modelCollection = some documents) (cursor : Cursor)
    (refresh : Refresh) (d : Daemon) :
    out.step (job settings) ⟨.wait ⟨report, .scanning r cursor refresh⟩, s, d⟩ =
      .after ((resume settings ⟨report, .scanning r cursor refresh⟩
          (.ok (pageOf documents Scan.query (Scan.page settings.pageSize cursor)))).run
            { d with clock := out.time s.asked.length })
        (s.note (Scan.request settings.modelCollection settings.pageSize cursor)) := by
  have ha := answer_search hq settings.modelCollection Scan.query
    (Scan.page settings.pageSize cursor) s
  simp only [search, hs] at ha
  have ha' : out.answer ((job settings).request ⟨report, .scanning r cursor refresh⟩) s = _ := ha
  simp only [step, ha']
  rfl

/-- **A reading takes in the records of all documents after its cursor**, whatever the size of its
pages, and changes nothing. -/
theorem leads_of_scanning (hq : out.Quiet) {s : State γ}
    (hs : s.store.collections.get? settings.modelCollection = some documents) (cursor : Cursor)
    (refresh : Refresh) (d : Daemon) :
    ∃ k s', ∃ d' : Daemon, s.asked.length ≤ k ∧ k < s'.asked.length ∧ d'.clock = out.time k ∧
      Leads out (job settings) ⟨.wait ⟨report, .scanning r cursor refresh⟩, s, d⟩
        (.after ((afterScan report (refresh.addAll r (Scan.records (matchesAfter documents
          Scan.query (Scan.page settings.pageSize cursor).after)))).run d') s') ∧
      Untouched settings.modelCollection s s' ∧ s'.cluster = s.cluster := by
  -- the induction is on what is left to read
  induction hn : (matchesAfter documents Scan.query
      (Scan.page settings.pageSize cursor).after).length
    using Nat.strongRecOn generalizing cursor refresh s d with
  | _ n ih =>
    have hroom : 0 < (Scan.page settings.pageSize cursor).size :=
      Nat.lt_of_lt_of_le Nat.one_pos (Nat.le_max_right _ _)
    have hu : Untouched settings.modelCollection s
        (s.note (Scan.request settings.modelCollection settings.pageSize cursor)) :=
      untouched_note rfl
    have hstep := step_scanning settings report r hq hs cursor refresh d
    rw [resume_scanning] at hstep
    rcases pageOf_cases documents Scan.query hroom with
      hpage | ⟨hits, last, hpage, hne, hleft⟩
    · rw [hpage] at hstep
      refine ⟨s.asked.length, _, { d with clock := out.time s.asked.length }, Nat.le_refl _, ?_,
        rfl, .step ?_, hu, rfl⟩
      · rw [State.length_asked_note]
        omega
      rw [hstep]
      exact .refl _
    · rw [hpage] at hstep
      have hlt : (matchesAfter documents Scan.query (some last)).length < n := by
        have := List.length_pos_iff.2 hne
        rw [← hn, hleft, List.length_append]
        omega
      obtain ⟨k, s', d', hk, hk', hd, hl, hu', hc⟩ := ih _ hlt (hu.documents.trans hs) (.after last)
        (refresh.addAll r (Scan.records hits)) { d with clock := out.time s.asked.length } rfl
      refine ⟨k, s', d', ?_, hk', hd, .step ?_, hu.trans hu', hc⟩
      · rw [State.length_asked_note] at hk
        omega
      · rw [hstep, hleft, Scan.records_append, Refresh.addAll_append]
        exact hl

end Cycle

/-! ### The end -/

/-- The report of a cycle that has done everything. -/
def CycleReport.completed (report : CycleReport) (refresh : Refresh) (bulk : Option BulkOutcome)
    (finishedAt : Instant) : CycleReport :=
  { report with
    scanned := refresh.scanned
    corrections := refresh.corrections
    bulk
    outcome := .completed
    finishedAt }

namespace Cycle

open MemoryStore

variable (report : CycleReport) {documents : Collection}

theorem leads_of_filing (hq : out.Quiet) (s : State γ) (d : Daemon) :
    Leads out (job settings) ⟨.wait ⟨report, .filing⟩, s, d⟩
      (.ended report (s.note .file)
        { d with clock := out.time s.asked.length, lastReport := some report }) :=
  .next (answer_file hq s) rfl (.refl _)

/-- A cycle that has done everything files its report. -/
theorem leads_of_complete (hq : out.Quiet) (refresh : Refresh) (bulk : Option BulkOutcome)
    (s : State γ) (d : Daemon) :
    ∃ d', Leads out (job settings) (.after ((complete report refresh bulk).run d) s)
      (.ended (report.completed refresh bulk d.clock) (s.note .file) d') :=
  ⟨_, leads_of_filing settings _ hq s _⟩

/-- What a cycle does with the documents that it has read: its corrections are none, or the store
refuses to write them, or they are written with a time. -/
inductive Ending (out : Outside γ) (collection : String) (documents : Collection) (time : Instant)
    (s s' : State γ) : List Correction → Option BulkOutcome → Prop
  | idle (h : Untouched collection s s') : Ending out collection documents time s s' [] none
  | refused {corrections : List Correction} {n : Nat} {q : Request} {e : StoreError}
      (hne : corrections ≠ []) (hf : out.fate n q = .failed e)
      (hd : s'.store.collections.get? collection = some documents) :
      Ending out collection documents time s s' corrections
        (some (Write.outcome corrections (.error e)))
  | written {corrections : List Correction} {documents' : Collection} {results : List BulkResult}
      (hne : corrections ≠ [])
      (hu : updateAll collection documents (corrections.map (Write.itemOf time)) =
        (documents', results))
      (hd : s'.store.collections.get? collection = some documents') :
      Ending out collection documents time s s' corrections
        (some (Write.outcome corrections (.ok ⟨results⟩)))

theorem afterScan_of_nil {refresh : Refresh} (h : refresh.corrections = []) :
    afterScan report refresh = complete report refresh none := by
  simp [afterScan, h]

theorem afterScan_of_ne_nil {refresh : Refresh} (h : refresh.corrections ≠ []) (d : Daemon) :
    (afterScan report refresh).run d =
      (.wait ⟨report, .writing refresh ⟨refresh.corrections, d.clock⟩⟩, d) := by
  have hne : refresh.corrections.isEmpty = false := by simpa using h
  unfold afterScan Write.start
  rw [hne]
  rfl

/-- The end of a cycle that writes its corrections and is told what became of them. -/
theorem leads_of_writing (hq : out.Quiet) (refresh : Refresh) (write : Write) {s s' : State γ}
    {reply : Except StoreError BulkResponse} (d : Daemon)
    (ha : out.answer (write.request settings.modelCollection) s = (s', reply)) :
    ∃ d' t, Leads out (job settings) ⟨.wait ⟨report, .writing refresh write⟩, s, d⟩
      (.ended (report.completed refresh (some (Write.outcome write.corrections reply)) t)
        (s'.note .file) d') := by
  obtain ⟨d', hl⟩ := leads_of_complete settings report hq refresh
    (some (Write.outcome write.corrections reply)) s'
    ((Daemon.emitAll report.cycle (Write.events write.corrections reply)).run
      { d with clock := out.time s.asked.length }).2
  exact ⟨d', _, .next ha rfl hl⟩

/-- **A cycle that has read all records writes its corrections, if there are any, and ends.** -/
theorem leads_of_afterScan (hq : out.Quiet) {s : State γ} (refresh : Refresh) (d : Daemon)
    (hs : s.store.collections.get? settings.modelCollection = some documents) :
    ∃ bulk s' d' t, Leads out (job settings) (.after ((afterScan report refresh).run d) s)
        (.ended (report.completed refresh bulk t) s' d') ∧
      Ending out settings.modelCollection documents d.clock s s' refresh.corrections bulk ∧
      s'.cluster = s.cluster ∧ s.asked.length ≤ s'.asked.length := by
  by_cases hne : refresh.corrections = []
  · rw [afterScan_of_nil report hne]
    obtain ⟨d', hl⟩ := leads_of_complete settings report hq refresh none s d
    refine ⟨none, _, d', _, hl, ?_, rfl, by simp [State.note]⟩
    rw [hne]
    exact .idle (untouched_note rfl)
  · rw [afterScan_of_ne_nil report hne]
    let items := refresh.corrections.map (Write.itemOf d.clock)
    have ha := answer_update hq settings.modelCollection items s
    rcases (out.fate s.asked.length (.update settings.modelCollection items)).guard_cases
      (·.bulkUpdate settings.modelCollection items) s.store with ⟨e, hf, hg⟩ | hg
    · rw [hg] at ha
      obtain ⟨d', t, hl⟩ := leads_of_writing settings report hq refresh
        ⟨refresh.corrections, d.clock⟩ d ha
      exact ⟨_, _, d', t, hl, .refused hne hf hs, rfl, by simp [State.note]⟩
    · rw [hg, bulkUpdate_of_some hs] at ha
      obtain ⟨d', t, hl⟩ := leads_of_writing settings report hq refresh
        ⟨refresh.corrections, d.clock⟩ d ha
      refine ⟨_, _, d', t, hl, .written hne rfl ?_, rfl, by simp [State.note]⟩
      exact SortedMap.get?_insert_self ..

end Cycle

end ModelFleet
