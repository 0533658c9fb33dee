import ModelFleet.Proofs.Run.Notices

/-!
# What a cycle sends, step by step

A step of a cycle sends what the answers of the nodes prompt (`Exchange.told`), and a step that ends
the cycle also what the report says of the end (`CycleReport.ending`).  `Cycle.Speaks` lists these
cases, and `Cycle.exists_sends` says that there are no others, whatever the reply, the daemon and
its feed.
-/

namespace ModelFleet

/-! ### The events of an end -/

/-- The events of corrections, as far as the outcome of their writing says them; the reasons of
those that were not written are not in the outcome. -/
def BulkOutcome.events (bulk : BulkOutcome) (unwritten : ModelId → String)
    (corrections : List Correction) : List SyncEvent :=
  match bulk.requestError with
  | some e => [.bulkWriteFailed none e.message]
  | none =>
    corrections.map fun c =>
      if c.model ∈ bulk.failed then .bulkWriteFailed (some c.model) (unwritten c.model)
      else .modelStateCorrected c.model c.fromState c.toState c.fromCount c.toCount

namespace CycleReport

/-- How long a cycle has taken, as far as a count goes. -/
def millis (report : CycleReport) : Nat :=
  min ((report.finishedAt.nanos - report.startedAt.nanos).toNat / 1000000) (2 ^ 64 - 1)

/-- The events of the end of a cycle. -/
def ending (report : CycleReport) (unwritten : ModelId → String) : List SyncEvent :=
  match report.outcome with
  | .noModelIndex => []
  | .aborted cause => [.cycleAborted cause.message]
  | .skipped => [.cycleSkipped "previous refresh still running"]
  | .completed =>
    (report.bulk.getD .empty).events unwritten report.corrections ++
      [.cycleCompleted (.ofNat report.scanned) (.ofNat report.corrections.length)
        (.ofNat report.millis)]

end CycleReport

namespace Write

/-- Why a model was not written, if it was not. -/
def reasonOf (reply : Except StoreError BulkResponse) (model : ModelId) : String :=
  match reply with
  | .error _ => ""
  | .ok response =>
    (((response.failures.filter (·.1 = model.text)).getLast?).map (·.2.message)).getD ""

theorem mem_failed_outcome_iff {corrections : List Correction} (response : BulkResponse)
    {c : Correction} (hc : c ∈ corrections) :
    c.model ∈ (outcome corrections (.ok response)).failed ↔ (errorOf response c).isSome = true := by
  simp only [outcome, List.partition_eq_filter_filter, List.mem_map, List.mem_filter]
  constructor
  · rintro ⟨other, ⟨-, hs⟩, he⟩
    rwa [errorOf, he] at hs
  · intro hs
    exact ⟨c, ⟨hc, hs⟩, rfl⟩

/-- **The outcome of a write says which events were sent**, up to the reasons of failures. -/
theorem events_eq (corrections : List Correction) (reply : Except StoreError BulkResponse) :
    events corrections reply = (outcome corrections reply).events (reasonOf reply) corrections := by
  cases reply with
  | error e => rfl
  | ok response =>
    refine List.map_congr_left fun c hc => ?_
    have hm := mem_failed_outcome_iff response hc
    unfold event
    cases he : errorOf response c with
    | none =>
      rw [if_neg fun h => by simp [he] at hm; exact hm h]
    | some e =>
      rw [if_pos (hm.2 (by rw [he]; rfl))]
      have hr : reasonOf (.ok response) c.model = e.message := by
        unfold errorOf at he
        obtain ⟨failure, hf, rfl⟩ := Option.map_eq_some_iff.1 he
        simp [reasonOf, hf]
      rw [hr]

end Write

/-- The events that the answers of nodes prompt. -/
def Exchange.told : Exchange → List SyncEvent
  | ⟨.broadcast _ (.gather _), answers⟩ => List.filterMap Gather.event? answers
  | ⟨.broadcast _ (.applyRouting ..), answers⟩ => List.filterMap Routing.event? answers
  | _ => []

open Daemon

/-! ### The search for the key -/

namespace Bootstrap

variable {collection keyId : String}

/-- A search sends what belongs to no cycle. -/
def Silent {α : Type} (act : StateM Daemon α) (d : Daemon) : Prop :=
  ∃ news a after, Sends act d news a after ∧ ∀ n ∈ news, n.cycle = none

theorem silent_finish (result : Result) (d : Daemon) : Silent (finish result) d :=
  ⟨[], .over result, { d with keySought := false }, ⟨rfl, fun _ => rfl⟩, nofun⟩

theorem Silent.bind {α β : Type} {act : StateM Daemon α} {goOn : α → StateM Daemon β} {d : Daemon}
    (h : Silent act d) (g : ∀ a after, Silent (goOn a) after) : Silent (act >>= goOn) d := by
  obtain ⟨news, a, after, hs, hn⟩ := h
  obtain ⟨news', b, d', hs', hn'⟩ := g a after
  refine ⟨news ++ news', b, d', hs.bind hs', fun n hm => ?_⟩
  rcases List.mem_append.1 hm with hm | hm
  · exact hn n hm
  · exact hn' n hm

theorem silent_installStored (source : Json) (status : KeyStatus) (d : Daemon) :
    Silent (installStored source status) d := by
  cases hk : keyOf source with
  | error e =>
    exact ⟨[], _, d, ⟨rfl, fun feed => installStored_of_error (d := { d with feed }) hk status⟩,
      nofun⟩
  | ok key =>
    by_cases hf : d.ring.fingerprint = some key.fingerprint
    · exact ⟨[], _, d,
        ⟨rfl, fun feed => installStored_of_held (d := { d with feed }) hk hf status⟩, nofun⟩
    cases hr : d.ring.refuses with
    | true =>
      exact ⟨[], _, d,
        ⟨rfl, fun feed => installStored_of_refuses (d := { d with feed }) hk hf hr status⟩, nofun⟩
    | false =>
      let news : List Notice :=
        if status = .adopted then [⟨none, .masterKeyAdopted key.fingerprint⟩] else []
      refine ⟨news, .ok status,
        { d with ring := { d.ring with held := some key, installs := d.ring.installs + 1 } },
        ⟨rfl, fun feed => ?_⟩, fun n hn => ?_⟩
      · rw [installStored_of_new (d := { d with feed }) hk hf hr status]
        simp only [news, feedAfter]
        split <;> rfl
      · simp only [news] at hn
        split at hn
        · rw [List.mem_singleton.1 hn]
        · cases hn

theorem silent_offer (d : Daemon) : Silent offer d := by
  cases hr : d.ring.refuses with
  | true =>
    exact ⟨[], _, { d with ring := d.ring.draw, keySought := false },
      ⟨rfl, fun feed => offer_of_refuses (d := { d with feed }) hr⟩, nofun⟩
  | false =>
    exact ⟨[], .wait (.creating d.ring.next ⟨d.ring.next.encode, d.clock⟩),
      { d with
        ring := { d.ring.draw with held := some d.ring.next, installs := d.ring.installs + 1 } },
      ⟨rfl, fun feed => offer_of_accepts (d := { d with feed }) hr⟩, nofun⟩

theorem silent_resume (b : Bootstrap) (reply : (b.request collection keyId).Reply) (d : Daemon) :
    Silent (resume collection keyId b reply) d := by
  cases b with
  | queueing =>
    exact ⟨[], .wait .reading, { d with keySought := true }, ⟨rfl, fun _ => rfl⟩, nofun⟩
  | reading =>
    match reply with
    | .error e => exact silent_finish _ d
    | .ok none => exact silent_offer d
    | .ok (some source) => exact (silent_installStored source .installed d).bind silent_finish
  | creating key record =>
    match reply with
    | .ok () =>
      refine ⟨[⟨none, .masterKeyCreated key.fingerprint⟩], .over (.ok .created),
        { d with keySought := false }, ⟨rfl, fun _ => rfl⟩, fun n hn => ?_⟩
      rw [List.mem_singleton.1 hn]
    | .error (.conflict _) => exact ⟨[], .wait .rereading, d, .pure _ d, nofun⟩
    | .error (.notFound _) | .error (.invalidData _) | .error (.transport _) =>
      exact silent_finish _ d
  | rereading =>
    match reply with
    | .error e => exact silent_finish _ d
    | .ok none => exact silent_finish _ d
    | .ok (some source) => exact (silent_installStored source .adopted d).bind silent_finish

end Bootstrap

/-! ### The steps of a cycle -/

namespace Cycle

/-- Whether all that a cycle has left to do is to file its report. -/
def isFiling (cycle : Cycle) : Bool :=
  match cycle.stage with
  | .filing => true
  | _ => false

/-- **What a step of a cycle sends under its name**, by where it stands and what it does next. -/
inductive Speaks : Cycle → Exchange → Next Cycle CycleReport → List SyncEvent → Prop
  | goesOn {cycle cycle' : Cycle} {x : Exchange} {events : List SyncEvent}
      (hr : cycle'.report.cycle = cycle.report.cycle) (h : cycle.isFiling = false)
      (h' : cycle'.isFiling = false) (he : events = x.told) :
      Speaks cycle x (.wait cycle') events
  | ends {cycle : Cycle} {report : CycleReport} {x : Exchange} {events : List SyncEvent}
      (unwritten : ModelId → String) (hr : report.cycle = cycle.report.cycle)
      (h : cycle.isFiling = false) (he : events = x.told ++ report.ending unwritten) :
      Speaks cycle x (.wait ⟨report, .filing⟩) events
  | files {report : CycleReport} : Speaks ⟨report, .filing⟩ ⟨.file, ()⟩ (.over report) []

variable (settings : SyncSettings) (d : Daemon)

/-- What a step sends, whatever was sent before, and what of it is under the name of the cycle. -/
def Announces (cycle : Cycle) (reply : (cycle.request settings).Reply) : Prop :=
  ∃ news next after, Sends (cycle.resume settings reply) d news next after ∧
    Notice.Confined cycle.report.cycle news ∧
    Speaks cycle ⟨cycle.request settings, reply⟩ next (Notice.ownEvents cycle.report.cycle news)

variable {settings d}

/-- A step all of whose events are under the name of the cycle. -/
theorem announces_of_sends {cycle : Cycle} {reply : (cycle.request settings).Reply}
    (events : List SyncEvent) {next : Next Cycle CycleReport} {after : Daemon}
    (h : Sends (cycle.resume settings reply) d (Notice.ofCycle cycle.report.cycle events) next
      after)
    (hs : Speaks cycle ⟨cycle.request settings, reply⟩ next events) :
    Announces settings d cycle reply := by
  refine ⟨_, next, after, h, Notice.confined_ofCycle events, ?_⟩
  rwa [Notice.ownEvents_ofCycle]

variable (settings) (report : CycleReport) (d)

theorem sends_finish (outcome : Outcome) :
    Sends (finish report outcome) d [] (.wait ⟨report.close outcome d.clock, .filing⟩) d :=
  ⟨rfl, fun _ => rfl⟩

theorem sends_abort (cause : AbortCause) :
    Sends (abort report cause) d (Notice.ofCycle report.cycle [.cycleAborted cause.message])
      (.wait ⟨report.close (.aborted cause) d.clock, .filing⟩) d := ⟨rfl, fun _ => rfl⟩

theorem sends_complete (refresh : Refresh) (bulk : Option BulkOutcome) :
    Sends (complete report refresh bulk) d
      (Notice.ofCycle report.cycle
        [.cycleCompleted (.ofNat refresh.scanned) (.ofNat refresh.corrections.length)
          (.ofNat (report.completed refresh bulk d.clock).millis)])
      (.wait ⟨report.completed refresh bulk d.clock, .filing⟩) { d with gate := ⟨false⟩ } :=
  ⟨rfl, fun _ => rfl⟩

theorem sends_afterRouting_of_open (state : Aggregate) (outcome : RoutingOutcome)
    (h : d.gate.isOpen = true) :
    Sends (afterRouting settings report state outcome) d []
      (.wait ⟨{ report with routing := some outcome },
        .scanning ⟨settings.graceMillis, state.afterRouting outcome, d.clock⟩ .start .empty⟩)
      { d with gate := ⟨true⟩ } :=
  ⟨rfl, fun feed => afterRouting_of_open (d := { d with feed }) settings report state outcome h⟩

theorem sends_afterRouting_of_closed (state : Aggregate) (outcome : RoutingOutcome)
    (h : d.gate.isOpen = false) :
    Sends (afterRouting settings report state outcome) d
      (Notice.ofCycle report.cycle [.cycleSkipped "previous refresh still running"])
      (.wait ⟨{ report with routing := some outcome }.close .skipped d.clock, .filing⟩) d := by
  have hg : d.gate.taken = true := by simpa [Gate.isOpen] using h
  refine ⟨rfl, fun feed => ?_⟩
  unfold afterRouting Daemon.enterGate
  simp [Gate.enter, hg]
  rfl

/-- The events that answers prompt, and then what another step sends. -/
theorem sends_after_events {α : Type} {act : StateM Daemon α} {id : CycleId}
    {events events' : List SyncEvent} {a : α} {after : Daemon}
    (h : Sends act d (Notice.ofCycle id events') a after) :
    Sends (do Daemon.emitAll id events; act) d (Notice.ofCycle id (events ++ events')) a after := by
  rw [Notice.ofCycle, List.map_append]
  exact (sends_emitAll id events d).bind h

theorem announces_bootstrapping (b : Bootstrap)
    (reply : (b.request settings.configCollection settings.masterKeyId).Reply) :
    Announces settings d ⟨report, .bootstrapping b⟩ reply := by
  obtain ⟨news, next, after, hs, hn⟩ := Bootstrap.silent_resume b reply d
  have htold : Exchange.told ⟨b.request settings.configCollection settings.masterKeyId, reply⟩ =
      [] := by cases b <;> rfl
  have hconfined : Notice.Confined report.cycle news := fun n hm => .inl (hn n hm)
  have hown : Notice.ownEvents report.cycle news = [] := Notice.ownEvents_of_none hn
  match next with
  | .wait b' =>
    refine ⟨news ++ [], _, after, hs.bind (.pure _ after), ?_, .goesOn rfl rfl rfl ?_⟩
    · rwa [List.append_nil]
    · rw [List.append_nil]
      exact hown.trans htold.symm
  | .over (.ok status) =>
    refine ⟨news ++ [], _, after, hs.bind (.pure _ after), ?_, .goesOn rfl rfl rfl ?_⟩
    · rwa [List.append_nil]
    · rw [List.append_nil]
      exact hown.trans htold.symm
  | .over (.error e) =>
    refine ⟨_, _, after, hs.bind (sends_abort after report (.bootstrap e)),
      hconfined.append (Notice.confined_ofCycle _), .ends (fun _ => "") rfl rfl ?_⟩
    rw [Notice.ownEvents_append, Notice.ownEvents_ofCycle]
    exact congrArg (· ++ _) (hown.trans htold.symm)

theorem announces_probing (reply : Except StoreError Bool) :
    Announces settings d ⟨report, .probing⟩ reply := by
  match reply with
  | .ok true => exact announces_of_sends [] (.pure _ d) (.goesOn rfl rfl rfl rfl)
  | .ok false =>
    exact announces_of_sends [] (sends_finish d report .noModelIndex)
      (.ends (fun _ => "") rfl rfl rfl)
  | .error e =>
    exact announces_of_sends _ (sends_abort d report _) (.ends (fun _ => "") rfl rfl rfl)

theorem announces_gathering (g : Gather) (reply : (g.request report.cycle).Reply) :
    Announces settings d ⟨report, .gathering g⟩ reply := by
  cases g with
  | listing =>
    match reply with
    | .ok nodes => exact announces_of_sends [] (.pure _ d) (.goesOn rfl rfl rfl rfl)
    | .error e =>
      exact announces_of_sends _ (sends_abort d report _) (.ends (fun _ => "") rfl rfl rfl)
  | asking nodes =>
    have hsent : Sends (resume settings ⟨report, .gathering (.asking nodes)⟩ reply) d
        (Notice.ofCycle report.cycle (List.filterMap Gather.event? reply ++ []))
        (.wait ⟨{ report with
          responded := (Gather.state reply).responded
          failed := (Gather.state reply).failed }, .routing ⟨Gather.state reply⟩⟩) d :=
      sends_after_events d (.pure _ d)
    exact announces_of_sends _ hsent (.goesOn rfl rfl rfl (List.append_nil _))

theorem announces_routing (r : Routing) (answers : List Answer) :
    Announces settings d ⟨report, .routing r⟩ answers := by
  cases hg : d.gate.isOpen with
  | true =>
    have hsent : Sends (resume settings ⟨report, .routing r⟩ answers) d
        (Notice.ofCycle report.cycle (answers.filterMap Routing.event? ++ [])) _ _ :=
      sends_after_events d
        (sends_afterRouting_of_open settings d report r.state (Routing.outcome answers) hg)
    exact announces_of_sends _ hsent (.goesOn rfl rfl rfl (List.append_nil _))
  | false =>
    have hsent : Sends (resume settings ⟨report, .routing r⟩ answers) d
        (Notice.ofCycle report.cycle (answers.filterMap Routing.event? ++ _)) _ _ :=
      sends_after_events d
        (sends_afterRouting_of_closed settings d report r.state (Routing.outcome answers) hg)
    exact announces_of_sends _ hsent (.ends (fun _ => "") rfl rfl rfl)

theorem announces_scanning (r : Reconciler) (cursor : Cursor) (refresh : Refresh)
    (reply : Except StoreError SearchPage) :
    Announces settings d ⟨report, .scanning r cursor refresh⟩ reply := by
  have hresume : resume settings ⟨report, .scanning r cursor refresh⟩ reply =
      afterPage report r refresh reply := rfl
  unfold afterPage at hresume
  cases ha : refresh.addStream r (Scan.read reply).1 with
  | error e =>
    simp only [ha] at hresume
    have hsent : Sends (resume settings ⟨report, .scanning r cursor refresh⟩ reply) d
        (Notice.ofCycle report.cycle [.cycleAborted (AbortCause.scan e).message])
        (.wait ⟨report.close (.aborted (.scan e)) d.clock, .filing⟩)
        { d with gate := ⟨false⟩ } := by
      rw [hresume]
      exact ⟨rfl, fun _ => rfl⟩
    exact announces_of_sends _ hsent (.ends (fun _ => "") rfl rfl rfl)
  | ok refresh' =>
    cases hn : (Scan.read reply).2 with
    | some cursor' =>
      simp only [ha, hn] at hresume
      have hsent : Sends (resume settings ⟨report, .scanning r cursor refresh⟩ reply) d []
          (.wait ⟨report, .scanning r cursor' refresh'⟩) d := by
        rw [hresume]
        exact .pure _ d
      exact announces_of_sends [] hsent (.goesOn rfl rfl rfl rfl)
    | none =>
      simp only [ha, hn] at hresume
      by_cases hc : refresh'.corrections = []
      · rw [afterScan_of_nil report hc] at hresume
        have hsent := sends_complete d report refresh' none
        rw [← hresume] at hsent
        refine announces_of_sends _ hsent (.ends (fun _ => "") rfl rfl ?_)
        rw [CycleReport.completed, hc]
        rfl
      · have hsent : Sends (resume settings ⟨report, .scanning r cursor refresh⟩ reply) d []
            (.wait ⟨report, .writing refresh' ⟨refresh'.corrections, d.clock⟩⟩) d := by
          refine ⟨rfl, fun feed => ?_⟩
          rw [hresume, afterScan_of_ne_nil report hc]
          rfl
        exact announces_of_sends [] hsent (.goesOn rfl rfl rfl rfl)

theorem announces_writing (refresh : Refresh) (write : Write)
    (hw : write.corrections = refresh.corrections) (reply : Except StoreError BulkResponse) :
    Announces settings d ⟨report, .writing refresh write⟩ reply := by
  have hsent : Sends (resume settings ⟨report, .writing refresh write⟩ reply) d
      (Notice.ofCycle report.cycle (Write.events write.corrections reply ++ _)) _ _ :=
    sends_after_events d
      (sends_complete d report refresh (some (Write.outcome write.corrections reply)))
  refine announces_of_sends _ hsent (.ends (Write.reasonOf reply) rfl rfl ?_)
  rw [Write.events_eq, hw]
  rfl

/-- **There is nothing else that a step of a cycle sends**, if it writes what it has read. -/
theorem announces (cycle : Cycle) (reply : (cycle.request settings).Reply)
    (h : ∀ refresh write, cycle.stage = .writing refresh write →
      write.corrections = refresh.corrections) : Announces settings d cycle reply := by
  obtain ⟨report, stage⟩ := cycle
  cases stage with
  | bootstrapping b => exact announces_bootstrapping settings d report b reply
  | probing => exact announces_probing settings d report reply
  | gathering g => exact announces_gathering settings d report g reply
  | routing r => exact announces_routing settings d report r reply
  | scanning r cursor refresh => exact announces_scanning settings d report r cursor refresh reply
  | writing refresh write =>
    exact announces_writing settings d report refresh write (h _ _ rfl) reply
  | filing =>
    have hsent : Sends (resume settings ⟨report, .filing⟩ reply) d [] (.over report)
        { d with lastReport := some report } := ⟨rfl, fun _ => rfl⟩
    exact announces_of_sends [] hsent .files

end Cycle

end ModelFleet
