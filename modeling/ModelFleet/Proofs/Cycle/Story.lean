import ModelFleet.Proofs.Cycle.Announcement
import ModelFleet.Proofs.Node.Gathering
import ModelFleet.Proofs.Run.Trail

/-!
# The events of a cycle and its report

`CycleReport.story` reads off a report, and off the list of the nodes that take part, which events
the cycle has sent under its name and in which order; only the words in which failures are explained
are not in the report.  `Cycle.accords_of_chronicle` says that a cycle has sent exactly these,
whatever it was replied and whatever else happened to its daemon.
-/

namespace ModelFleet

/-! ### What a report says of the events -/

/-- The words in which the events of a cycle explain failures. -/
structure Reasons where
  silent : NodeId → String
  untold : NodeId → String
  unwritten : ModelId → String

/-- The events of the second round that are about a node. -/
def RoutingOutcome.eventsAbout (outcome : RoutingOutcome) (untold : NodeId → String)
    (node : NodeId) : List SyncEvent :=
  (match outcome.undeployed.get? node with
    | some models => [.expiredModelsUndeployed node models.toList]
    | none => []) ++
  if node ∈ outcome.failed then [.nodeUnreachable node (untold node)] else []

namespace CycleReport

variable (report : CycleReport)

/-- The events of the first round, for which these nodes were listed. -/
def firstRound (nodes : List NodeId) (silent : NodeId → String) : List SyncEvent :=
  (nodes.filter (· ∈ report.failed)).map fun node => .nodeUnreachable node (silent node)

/-- The events of the second round, if there was one. -/
def secondRound (untold : NodeId → String) : List SyncEvent :=
  match report.routing with
  | none => []
  | some outcome =>
    (report.responded ∪ report.failed).toList.flatMap (outcome.eventsAbout untold)

/-- **The events of a cycle, as its report tells them.** -/
def story (nodes : List NodeId) (why : Reasons) : List SyncEvent :=
  .cycleStarted :: (report.firstRound nodes why.silent ++ report.secondRound why.untold ++
    report.ending why.unwritten)

end CycleReport

/-! ### The two rounds -/

/-- A value for each key, from a list in which no key occurs twice. -/
theorem exists_eq_of_nodup_map {α κ β : Type} [Inhabited β] {l : List α} {key : α → κ}
    (h : (l.map key).Nodup) (g : α → β) : ∃ f : κ → β, ∀ a ∈ l, f (key a) = g a := by
  classical
  refine ⟨fun k => if hk : ∃ a ∈ l, key a = k then g hk.choose else default, fun a ha => ?_⟩
  have hk : ∃ b ∈ l, key b = key a := ⟨a, ha, rfl⟩
  show (if hk : ∃ b ∈ l, key b = key a then g hk.choose else default) = g a
  rw [dif_pos hk, List.inj_on_of_nodup_map h hk.choose_spec.1 ha hk.choose_spec.2]

/-- Events that answers prompt one by one, by the nodes that answer. -/
theorem filterMap_eq_flatMap {answers : List Answer} {event? : Answer → Option SyncEvent}
    {f : NodeId → List SyncEvent} (h : ∀ a ∈ answers, (event? a).toList = f a.1) :
    answers.filterMap event? = (answers.map (·.1)).flatMap f := by
  induction answers with
  | nil => rfl
  | cons a rest ih =>
    rw [List.map_cons, List.flatMap_cons, ← h a List.mem_cons_self,
      ← ih fun b hb => h b (List.mem_cons_of_mem a hb), List.filterMap_cons]
    cases event? a <;> rfl

namespace Gather

variable {answers : List Answer}

/-- Of nodes that answer once each, those have failed whose answers do not count. -/
theorem mem_failed_state_of_mem (h : (answers.map (·.1)).Nodup) {a : Answer} (ha : a ∈ answers) :
    a.1 ∈ (state answers).failed ↔ ∃ e, reportOf a = .error e := by
  rw [mem_failed_state, mem_responded_state]
  constructor
  · rintro ⟨-, hnot⟩
    cases hr : reportOf a with
    | error e => exact ⟨e, rfl⟩
    | ok report =>
      exact absurd ⟨report, mem_reports_iff.2 ⟨a, ha, hr⟩, node_of_reportOf hr⟩ hnot
  · rintro ⟨e, he⟩
    refine ⟨List.mem_map_of_mem ha, ?_⟩
    rintro ⟨report, hr, hnode⟩
    obtain ⟨b, hb, ho⟩ := mem_reports_iff.1 hr
    obtain rfl := List.inj_on_of_nodup_map h hb ha ((node_of_reportOf ho).symm.trans hnode)
    rw [he] at ho
    cases ho

/-- Why an answer does not count. -/
def reasonOf (a : Answer) : String :=
  match reportOf a with
  | .ok _ => ""
  | .error e => e.message

/-- **The first round sends an event for each node that has failed**, in the order of asking. -/
theorem exists_events_eq (h : (answers.map (·.1)).Nodup) :
    ∃ silent : NodeId → String, answers.filterMap event? =
      ((answers.map (·.1)).filter (· ∈ (state answers).failed)).map fun node =>
        .nodeUnreachable node (silent node) := by
  obtain ⟨silent, hs⟩ := exists_eq_of_nodup_map h reasonOf
  refine ⟨silent, ?_⟩
  rw [List.filter_map, List.map_map, ← List.filterMap_eq_map, List.filterMap_filter]
  refine List.filterMap_congr fun a ha => ?_
  have hm := mem_failed_state_of_mem h ha
  have hreason := hs a ha
  unfold reasonOf at hreason
  unfold event?
  cases hr : reportOf a with
  | ok report =>
    have hnot : a.1 ∉ (state answers).failed := fun hf => by
      obtain ⟨e, he⟩ := hm.1 hf
      rw [hr] at he
      cases he
    simp [hnot]
  | error e =>
    rw [hr] at hreason
    simp [hm.2 ⟨e, hr⟩, hreason, ClusterError.event]

end Gather

namespace Routing

variable {receipts : List Answer}

theorem mem_failed_outcome_of_mem (h : (receipts.map (·.1)).Nodup) {a : Answer}
    (ha : a ∈ receipts) : a.1 ∈ (outcome receipts).failed ↔ ∃ e, undeployedOf a = .error e := by
  rw [mem_failed_outcome]
  constructor
  · rintro ⟨b, hb, hname, he⟩
    rwa [List.inj_on_of_nodup_map h hb ha hname] at he
  · intro he
    exact ⟨a, ha, rfl, he⟩

theorem get?_undeployed_outcome_of_mem (models : SortedSet ModelId)
    (h : (receipts.map (·.1)).Nodup) {a : Answer} (ha : a ∈ receipts) :
    (outcome receipts).undeployed.get? a.1 = some models ↔
      models.isEmpty = false ∧ undeployedOf a = .ok models := by
  rw [get?_undeployed_outcome_iff h]
  refine and_congr_right fun _ => ?_
  obtain ⟨node, result⟩ := a
  rw [undeployedOf_eq_ok_iff]
  refine exists_congr fun named => ⟨fun hm => ?_, ?_⟩
  · exact congrArg Prod.snd (List.inj_on_of_nodup_map h ha hm rfl)
  · rintro rfl
    exact ha

/-- Why an answer acknowledges nothing. -/
def reasonOf (a : Answer) : String :=
  match undeployedOf a with
  | .ok _ => ""
  | .error e => e.message

/-- **The second round sends for each node what its outcome says of the node**, in the order of
asking. -/
theorem exists_events_eq (h : (receipts.map (·.1)).Nodup) :
    ∃ untold : NodeId → String, receipts.filterMap event? =
      (receipts.map (·.1)).flatMap ((outcome receipts).eventsAbout untold) := by
  obtain ⟨untold, hs⟩ := exists_eq_of_nodup_map h reasonOf
  refine ⟨untold, filterMap_eq_flatMap fun a ha => ?_⟩
  have hfailed := mem_failed_outcome_of_mem h ha
  have hnoted (models : SortedSet ModelId) :=
    get?_undeployed_outcome_of_mem models h ha
  have hreason := hs a ha
  unfold reasonOf at hreason
  unfold event? RoutingOutcome.eventsAbout
  cases hu : undeployedOf a with
  | error e =>
    have hnone : (outcome receipts).undeployed.get? a.1 = none := by
      rw [Option.eq_none_iff_forall_ne_some]
      intro models hm
      have := (hnoted models).1 hm
      simp [hu] at this
    rw [hu] at hreason
    rw [if_pos (hfailed.2 ⟨e, hu⟩), hnone, hreason]
    rfl
  | ok undeployed =>
    have hnot : a.1 ∉ (outcome receipts).failed := fun hf => by
      obtain ⟨e, he⟩ := hfailed.1 hf
      rw [hu] at he
      cases he
    rw [if_neg hnot, List.append_nil]
    cases he : undeployed.isEmpty with
    | true =>
      have hnone : (outcome receipts).undeployed.get? a.1 = none := by
        rw [Option.eq_none_iff_forall_ne_some]
        intro models hm
        obtain ⟨hne, hm⟩ := (hnoted models).1 hm
        rw [hu] at hm
        cases hm
        rw [he] at hne
        cases hne
      simp only [hnone, he]
      rfl
    | false =>
      simp only [(hnoted undeployed).2 ⟨he, hu⟩, he]
      rfl

end Routing

/-! ### What a cycle has sent so far -/

/-- The nodes that an exchange lists. -/
def Exchange.listing? : Exchange → Option (List NodeId)
  | ⟨.members, .ok nodes⟩ => some nodes
  | _ => none

/-- The nodes that take part in a cycle, as they were listed to it. -/
def Exchange.listing (trail : List Exchange) : List NodeId := (trail.findSome? listing?).getD []

/-- Whether the nodes to which a message was sent have answered once each, in the order of
sending. -/
def Exchange.Answered : Exchange → Prop
  | ⟨.broadcast nodes _, answers⟩ => List.map (·.1) answers = nodes
  | _ => True

namespace Cycle

variable {settings : SyncSettings} {id : CycleId} {now : Instant} {trail : List Exchange}
  {report : CycleReport} {x : Exchange}

/-- The events of a cycle that has begun under a name, by what it has asked for. -/
def Told (id : CycleId) (trail : List Exchange) (events : List SyncEvent) :
    Next Cycle CycleReport → Prop
  | .wait cycle => cycle.report.cycle = id ∧
    if cycle.isFiling then
      ∃ unwritten, events = .cycleStarted :: (trail.flatMap Exchange.told ++
        cycle.report.ending unwritten)
    else events = .cycleStarted :: trail.flatMap Exchange.told
  | .over report => report.cycle = id ∧ ∃ unwritten,
      events = .cycleStarted :: (trail.flatMap Exchange.told ++ report.ending unwritten)

theorem Told.step {cycle : Cycle} {next : Next Cycle CycleReport} {events news : List SyncEvent}
    (h : Told id trail events (.wait cycle)) (hs : Speaks cycle x next news) :
    Told id (trail ++ [x]) (events ++ news) next := by
  obtain ⟨hid, h⟩ := h
  cases hs with
  | goesOn hr hc hc' he =>
    rw [if_neg (by rw [hc]; exact Bool.false_ne_true)] at h
    refine ⟨hr.trans hid, ?_⟩
    rw [if_neg (by rw [hc']; exact Bool.false_ne_true), h, he]
    simp
  | ends unwritten hr hc he =>
    rw [if_neg (by rw [hc]; exact Bool.false_ne_true)] at h
    refine ⟨hr.trans hid, unwritten, ?_⟩
    rw [h, he]
    simp
  | files =>
    obtain ⟨unwritten, h⟩ := h
    refine ⟨hid, unwritten, ?_⟩
    rw [h]
    simp [Exchange.told]

theorem Stands.corrections_eq {cycle : Cycle} (h : Stands settings id now trail cycle)
    {refresh : Refresh} {write : Write} (hs : cycle.stage = .writing refresh write) :
    write.corrections = refresh.corrections := by
  cases h with
  | writing =>
    cases hs
    rfl
  | _ => cases hs

/-- What has come of a cycle that began on some daemon, and what it has sent. -/
abbrev Chronicle (settings : SyncSettings) (d : Daemon) :
    List Exchange → List Notice → Next Cycle CycleReport → Prop :=
  (job settings).Chronicle (start.run d).1 (Daemon.said start d)

variable {d : Daemon} {notes : List Notice} {next : Next Cycle CycleReport}

theorem sends_start (d : Daemon) :
    Daemon.Sends start d (Notice.ofCycle (.ofNat (d.begun + 1)) [.cycleStarted])
      (.wait ⟨.fresh (.ofNat (d.begun + 1)) d.clock, .bootstrapping .queueing⟩)
      { d with begun := d.begun + 1 } := ⟨rfl, fun _ => rfl⟩

/-- **What a cycle has sent at any time.** -/
theorem told_of_chronicle (h : Chronicle settings d trail notes next) :
    Notice.Confined (.ofNat (d.begun + 1)) notes ∧
      Told (.ofNat (d.begun + 1)) trail (Notice.ownEvents (.ofNat (d.begun + 1)) notes) next := by
  induction h with
  | start =>
    rw [(sends_start d).said_eq]
    exact ⟨Notice.confined_ofCycle _, rfl, Notice.ownEvents_ofCycle _⟩
  | @step trail notes cycle h reply e ih =>
    obtain ⟨hconfined, htold⟩ := ih
    have hstands := went_of_course h.course
    obtain ⟨news, next, after, hsends, hnews, hspeaks⟩ :=
      announces settings e cycle reply fun _ _ => hstands.corrections_eq
    rw [htold.1] at hnews hspeaks
    have hsaid : Daemon.said ((job settings).resume cycle reply) e = news := hsends.said_eq
    have hresult : (((job settings).resume cycle reply).run e).1 = next := hsends.result_eq
    rw [hsaid, hresult, Notice.ownEvents_append]
    exact ⟨hconfined.append hnews, htold.step hspeaks⟩

/-- What a step of a cycle sends goes to the feed of its daemon, whatever is in it. -/
theorem feed_of_chronicle {cycle : Cycle} (h : Chronicle settings d trail notes (.wait cycle))
    (reply : (cycle.request settings).Reply) (e : Daemon) :
    ((cycle.resume settings reply).run e).2.feed =
      e.feed.sendAll e.clock (Daemon.said (cycle.resume settings reply) e) := by
  obtain ⟨news, next, after, hsends, -⟩ :=
    announces settings e cycle reply fun _ _ => (went_of_course h.course).corrections_eq
  exact hsends.feed_eq

/-! ### What the nodes have prompted -/

/-- Whether an exchange has nothing to do with the nodes. -/
def Aside (x : Exchange) : Prop :=
  x.request ≠ .members ∧ ∀ nodes message, x.request ≠ .broadcast nodes message

theorem Aside.told_eq_nil (h : Aside x) : x.told = [] := by
  obtain ⟨request, reply⟩ := x
  cases request with
  | broadcast nodes message => exact absurd rfl (h.2 nodes message)
  | _ => rfl

theorem Aside.listing?_eq_none (h : Aside x) : x.listing? = none := by
  obtain ⟨request, reply⟩ := x
  cases request with
  | members => exact absurd rfl h.1
  | _ => rfl

theorem flatMap_told_of_aside (h : ∀ x ∈ trail, Aside x) : trail.flatMap Exchange.told = [] :=
  List.flatMap_eq_nil_iff.2 fun x hx => (h x hx).told_eq_nil

theorem Seeking.aside {keys : List Exchange} {next : Next Bootstrap Bootstrap.Result}
    (h : Seeking settings keys next) (hx : x ∈ keys) : Aside x := by
  obtain ⟨b, hb⟩ := h.exists_state_of_mem hx
  unfold Aside
  rw [hb]
  cases b <;> exact ⟨nofun, nofun⟩

theorem Keyed.aside {keys : List Exchange} (h : Keyed settings keys) (hx : x ∈ keys) : Aside x := by
  obtain ⟨_, h⟩ := h
  exact h.aside hx

theorem Reading.aside {r : Reconciler} {pages : List Exchange} {refresh : Refresh}
    {next : Option Cursor} (h : Reading settings r pages refresh next) (hx : x ∈ pages) :
    Aside x := by
  induction h with
  | start => cases hx
  | page _ _ _ ih =>
    rcases List.mem_append.1 hx with hx | hx
    · exact ih hx
    · rw [List.mem_singleton.1 hx]
      exact ⟨nofun, nofun⟩

/-- Of a cycle that has ended, the nodes have not been asked anything, or the cycle has come through
both rounds and has not asked them anything since. -/
inductive Heard (settings : SyncSettings) (id : CycleId) (trail : List Exchange)
    (report : CycleReport) : Prop
  | nothing (ht : trail.flatMap Exchange.told = []) (hf : report.failed = ∅)
      (hr : report.routing = none)
  | rounds (o : Opening settings) {rest : List Exchange} (ht : trail = o.trail id ++ rest)
      (ha : ∀ x ∈ rest, Aside x) (hr : report.responded = o.state.responded)
      (hf : report.failed = o.state.failed)
      (ho : report.routing = some (Routing.outcome o.receipts))

theorem Closed.heard (h : Closed settings id now trail report) :
    Heard settings id trail report := by
  cases h with
  | keyless h => exact .nothing (flatMap_told_of_aside fun x hx => h.aside hx) rfl rfl
  | noModelIndex h | unprobed h | unlisted h =>
    refine .nothing ?_ rfl rfl
    rw [List.flatMap_append, flatMap_told_of_aside fun x hx => h.aside hx]
    rfl
  | skipped o => exact .rounds o (List.append_nil _).symm nofun rfl rfl rfl
  | unread o h =>
    refine .rounds o (List.append_assoc ..) (fun x hx => ?_) rfl rfl rfl
    rcases List.mem_append.1 hx with hx | hx
    · exact h.aside hx
    · rw [List.mem_singleton.1 hx]
      exact ⟨nofun, nofun⟩
  | idle o h => exact .rounds o rfl (fun x hx => h.aside hx) rfl rfl rfl
  | written o h =>
    refine .rounds o (List.append_assoc ..) (fun x hx => ?_) rfl rfl rfl
    rcases List.mem_append.1 hx with hx | hx
    · exact h.aside hx
    · rw [List.mem_singleton.1 hx]
      exact ⟨nofun, nofun⟩

namespace Opening

variable (o : Opening settings)

theorem flatMap_told : (o.trail id).flatMap Exchange.told =
    o.reports.filterMap Gather.event? ++ o.receipts.filterMap Routing.event? := by
  rw [trail, List.flatMap_append, flatMap_told_of_aside fun x hx => o.keyed.aside hx]
  show (gathered id o.nodes o.reports).told ++ ((routed id o.state o.receipts).told ++ []) = _
  rw [List.append_nil]
  rfl

theorem listing_eq (rest : List Exchange) : Exchange.listing (o.trail id ++ rest) = o.nodes := by
  have hkeys : o.keys.findSome? Exchange.listing? = none :=
    List.findSome?_eq_none_iff.2 fun x hx => (o.keyed.aside hx).listing?_eq_none
  rw [Exchange.listing, trail, List.append_assoc, List.findSome?_append, hkeys]
  rfl

end Opening

/-- **What the nodes have prompted is what the report says of the two rounds.** -/
theorem Heard.exists_rounds (h : Heard settings id trail report)
    (ha : ∀ x ∈ trail, x.Answered) (hn : (Exchange.listing trail).Nodup) :
    (∀ node ∈ report.failed, node ∈ Exchange.listing trail) ∧
      ∃ silent untold, trail.flatMap Exchange.told =
        report.firstRound (Exchange.listing trail) silent ++ report.secondRound untold := by
  cases h with
  | nothing ht hf hr =>
    refine ⟨fun node hm => ?_, fun _ => "", fun _ => "", ?_⟩
    · rw [hf] at hm
      cases hm
    · simp [ht, CycleReport.firstRound, CycleReport.secondRound, hf, hr]
  | @rounds o rest ht haside hr hf ho =>
    subst ht
    rw [o.listing_eq] at hn ⊢
    have hreports : o.reports.map (·.1) = o.nodes :=
      ha (gathered id o.nodes o.reports) (by simp [Opening.trail])
    have hreceipts : o.receipts.map (·.1) = o.state.nodes.toList :=
      ha (routed id o.state o.receipts) (by simp [Opening.trail])
    obtain ⟨silent, hsilent⟩ := Gather.exists_events_eq (hreports ▸ hn)
    obtain ⟨untold, huntold⟩ := Routing.exists_events_eq
      (hreceipts ▸ SortedSet.nodup_toList o.state.nodes)
    refine ⟨fun node hm => ?_, silent, untold, ?_⟩
    · rw [hf] at hm
      exact hreports ▸ (Gather.mem_failed_state.1 hm).1
    · rw [List.flatMap_append, o.flatMap_told, flatMap_told_of_aside haside, List.append_nil,
        hsilent, huntold, hreports, hreceipts]
      simp only [CycleReport.firstRound, CycleReport.secondRound, hf, hr, ho]
      rfl

end Cycle

/-! ### Counting -/

/-- Whether an event says that a record was corrected. -/
def SyncEvent.isCorrection : SyncEvent → Bool
  | .modelStateCorrected .. => true
  | _ => false

/-- Whether an event says that something was not written. -/
def SyncEvent.isWriteFailure : SyncEvent → Bool
  | .bulkWriteFailed .. => true
  | _ => false

/-- Whether an outcome counts corrections and events right. -/
structure BulkOutcome.Tallies (bulk : BulkOutcome) (corrections : List Correction)
    (events : List SyncEvent) : Prop where
  attempted : bulk.attempted = corrections.length
  sum : bulk.requestError = none → bulk.attempted = bulk.succeeded + bulk.failed.length
  succeeded : bulk.requestError = none → bulk.succeeded = events.countP (·.isCorrection)
  failed : bulk.requestError = none → bulk.failed.length = events.countP (·.isWriteFailure)
  refused : bulk.requestError ≠ none → bulk.succeeded = 0 ∧ bulk.failed = []

namespace CycleReport

variable (report : CycleReport)

/-- The events of corrections come at the end. -/
theorem countP_story (nodes : List NodeId) (why : Reasons) {p : SyncEvent → Bool}
    (hstarted : p .cycleStarted = false)
    (hunreachable : ∀ node reason, p (.nodeUnreachable node reason) = false)
    (hundeployed : ∀ node models, p (.expiredModelsUndeployed node models) = false) :
    (report.story nodes why).countP p = (report.ending why.unwritten).countP p := by
  have hfirst : (report.firstRound nodes why.silent).countP p = 0 := by
    rw [List.countP_eq_zero]
    intro event he
    obtain ⟨node, -, rfl⟩ := List.mem_map.1 he
    simp [hunreachable]
  have hsecond : (report.secondRound why.untold).countP p = 0 := by
    rw [List.countP_eq_zero]
    intro event he
    unfold secondRound at he
    split at he
    · cases he
    · obtain ⟨node, -, he⟩ := List.mem_flatMap.1 he
      rcases List.mem_append.1 he with he | he
      · split at he
        · simp [List.mem_singleton.1 he, hundeployed]
        · cases he
      · split at he
        · simp [List.mem_singleton.1 he, hunreachable]
        · cases he
  rw [story, List.countP_cons_of_neg (by simp [hstarted]), List.countP_append, List.countP_append,
    hfirst, hsecond, Nat.zero_add]

end CycleReport

namespace Write

variable (corrections : List Correction) (response : BulkResponse)

theorem succeeded_outcome : (outcome corrections (.ok response)).succeeded =
    corrections.countP fun c => !(errorOf response c).isSome := by
  rw [List.countP_eq_length_filter]
  simp only [outcome, List.partition_eq_filter_filter]
  rfl

theorem length_failed_outcome : (outcome corrections (.ok response)).failed.length =
    corrections.countP fun c => (errorOf response c).isSome := by
  rw [List.countP_eq_length_filter]
  simp [outcome, List.partition_eq_filter_filter]

/-- **The outcome of a write counts right.** -/
theorem tallies_outcome (reply : Except StoreError BulkResponse) (unwritten : ModelId → String) :
    (outcome corrections reply).Tallies corrections
      ((outcome corrections reply).events unwritten corrections) := by
  cases reply with
  | error e => exact ⟨rfl, nofun, nofun, nofun, fun _ => ⟨rfl, rfl⟩⟩
  | ok response =>
    have hfailed (c : Correction) (hc : c ∈ corrections) :=
      mem_failed_outcome_iff response hc
    have hevents : (outcome corrections (.ok response)).events unwritten corrections =
        corrections.map fun c =>
          if (errorOf response c).isSome then .bulkWriteFailed (some c.model) (unwritten c.model)
          else .modelStateCorrected c.model c.fromState c.toState c.fromCount c.toCount :=
      List.map_congr_left fun c hc => if_congr (hfailed c hc) rfl rfl
    refine ⟨rfl, fun _ => ?_, fun _ => ?_, fun _ => ?_, fun h => absurd rfl h⟩
    · rw [succeeded_outcome, length_failed_outcome, Nat.add_comm]
      refine (List.length_eq_countP_add_countP _).trans (congrArg _ ?_)
      refine List.countP_congr fun c _ => ?_
      simp
    · rw [hevents, succeeded_outcome, List.countP_map]
      refine List.countP_congr fun c _ => ?_
      cases he : errorOf response c <;> simp [SyncEvent.isCorrection, he]
    · rw [hevents, length_failed_outcome, List.countP_map]
      refine List.countP_congr fun c _ => ?_
      cases he : errorOf response c <;> simp [SyncEvent.isWriteFailure, he]

end Write

theorem CycleReport.tallies_story {report : CycleReport} {reply : Except StoreError BulkResponse}
    (ho : report.outcome = .completed)
    (hb : report.bulk = some (Write.outcome report.corrections reply)) (nodes : List NodeId)
    (why : Reasons) :
    (Write.outcome report.corrections reply).Tallies report.corrections
      (report.story nodes why) := by
  have hending : report.ending why.unwritten =
      (Write.outcome report.corrections reply).events why.unwritten report.corrections ++
        [.cycleCompleted (.ofNat report.scanned) (.ofNat report.corrections.length)
          (.ofNat report.millis)] := by
    rw [ending, ho, hb]
    rfl
  have hcount {p : SyncEvent → Bool} (hp : ∀ a b c, p (.cycleCompleted a b c) = false)
      (h : (report.story nodes why).countP p = (report.ending why.unwritten).countP p) :
      (report.story nodes why).countP p =
        ((Write.outcome report.corrections reply).events why.unwritten
          report.corrections).countP p := by
    rw [h, hending, List.countP_append, List.countP_singleton, hp]
    rfl
  have htallies := Write.tallies_outcome report.corrections reply why.unwritten
  refine { htallies with succeeded := fun h => ?_, failed := fun h => ?_ }
  · rw [htallies.succeeded h]
    exact (hcount (fun _ _ _ => rfl) (report.countP_story nodes why rfl (fun _ _ => rfl)
      fun _ _ => rfl)).symm
  · rw [htallies.failed h]
    exact (hcount (fun _ _ _ => rfl) (report.countP_story nodes why rfl (fun _ _ => rfl)
      fun _ _ => rfl)).symm

/-! ### A whole cycle -/

/-- The events of a cycle and its report tell the same.  `notes` is what the cycle has sent, and
`nodes` are those that were listed to it. -/
structure CycleReport.Accords (report : CycleReport) (nodes : List NodeId) (notes : List Notice) :
    Prop where
  /-- What a cycle sends is under its own name or under none. -/
  confined : Notice.Confined report.cycle notes
  listed : ∀ node ∈ report.failed, node ∈ nodes
  told : ∃ why, Notice.ownEvents report.cycle notes = report.story nodes why
  tallies : ∀ bulk, report.bulk = some bulk →
    bulk.Tallies report.corrections (Notice.ownEvents report.cycle notes)
  /-- A cycle that has done everything has written its corrections, if there are any. -/
  written : report.outcome = .completed → report.bulk = none → report.corrections = []

namespace Cycle

variable {settings : SyncSettings} {id : CycleId} {now : Instant} {trail : List Exchange}
  {notes : List Notice} {report : CycleReport} {d : Daemon}

/-- What has become of the corrections of a cycle that has ended. -/
theorem Closed.bulk_cases (h : Closed settings id now trail report) :
    (report.bulk = none ∧ (report.outcome = .completed → report.corrections = [])) ∨
      report.outcome = .completed ∧
        ∃ reply, report.bulk = some (Write.outcome report.corrections reply) := by
  cases h with
  | written o h hc reply => exact .inr ⟨rfl, reply, rfl⟩
  | idle o h hc => exact .inl ⟨rfl, fun _ => hc⟩
  | _ => exact .inl ⟨rfl, nofun⟩

/-- **The events of a cycle and its report tell the same**, whatever the cycle was replied and
whatever else happened to its daemon: each of the nodes that take part, which are listed once,
answers or does not. -/
theorem accords_of_chronicle (h : Chronicle settings d trail notes (.over report))
    (ha : ∀ x ∈ trail, x.Answered) (hn : (Exchange.listing trail).Nodup) :
    report.cycle = .ofNat (d.begun + 1) ∧ report.Accords (Exchange.listing trail) notes := by
  obtain ⟨hconfined, hid, unwritten, htold⟩ := told_of_chronicle h
  obtain ⟨before, rfl, hclosed⟩ := went_of_course h.course
  rw [← hid] at hconfined htold
  have hlisting : Exchange.listing (before ++ [⟨.file, ()⟩]) = Exchange.listing before := by
    simp [Exchange.listing, Exchange.listing?]
  rw [hlisting] at hn ⊢
  obtain ⟨hlisted, silent, untold, hrounds⟩ :=
    hclosed.heard.exists_rounds (fun x hx => ha x (List.mem_append_left _ hx)) hn
  let why : Reasons := ⟨silent, untold, unwritten⟩
  have hstory : Notice.ownEvents report.cycle notes =
      report.story (Exchange.listing before) why := by
    rw [htold, List.flatMap_append, hrounds]
    show _ :: (_ ++ [] ++ _) = _
    rw [List.append_nil]
    rfl
  refine ⟨hid, hconfined, hlisted, ⟨why, hstory⟩, fun bulk hb => ?_, fun ho hb => ?_⟩
  · rcases hclosed.bulk_cases with ⟨hnone, -⟩ | ⟨ho, reply, hreply⟩
    · rw [hnone] at hb
      cases hb
    · rw [hreply] at hb
      obtain rfl := Option.some.inj hb
      rw [hstory]
      exact CycleReport.tallies_story ho hreply _ why
  · rcases hclosed.bulk_cases with ⟨-, hc⟩ | ⟨-, reply, hreply⟩
    · exact hc ho
    · rw [hreply] at hb
      cases hb

/-- Of two nodes one is out of reach, and the other drops a model; then a model that no node holds
is found, but is not there any more when it is corrected. -/
theorem accords_of_unreachable_node :
    ∃ trail notes report, Chronicle default (.fresh (.ofMillis 0) default default) trail notes
        (.over report) ∧
      Exchange.listing trail = [⟨"b"⟩, ⟨"a"⟩] ∧ report.failed = .ofList [⟨"b"⟩] ∧
      report.bulk.map (·.failed) = some [⟨"lost"⟩] ∧ report.Accords [⟨"b"⟩, ⟨"a"⟩] notes := by
  let d := Daemon.fresh (.ofMillis 0) default default
  let source : Json := .object [(Document.stateField, .str "DEPLOYED"),
    (Document.plannedField, .int 2), (Document.currentField, .int 1)]
  have h₀ : Chronicle default d [] _ (.wait ⟨_, .bootstrapping .queueing⟩) := .start
  have h₁ : Chronicle default d _ _ (.wait ⟨_, .bootstrapping .reading⟩) := h₀.step () d
  have h₂ : Chronicle default d _ _ (.wait ⟨_, .bootstrapping (.creating _ _)⟩) :=
    h₁.step (.ok none) d
  have h₃ : Chronicle default d _ _ (.wait ⟨_, .probing⟩) := h₂.step (.ok ()) d
  have h₄ : Chronicle default d _ _ (.wait ⟨_, .gathering .listing⟩) := h₃.step (.ok true) d
  have h₅ : Chronicle default d _ _ (.wait ⟨_, .gathering (.asking [⟨"b"⟩, ⟨"a"⟩])⟩) :=
    h₄.step (.ok [⟨"b"⟩, ⟨"a"⟩]) d
  have h₆ : Chronicle default d _ _ (.wait ⟨_, .routing ⟨_⟩⟩) :=
    h₅.step [(⟨"b"⟩, .error (.timedOut ⟨"b"⟩ 5)), (⟨"a"⟩, .ok (.report (.empty ⟨"a"⟩)))] d
  have h₇ : Chronicle default d _ _ (.wait ⟨_, .scanning _ _ _⟩) :=
    h₆.step [(⟨"a"⟩, .ok (.applied ⟨"a"⟩ (.ofList [⟨"m"⟩]))),
      (⟨"b"⟩, .error (.timedOut ⟨"b"⟩ 5))] d
  have h₈ : Chronicle default d _ _ (.wait ⟨_, .writing _ _⟩) :=
    h₇.step (.ok ⟨[⟨"lost", source⟩], none⟩) d
  have h₉ : Chronicle default d _ _ (.wait ⟨_, .filing⟩) :=
    h₈.step (.ok ⟨[⟨"lost", some (.notFound "lost")⟩]⟩) d
  have h₁₀ : Chronicle default d _ _ (.over _) := h₉.step () d
  refine ⟨_, _, _, h₁₀, rfl, rfl, rfl, (accords_of_chronicle h₁₀ ?_ ?_).2⟩
  · simp only [List.nil_append, List.forall_mem_append, List.forall_mem_singleton]
    exact ⟨⟨⟨⟨⟨⟨⟨⟨⟨trivial, trivial⟩, trivial⟩, trivial⟩, trivial⟩, rfl⟩, rfl⟩, trivial⟩, trivial⟩,
      trivial⟩
  · decide

end Cycle

end ModelFleet
