import ModelFleet.Proofs.Cycle.Corrections
import ModelFleet.Proofs.Node.Gathering
import ModelFleet.Proofs.Run.Cycle

/-!
# What a cycle does to the documents

`Answers` says of each node how it answers the two rounds of a cycle, and `Answers.amended` what
becomes of each document, in terms of the answers alone: on how many nodes a model is left, whether
some node is deploying it, and whether its document was changed recently.
`Answers.cycle_amends_documents` shows that a cycle does just that.
-/

namespace ModelFleet

open Outside

/-- The nodes that take part in a cycle, and how each of them answers its two rounds. -/
structure Answers where
  nodes : List NodeId
  gather : NodeId → Except ClusterError SyncResponse
  routing : NodeId → Except ClusterError SyncResponse

namespace Answers

/-- What is outside a cycle when the nodes answer so, the store serves everything and nobody else
writes. -/
def outside (a : Answers) (time : Nat → Instant) : Outside Unit where
  members _ := .ok a.nodes
  ask message _ node :=
    ((), match message with
      | .gather _ => a.gather node
      | .applyRouting .. => a.routing node)
  fate _ _ := .served
  meanwhile _ store := store
  time

/-! ### What the documents should say -/

/-- Whether a node has reported that it holds a model. -/
def holds (a : Answers) (model : ModelId) (node : NodeId) : Bool :=
  match a.gather node with
  | .ok (.report report) => model ∈ report.deployed
  | _ => false

/-- Whether a node has reported that it is deploying a model. -/
def deploys (a : Answers) (model : ModelId) (node : NodeId) : Bool :=
  match a.gather node with
  | .ok (.report report) => model ∈ report.deploying
  | _ => false

/-- Whether a node has said in the second round that it dropped a model. -/
def drops (a : Answers) (model : ModelId) (node : NodeId) : Bool :=
  match a.routing node with
  | .ok (.applied _ undeployed) => model ∈ undeployed
  | _ => false

/-- On how many nodes a model is left, as far as a count goes. -/
def actual (a : Answers) (model : ModelId) : Nat :=
  min (a.nodes.countP fun node => a.holds model node && !a.drops model node) (2 ^ 32 - 1)

/-- Whether some node is deploying a model. -/
def isDeploying (a : Answers) (model : ModelId) : Bool := a.nodes.any (a.deploys model)

/-- Whether a change lies less than the grace period back, or in the future. -/
def isRecent (graceMillis : Nat) (now : Instant) : Option Instant → Bool
  | none => false
  | some t => now.nanos - t.nanos < graceMillis * 1000000

/-- The state and the count that a record should have. -/
def target (a : Answers) (graceMillis : Nat) (now : Instant) (record : ModelRecord) :
    Option (ModelState × Nat) :=
  let actual := a.actual record.id
  if a.isDeploying record.id then some (.deploying, actual)
  else if isRecent graceMillis now record.updated then none
  else if actual = 0 then some (.deployFailed, 0)
  else if actual < record.planned.toNat then some (.partiallyDeployed, actual)
  else none

/-- What becomes of a document whose record is looked at and rewritten at these times. -/
def amended (a : Answers) (graceMillis : Nat) (decided written : Instant) (id : String)
    (source : Json) : Json :=
  if ModelState.reconcilable.any fun state =>
      source.get? Document.stateField = some (.str state.name) then
    match ModelRecord.ofDocument ⟨id⟩ source with
    | .error _ => source
    | .ok record =>
      match a.target graceMillis decided record with
      | none => source
      | some (state, count) =>
        if record.state = state ∧ record.current.toNat = count then source
        else Document.rewrite state (.ofNat count) written source
  else source

/-! ### What the rounds give -/

variable (a : Answers) (time : Nat → Instant)

theorem quiet_outside : (a.outside time).Quiet := ⟨fun _ _ _ => rfl, fun _ _ => rfl⟩

theorem mem_dropped {node : NodeId} {model : ModelId} :
    model ∈ Routing.dropped (node, a.routing node) ↔ a.drops model node = true := by
  unfold drops Routing.dropped
  cases h : a.routing node with
  | error e => simp [Routing.undeployedOf, Except.toOption]
  | ok response => cases response <;> simp [Routing.undeployedOf, Except.toOption]

variable (cycle : CycleId)

/-- The answers of the first round. -/
def gathered : List Answer := a.nodes.map fun node => (node, a.gather node)

/-- The answers of the second round. -/
def routed : List Answer :=
  (Gather.state a.gathered).nodes.toList.map fun node => (node, a.routing node)

theorem rounds_outside :
    (a.outside time).rounds cycle a.nodes () =
      ⟨(), Gather.state a.gathered, Routing.outcome a.routed⟩ := by
  simp only [Outside.rounds, Outside.askAll_unit]
  rfl

/-- The state of the cluster with which a cycle decides. -/
abbrev seen : Aggregate :=
  (Gather.state a.gathered).afterRouting (Routing.outcome a.routed)

theorem map_fst_gathered : a.gathered.map (·.1) = a.nodes := by
  simp [gathered, Function.comp_def]

theorem nodup_routed : (a.routed.map (·.1)).Nodup := by
  rw [routed, List.map_map]
  simpa [Function.comp_def] using SortedSet.nodup_toList (Gather.state a.gathered).nodes

theorem mem_gathered {node : NodeId} {result : Except ClusterError SyncResponse} :
    (node, result) ∈ a.gathered ↔ node ∈ a.nodes ∧ a.gather node = result := by
  simp only [gathered, List.mem_map, Prod.mk.injEq]
  constructor
  · rintro ⟨n, hn, rfl, hr⟩
    exact ⟨hn, hr⟩
  · rintro ⟨hn, hr⟩
    exact ⟨node, hn, rfl, hr⟩

/-- What the reports say, each by one of its sets. -/
theorem exists_report_iff {f : NodeReport → SortedSet ModelId}
    (hf : ∀ report node, f { report with node } = f report) {model : ModelId} {node : NodeId} :
    (∃ report ∈ Gather.reports a.gathered, report.node = node ∧ model ∈ f report) ↔
      node ∈ a.nodes ∧ ∃ said, a.gather node = .ok (.report said) ∧ model ∈ f said := by
  simp only [Gather.exists_report_iff hf, mem_gathered, and_assoc, exists_and_left]

theorem exists_said_deployed {model : ModelId} {node : NodeId} :
    (∃ said, a.gather node = .ok (.report said) ∧ model ∈ said.deployed) ↔
      a.holds model node = true := by
  unfold holds
  cases h : a.gather node with
  | error e => simp
  | ok response => cases response <;> simp

theorem exists_said_deploying {model : ModelId} {node : NodeId} :
    (∃ said, a.gather node = .ok (.report said) ∧ model ∈ said.deploying) ↔
      a.deploys model node = true := by
  unfold deploys
  cases h : a.gather node with
  | error e => simp
  | ok response => cases response <;> simp

/-- All nodes that take part are asked in the second round. -/
theorem exists_dropped_iff {model : ModelId} {node : NodeId} (hn : node ∈ a.nodes) :
    (∃ answer ∈ a.routed, answer.1 = node ∧ model ∈ Routing.dropped answer) ↔
      a.drops model node = true := by
  rw [← a.mem_dropped]
  constructor
  · rintro ⟨answer, ha, rfl, hm⟩
    obtain ⟨n, -, rfl⟩ := List.mem_map.1 ha
    exact hm
  · intro hm
    refine ⟨_, List.mem_map.2 ⟨node, ?_, rfl⟩, rfl, hm⟩
    rw [← SortedSet.mem_def, Gather.mem_nodes_state, a.map_fst_gathered]
    exact hn

/-- **A model is left on the nodes that reported it and did not drop it.** -/
theorem mem_workers_seen {model : ModelId} {node : NodeId} :
    node ∈ a.seen.workers.nodesOf model ↔
      node ∈ a.nodes ∧ (a.holds model node && !a.drops model node) = true := by
  rw [Aggregate.mem_workers_afterRouting, (Gather.gathered_state _).workers,
    Placement.mem_nodesOf_ofReports, Routing.mem_undeployed_outcome a.nodup_routed,
    a.exists_report_iff fun _ _ => rfl, exists_said_deployed, and_assoc]
  refine and_congr_right fun hn => ?_
  rw [a.exists_dropped_iff hn]
  simp

theorem workerCount_seen (hn : a.nodes.Nodup) (model : ModelId) :
    a.seen.workerCount model = .ofNat (a.actual model) := by
  have hsize : (a.seen.workers.nodesOf model).size =
      a.nodes.countP fun node => a.holds model node && !a.drops model node :=
    SortedSet.size_eq_countP hn fun node => a.mem_workers_seen
  rw [Aggregate.workerCount, hsize, actual]

theorem isDeploying_seen (model : ModelId) : a.seen.isDeploying model = a.isDeploying model := by
  rw [Bool.eq_iff_iff, isDeploying, List.any_eq_true, Aggregate.isDeploying,
    Aggregate.deploying_afterRouting, (Gather.gathered_state _).deploying, Bool.not_eq_true',
    Bool.eq_false_iff, Ne, SortedSet.isEmpty_iff, not_forall]
  refine exists_congr fun node => ?_
  rw [not_not, Placement.mem_nodesOf_ofReports, a.exists_report_iff fun _ _ => rfl,
    exists_said_deploying]

theorem toNat_ofNat_actual (model : ModelId) :
    (UInt32.ofNat (a.actual model)).toNat = a.actual model := by
  rw [UInt32.toNat_ofNat_of_lt']
  unfold actual
  have : UInt32.size = 2 ^ 32 := rfl
  omega

/-! ### What is decided -/

/-- What a cycle decides with after these answers. -/
abbrev reconciler (graceMillis : Nat) (now : Instant) : Reconciler := ⟨graceMillis, a.seen, now⟩

theorem withinGrace_eq_isRecent (r : Reconciler) (record : ModelRecord) :
    r.withinGrace record = isRecent r.graceMillis r.now record.updated := by
  unfold Reconciler.withinGrace isRecent
  cases record.updated with
  | none => rfl
  | some t =>
    have hg : (0 : Int) ≤ r.graceMillis * 1000000 := by omega
    rw [Bool.eq_iff_iff, Bool.or_eq_true, decide_eq_true_eq, decide_eq_true_eq]
    omega

theorem target_eq (hn : a.nodes.Nodup) (graceMillis : Nat) (now : Instant) (record : ModelRecord) :
    a.target graceMillis now record =
      ((a.reconciler graceMillis now).target record).map fun state =>
        (state, a.actual record.id) := by
  have hheld := a.workerCount_seen hn record.id
  have hnat := a.toNat_ofNat_actual record.id
  have hzero : UInt32.ofNat (a.actual record.id) = 0 ↔ a.actual record.id = 0 := by
    rw [← UInt32.toNat_inj, hnat]
    rfl
  have hlt : UInt32.ofNat (a.actual record.id) < record.planned ↔
      a.actual record.id < record.planned.toNat := by
    rw [UInt32.lt_iff_toNat_lt, hnat]
  simp only [target, Reconciler.target, hheld, hzero, hlt, a.isDeploying_seen,
    withinGrace_eq_isRecent]
  by_cases hd : a.isDeploying record.id = true
  · rw [if_pos hd, if_pos hd, Option.map_some]
  · rw [if_neg hd, if_neg hd]
    by_cases hr : isRecent graceMillis now record.updated = true
    · rw [if_pos hr, if_pos hr, Option.map_none]
    · rw [if_neg hr, if_neg hr]
      by_cases h0 : a.actual record.id = 0
      · rw [if_pos h0, if_pos h0, Option.map_some, h0]
      · rw [if_neg h0, if_neg h0]
        by_cases hp : a.actual record.id < record.planned.toNat
        · rw [if_pos hp, if_pos hp, Option.map_some]
        · rw [if_neg hp, if_neg hp, Option.map_none]

/-- A record in a reconcilable state is corrected unless it is as it should be. -/
theorem decide_eq (hn : a.nodes.Nodup) (graceMillis : Nat) (now : Instant) {record : ModelRecord}
    (hr : record.state.isReconcilable = true) :
    (a.reconciler graceMillis now).decide record =
      (a.target graceMillis now record).bind fun (state, count) =>
        if record.state = state ∧ record.current.toNat = count then none
        else some ⟨record.id, record.tenant, record.state, state, record.current,
          .ofNat count⟩ := by
  have hheld := a.workerCount_seen hn record.id
  have hcount : record.current = UInt32.ofNat (a.actual record.id) ↔
      record.current.toNat = a.actual record.id := by
    rw [← UInt32.toNat_inj, a.toNat_ofNat_actual]
  rw [Reconciler.decide, if_pos hr, a.target_eq hn]
  cases (a.reconciler graceMillis now).target record with
  | none => rfl
  | some state => simp only [hheld, hcount, Option.map_some, Option.bind_some]

theorem amend_eq_amended (hn : a.nodes.Nodup) (graceMillis : Nat) (decided written : Instant)
    (id : String) (source : Json) :
    (a.reconciler graceMillis decided).amend written id source =
      a.amended graceMillis decided written id source := by
  have hmatches : (ModelState.reconcilable.any fun state =>
      source.get? Document.stateField = some (.str state.name)) = true ↔
      Scan.query.matches source = true := by
    rw [Scan.matches_iff, List.any_eq_true]
    simp only [decide_eq_true_eq]
    rfl
  unfold Reconciler.amend Reconciler.correction Scan.recordIn
  by_cases hq : Scan.query.matches source = true
  · rw [amended, if_pos (hmatches.2 hq), if_pos hq, Scan.recordOf]
    cases hdoc : ModelRecord.ofDocument ⟨id⟩ source with
    | error e => rfl
    | ok record =>
      simp only [Except.toOption, Option.bind_some,
        a.decide_eq hn graceMillis decided (Scan.isReconcilable_of_matches hq hdoc)]
      cases a.target graceMillis decided record with
      | none => rfl
      | some target =>
        obtain ⟨state, count⟩ := target
        simp only [Option.bind_some]
        by_cases h : record.state = state ∧ record.current.toNat = count
        · rw [if_pos h, if_pos h]
        · rw [if_neg h, if_neg h]
  · rw [amended, if_neg (mt hmatches.1 hq), if_neg hq]
    rfl

/-! ### A whole cycle -/

/-- **A cycle that nothing disturbs does to each document what the answers say**, and to no other
document of the collection anything: it decides at one time, and writes at the same time or
later. -/
theorem cycle_amends_documents (settings : SyncSettings) (s : State Unit) (d : Daemon)
    (hn : a.nodes.Nodup) (hc : settings.configCollection ≠ settings.modelCollection)
    (hs : s.store.hasCollection settings.modelCollection = true)
    (hk : Bootstrap.Healthy settings.configCollection settings.masterKeyId s.store d)
    (hg : d.gate.isOpen = true) :
    ∃ report s' d' i j,
      Leads (a.outside time) (Cycle.job settings) (.after (Cycle.start.run d) s)
        (.ended report s' d') ∧
      s.asked.length ≤ i ∧ i ≤ j ∧ j < s'.asked.length ∧
      report.outcome = .completed ∧
      ∀ id, s'.store.get? settings.modelCollection id =
        (s.store.get? settings.modelCollection id).map
          (a.amended settings.graceMillis (time i) (time j) id) := by
  obtain ⟨documents, hdocs⟩ := Option.isSome_iff_exists.1 hs
  obtain ⟨i, j, report, s', d', hl, hcompleted, hi, hij, hj⟩ :=
    Cycle.leads_of_start settings (a.quiet_outside time) hc hk hdocs
      (rfl : (a.outside time).members s.cluster = .ok a.nodes) hg
  refine ⟨report, s', d', i, j, hl, hi, hij, hj, hcompleted.outcome, fun id => ?_⟩
  have hending := hcompleted.ending
  rw [hcompleted.corrections, rounds_outside] at hending
  obtain ⟨documents', hdocs', ⟨-, ⟨n, q, e, hf⟩, -⟩ | ⟨-, hamended⟩⟩ := hending.stored hdocs
  · cases hf
  · rw [MemoryStore.get?, MemoryStore.documents, hdocs', MemoryStore.get?, MemoryStore.documents,
      hdocs]
    simp only [Option.getD_some]
    rw [hamended]
    exact congrArg (fun f => Option.map f _) (funext fun source =>
      a.amend_eq_amended hn settings.graceMillis (time i) (time j) id source)

/-- A model that no node reports has failed. -/
theorem cycle_amends_documents_of_lost_model :
    let a : Answers := ⟨[⟨"n"⟩], fun n => .ok (.report (.empty n)), fun n => .ok (.applied n ∅)⟩
    let source : Json := .object [(Document.stateField, .str "DEPLOYED"),
      (Document.plannedField, .int 2), (Document.currentField, .int 1)]
    let store := (∅ : MemoryStore).put ".plugins-ml-model" "m" source
    ∃ report s' d', Leads (a.outside fun _ => .ofMillis 5000) (Cycle.job default)
        (.after (Cycle.start.run (.fresh (.ofMillis 4000) default default)) ⟨store, (), []⟩)
        (.ended report s' d') ∧
      report.outcome = .completed ∧
      s'.store.get? ".plugins-ml-model" "m" =
        some (Document.rewrite .deployFailed 0 (.ofMillis 5000) source) := by
  intro a source store
  obtain ⟨report, s', d', i, j, hl, -, -, -, ho, hd⟩ := a.cycle_amends_documents
    (fun _ => .ofMillis 5000) default ⟨store, (), []⟩ (.fresh (.ofMillis 4000) default default)
    (by decide) (by decide) (by decide) ⟨rfl, by intro source hs; cases hs⟩ rfl
  refine ⟨report, s', d', hl, ho, (hd "m").trans ?_⟩
  rfl

end Answers

end ModelFleet
