import ModelFleet.Proofs.Node.Gathering

/-!
# The state of the cluster after any operations

Reports are taken in, nodes are noted as failed and models are taken from nodes, in any order
(`Aggregate.run`).  What the state then says is given by the operations alone
(`Aggregate.represents_run`, by induction on them with a case for each kind of operation): a node
has a model deploying or expired if it has ever reported so, and holds one if it has reported so and
the model has not been taken from it since.  From this come the promises that every reader of such a
state relies on (`Aggregate.consistent_run`).
-/

namespace ModelFleet

namespace Aggregate

/-- What may be done to a state. -/
inductive Operation
  | absorb (report : NodeReport)
  | markFailed (node : NodeId)
  | removeWorkers (node : NodeId) (models : SortedSet ModelId)
  deriving DecidableEq

/-- Does something to a state. -/
def act (state : Aggregate) : Operation → Aggregate
  | .absorb report => state.absorb report
  | .markFailed node => state.markFailed node
  | .removeWorkers node models => state.removeWorkers node models

/-- The state after operations, from the one in which no node has answered or failed. -/
def run (ops : List Operation) : Aggregate := ops.foldl act ∅

variable {ops : List Operation} {op : Operation} {state : Aggregate} {model : ModelId}
  {node : NodeId}

theorem run_concat (ops : List Operation) (op : Operation) :
    run (ops ++ [op]) = (run ops).act op := by
  rw [run, List.foldl_append]
  rfl

/-! ### What the operations say -/

/-- The report that an operation takes in. -/
def Operation.report? : Operation → Option NodeReport
  | .absorb report => some report
  | .markFailed _ => none
  | .removeWorkers _ _ => none

/-- The reports that have been taken in. -/
def reports (ops : List Operation) : List NodeReport := ops.filterMap Operation.report?

/-- An operation takes a model from a node. -/
def Removes (op : Operation) (model : ModelId) (node : NodeId) : Prop :=
  ∃ models, op = .removeWorkers node models ∧ model ∈ models

/-- A node has reported that it holds a model, which has not been taken from it since. -/
def Listed (ops : List Operation) (model : ModelId) (node : NodeId) : Prop :=
  ∃ before report after, ops = before ++ .absorb report :: after ∧ report.node = node ∧
    model ∈ report.deployed ∧ ∀ op ∈ after, ¬ Removes op model node

theorem mem_reports {report : NodeReport} : report ∈ reports ops ↔ .absorb report ∈ ops := by
  simp only [reports, List.mem_filterMap]
  constructor
  · rintro ⟨op, ho, hr⟩
    cases op with
    | absorb said =>
      obtain rfl := Option.some.inj hr
      exact ho
    | markFailed node => cases hr
    | removeWorkers node models => cases hr
  · intro h
    exact ⟨_, h, rfl⟩

theorem reports_concat (ops : List Operation) (op : Operation) :
    reports (ops ++ [op]) = reports ops ++ op.report?.toList := by
  rw [reports, List.filterMap_append]
  cases op <;> rfl

/-- An operation that takes in no report adds none. -/
theorem reports_concat_of_none (h : op.report? = none) : reports (ops ++ [op]) = reports ops := by
  rw [reports_concat, h]
  exact List.append_nil _

theorem exists_report_of_listed (h : Listed ops model node) :
    ∃ report ∈ reports ops, report.node = node ∧ model ∈ report.deployed := by
  obtain ⟨before, report, after, rfl, hn, hm, -⟩ := h
  exact ⟨report, mem_reports.2 (List.mem_append_right _ List.mem_cons_self), hn, hm⟩

theorem listed_absorb {report : NodeReport} (hn : report.node = node)
    (hm : model ∈ report.deployed) : Listed (ops ++ [.absorb report]) model node :=
  ⟨ops, report, [], rfl, hn, hm, fun _ ho => by cases ho⟩

theorem Listed.concat (h : Listed ops model node) (ho : ¬ Removes op model node) :
    Listed (ops ++ [op]) model node := by
  obtain ⟨before, report, after, rfl, hn, hm, hafter⟩ := h
  refine ⟨before, report, after ++ [op], by simp, hn, hm, fun other hmem => ?_⟩
  rcases List.mem_append.1 hmem with hmem | hmem
  · exact hafter other hmem
  · rwa [List.mem_singleton.1 hmem]

/-- A node that is listed after one more operation was listed before, and has not lost the model, or
has just reported it. -/
theorem listed_concat_iff : Listed (ops ++ [op]) model node ↔
    (Listed ops model node ∧ ¬ Removes op model node) ∨
      ∃ report, op = .absorb report ∧ report.node = node ∧ model ∈ report.deployed := by
  constructor
  · rintro ⟨before, report, after, h, hn, hm, hafter⟩
    -- the report is either the last operation or one of those before it
    rcases List.eq_nil_or_concat after with rfl | ⟨rest, last, rfl⟩
    · obtain ⟨-, ho⟩ := List.append_inj' h rfl
      exact .inr ⟨report, List.head_eq_of_cons_eq ho, hn, hm⟩
    · rw [List.concat_eq_append, ← List.cons_append, ← List.append_assoc] at h
      obtain ⟨rfl, ho⟩ := List.append_inj' h rfl
      obtain rfl := List.head_eq_of_cons_eq ho
      rw [List.concat_eq_append] at hafter
      exact .inl ⟨⟨before, report, rest, rfl, hn, hm, fun other hmem =>
        hafter other (List.mem_append_left _ hmem)⟩, hafter op (List.mem_append_right _
          List.mem_cons_self)⟩
  · rintro (⟨h, ho⟩ | ⟨report, rfl, hn, hm⟩)
    · exact h.concat ho
    · exact listed_absorb hn hm

theorem listed_absorb_iff {report : NodeReport} :
    Listed (ops ++ [.absorb report]) model node ↔
      Listed ops model node ∨ (model ∈ report.deployed ∧ node = report.node) := by
  rw [listed_concat_iff]
  constructor
  · rintro (⟨hl, -⟩ | ⟨_, ⟨⟩, rfl, hm⟩)
    · exact .inl hl
    · exact .inr ⟨hm, rfl⟩
  · rintro (hl | ⟨hm, rfl⟩)
    · refine .inl ⟨hl, ?_⟩
      rintro ⟨models, ho, -⟩
      cases ho
    · exact .inr ⟨report, rfl, rfl, hm⟩

theorem listed_markFailed_iff {failed : NodeId} :
    Listed (ops ++ [.markFailed failed]) model node ↔ Listed ops model node := by
  rw [listed_concat_iff]
  constructor
  · rintro (⟨hl, -⟩ | ⟨report, ho, -⟩)
    · exact hl
    · cases ho
  · intro hl
    refine .inl ⟨hl, ?_⟩
    rintro ⟨models, ho, -⟩
    cases ho

theorem listed_removeWorkers_iff {worker : NodeId} {models : SortedSet ModelId} :
    Listed (ops ++ [.removeWorkers worker models]) model node ↔
      Listed ops model node ∧ ¬ (model ∈ models ∧ node = worker) := by
  rw [listed_concat_iff]
  constructor
  · rintro (⟨hl, hr⟩ | ⟨report, ho, -⟩)
    · refine ⟨hl, ?_⟩
      rintro ⟨hm, rfl⟩
      exact hr ⟨models, rfl, hm⟩
    · cases ho
  · rintro ⟨hl, hr⟩
    refine .inl ⟨hl, ?_⟩
    rintro ⟨_, ⟨⟩, hm⟩
    exact hr ⟨hm, rfl⟩

/-! ### What the state says -/

/-- **What a state says after operations**, part by part. -/
structure Represents (ops : List Operation) (state : Aggregate) : Prop where
  workers : ∀ model node, node ∈ state.workers.nodesOf model ↔ Listed ops model node
  occupied : state.workers.Occupied
  deploying : state.deploying = .ofReports (·.deploying) (reports ops)
  tasks : state.tasks = .ofReports (·.tasks) (reports ops)
  expired : state.expired = .ofReports (·.expired) (reports ops)
  responded : ∀ node, node ∈ state.responded ↔ ∃ report ∈ reports ops, report.node = node
  failed : ∀ node, node ∈ state.failed ↔ .markFailed node ∈ ops ∧ node ∉ state.responded

theorem represents_empty : Represents [] ∅ where
  workers model node := by
    refine iff_of_false (SortedSet.not_mem_empty node) ?_
    rintro ⟨before, report, after, h, -⟩
    exact List.append_ne_nil_of_right_ne_nil before (List.cons_ne_nil _ after) h.symm
  occupied := Placement.occupied_empty
  deploying := rfl
  tasks := rfl
  expired := rfl
  responded node := by
    refine iff_of_false (SortedSet.not_mem_empty node) ?_
    rintro ⟨report, hr, -⟩
    cases hr
  failed node := by
    refine iff_of_false (SortedSet.not_mem_empty node) ?_
    rintro ⟨h, -⟩
    cases h

/-- A placement of what reports say takes in another report. -/
theorem add_eq_ofReports {kind : Kind} {p : Placement kind} {f : NodeReport → SortedSet (Name kind)}
    (h : p = .ofReports f (reports ops)) (report : NodeReport) :
    p.add report.node (f report) = .ofReports f (reports (ops ++ [.absorb report])) := by
  rw [reports_concat, h]
  exact (Placement.ofReports_concat _ report).symm

theorem Represents.absorb (h : Represents ops state) (report : NodeReport) :
    Represents (ops ++ [.absorb report]) (state.absorb report) where
  workers model node := by
    rw [mem_workers_absorb, h.workers, listed_absorb_iff]
  occupied := Placement.occupied_add h.occupied report.node report.deployed
  deploying := add_eq_ofReports h.deploying report
  tasks := add_eq_ofReports h.tasks report
  expired := add_eq_ofReports h.expired report
  responded node := by
    simp only [Aggregate.absorb, SortedSet.mem_insert, h.responded, mem_reports, List.mem_append,
      List.mem_singleton, Operation.absorb.injEq, or_and_right, exists_or, exists_eq_left]
    rw [or_comm, eq_comm]
  failed node := by
    simp only [Aggregate.absorb, SortedSet.mem_erase, SortedSet.mem_insert, h.failed,
      List.mem_append, List.mem_singleton, reduceCtorEq, or_false, not_or]
    tauto

theorem Represents.markFailed (h : Represents ops state) (node : NodeId) :
    Represents (ops ++ [.markFailed node]) (state.markFailed node) := by
  have hreports : reports (ops ++ [.markFailed node]) = reports ops :=
    reports_concat_of_none rfl
  rw [Gather.markFailed_eq]
  exact {
    workers := fun model n => by rw [h.workers, listed_markFailed_iff]
    occupied := h.occupied
    deploying := hreports ▸ h.deploying
    tasks := hreports ▸ h.tasks
    expired := hreports ▸ h.expired
    responded := hreports ▸ h.responded
    failed := fun n => by
      rw [Gather.mem_failed_markFailed, h.failed, List.mem_append, List.mem_singleton,
        Operation.markFailed.injEq]
      constructor
      · rintro (⟨ho, hn⟩ | ⟨rfl, hn⟩)
        · exact ⟨.inl ho, hn⟩
        · exact ⟨.inr rfl, hn⟩
      · rintro ⟨ho | rfl, hn⟩
        · exact .inl ⟨ho, hn⟩
        · exact .inr ⟨rfl, hn⟩ }

theorem Represents.removeWorkers (h : Represents ops state) (node : NodeId)
    (models : SortedSet ModelId) :
    Represents (ops ++ [.removeWorkers node models]) (state.removeWorkers node models) := by
  have hreports : reports (ops ++ [.removeWorkers node models]) = reports ops :=
    reports_concat_of_none rfl
  exact {
    workers := fun model n => by
      rw [mem_workers_removeWorkers, h.workers, listed_removeWorkers_iff]
    occupied := Placement.occupied_remove h.occupied node models
    deploying := hreports ▸ h.deploying
    tasks := hreports ▸ h.tasks
    expired := hreports ▸ h.expired
    responded := hreports ▸ h.responded
    failed := fun n => by
      simp only [List.mem_append, List.mem_singleton, reduceCtorEq, or_false]
      exact h.failed n }

theorem Represents.act (h : Represents ops state) (op : Operation) :
    Represents (ops ++ [op]) (state.act op) := by
  cases op with
  | absorb report => exact h.absorb report
  | markFailed node => exact h.markFailed node
  | removeWorkers node models => exact h.removeWorkers node models

/-- **What a state says is given by the operations that have led to it.** -/
theorem represents_run (ops : List Operation) : Represents ops (run ops) := by
  induction ops using List.reverseRecOn with
  | nil => exact represents_empty
  | append_singleton ops op ih =>
    rw [run_concat]
    exact ih.act op

/-! ### What every reader relies on -/

/-- A placement in a state: nothing is nowhere, and what is somewhere is on a node that has
responded. -/
structure Placed (state : Aggregate) {kind : Kind} (p : Placement kind) : Prop where
  occupied : p.Occupied
  responded : ∀ name, ∀ node ∈ p.nodesOf name, node ∈ state.responded

/-- **What a state promises after operations.** -/
structure Consistent (ops : List Operation) (state : Aggregate) : Prop where
  disjoint : ∀ node ∈ state.responded, node ∉ state.failed
  responded : ∀ node, node ∈ state.responded ↔ ∃ report, .absorb report ∈ ops ∧ report.node = node
  nodes : ∀ node, node ∈ state.responded ∨ node ∈ state.failed ↔
    (∃ report, .absorb report ∈ ops ∧ report.node = node) ∨ .markFailed node ∈ ops
  workers : state.Placed state.workers
  deploying : state.Placed state.deploying
  tasks : state.Placed state.tasks
  expired : state.Placed state.expired
  fullyExpired : ∀ model, model ∈ state.fullyExpired ↔
    (∃ report, .absorb report ∈ ops ∧ model ∈ report.expired) ∧
      ∀ node ∈ state.workers.nodesOf model,
        ∃ report, .absorb report ∈ ops ∧ report.node = node ∧ model ∈ report.expired
  routing : ∀ model, state.routingTable.get? model =
    if model ∈ state.fullyExpired then none else state.workers.get? model
  kept : ∀ model, ∀ node ∈ state.workers.nodesOf model,
    (∀ report, .absorb report ∈ ops → report.node = node → model ∉ report.expired) →
      ∃ nodes, state.workers.get? model = some nodes ∧ state.routingTable.get? model = some nodes

theorem Placed.of_ofReports {kind : Kind} {f : NodeReport → SortedSet (Name kind)}
    {p : Placement kind} (hp : p = .ofReports f (reports ops)) (h : Represents ops state) :
    state.Placed p where
  occupied := hp ▸ Placement.occupied_ofReports (reports ops)
  responded name node hn := by
    rw [hp, Placement.mem_nodesOf_ofReports] at hn
    obtain ⟨report, hr, hnode, -⟩ := hn
    exact (h.responded node).2 ⟨report, hr, hnode⟩

theorem get?_routingTable (state : Aggregate) (model : ModelId) :
    state.routingTable.get? model =
      if model ∈ state.fullyExpired then none else state.workers.get? model := by
  rw [routingTable, SortedMap.get?_filter]
  cases state.workers.get? model with
  | none => simp
  | some nodes =>
    by_cases h : model ∈ state.fullyExpired
    · simp [h, Option.filter_some]
    · simp [h, Option.filter_some]

namespace Represents

theorem mem_responded_iff (h : Represents ops state) :
    node ∈ state.responded ↔ ∃ report, .absorb report ∈ ops ∧ report.node = node := by
  simp only [h.responded, mem_reports]

theorem mem_expired_iff (h : Represents ops state) :
    node ∈ state.expired.nodesOf model ↔
      ∃ report, .absorb report ∈ ops ∧ report.node = node ∧ model ∈ report.expired := by
  rw [h.expired, Placement.mem_nodesOf_ofReports]
  simp only [mem_reports]

/-- Those are in the state that a report or a failure has brought there. -/
theorem mem_nodes_iff (h : Represents ops state) :
    node ∈ state.responded ∨ node ∈ state.failed ↔
      (∃ report, .absorb report ∈ ops ∧ report.node = node) ∨ .markFailed node ∈ ops := by
  rw [h.failed, ← h.mem_responded_iff]
  by_cases hn : node ∈ state.responded
  · simp [hn]
  · simp [hn]

theorem placed_workers (h : Represents ops state) : state.Placed state.workers where
  occupied := h.occupied
  responded model node hn := by
    obtain ⟨report, hr, hnode, -⟩ := exists_report_of_listed ((h.workers model node).1 hn)
    exact (h.responded node).2 ⟨report, hr, hnode⟩

/-- A model is fully expired if it was reported so, and by every node that still holds it. -/
theorem mem_fullyExpired_iff (h : Represents ops state) :
    model ∈ state.fullyExpired ↔ (∃ report, .absorb report ∈ ops ∧ model ∈ report.expired) ∧
      ∀ node ∈ state.workers.nodesOf model,
        ∃ report, .absorb report ∈ ops ∧ report.node = node ∧ model ∈ report.expired := by
  have hplaced : state.Placed state.expired := .of_ofReports h.expired h
  rw [mem_fullyExpired_of_occupied hplaced.occupied]
  simp only [h.mem_expired_iff]
  refine and_congr_left fun _ => ⟨?_, ?_⟩
  · rintro ⟨node, report, hr, -, hm⟩
    exact ⟨report, hr, hm⟩
  · rintro ⟨report, hr, hm⟩
    exact ⟨report.node, report, hr, rfl, hm⟩

/-- One node that holds a model and has not let it expire keeps it for all of them. -/
theorem routing_kept (h : Represents ops state) (hn : node ∈ state.workers.nodesOf model)
    (hfresh : ∀ report, .absorb report ∈ ops → report.node = node → model ∉ report.expired) :
    ∃ nodes, state.workers.get? model = some nodes ∧
      state.routingTable.get? model = some nodes := by
  have hkept : model ∉ state.fullyExpired := by
    intro he
    obtain ⟨report, hr, hnode, hm⟩ := (h.mem_fullyExpired_iff.1 he).2 node hn
    exact hfresh report hr hnode hm
  cases hw : state.workers.get? model with
  | none => simp [Placement.nodesOf, hw] at hn
  | some nodes => exact ⟨nodes, rfl, by rw [get?_routingTable, if_neg hkept, hw]⟩

theorem consistent (h : Represents ops state) : Consistent ops state where
  disjoint node hn hf := ((h.failed node).1 hf).2 hn
  responded _ := h.mem_responded_iff
  nodes _ := h.mem_nodes_iff
  workers := h.placed_workers
  deploying := .of_ofReports h.deploying h
  tasks := .of_ofReports h.tasks h
  expired := .of_ofReports h.expired h
  fullyExpired _ := h.mem_fullyExpired_iff
  routing := get?_routingTable state
  kept _ _ hn hfresh := h.routing_kept hn hfresh

end Represents

/-- **Whatever is done to a state in whatever order, it stays consistent**: a node counts as
responded if it has ever reported, and as failed if it has only failed; every place is that of a
node that has responded; and the routing table has every model as it is held, except those that
every node which still holds them has let expire. -/
theorem consistent_run (ops : List Operation) : Consistent ops (run ops) :=
  (represents_run ops).consistent

end Aggregate

end ModelFleet
