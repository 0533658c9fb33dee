import Mathlib.Data.List.Induction
import Mathlib.Data.List.Nodup
import ModelFleet.Cycle.Rounds
import ModelFleet.Proofs.Node.Places

/-!
# What the rounds gather

The state after the first round and the outcome of the second one, described by the answers: which
nodes hold, deploy or have let expire a model (`gathered_state`), which nodes are told the routing
(`mem_nodes_state`), and which models a node has dropped (`mem_undeployed_outcome`).  From these,
`mem_workers_afterRouting` says which nodes hold a model after both rounds.
-/

namespace ModelFleet

namespace SortedSet

variable {α : Type} [Ord α] [DecidableEq α] [Std.TransOrd α] [Std.LawfulEqOrd α]

omit [DecidableEq α] [Std.LawfulEqOrd α] in
theorem nodup_toList (s : SortedSet α) : s.toList.Nodup :=
  s.sorted.imp fun h => Entries.ne_of_compare_lt h

omit [DecidableEq α] [Std.LawfulEqOrd α] in
/-- The size of a set whose elements are those of a list that pass a test. -/
theorem size_eq_countP {s : SortedSet α} {l : List α} {p : α → Bool} (hl : l.Nodup)
    (h : ∀ a, a ∈ s ↔ a ∈ l ∧ p a = true) : s.size = l.countP p := by
  have hperm : s.toList.Perm (l.filter p) := by
    rw [List.perm_ext_iff_of_nodup s.nodup_toList (hl.filter p)]
    intro a
    rw [List.mem_filter]
    exact h a
  rw [size, hperm.length_eq, List.countP_eq_length_filter]

end SortedSet

/-! ### The first round -/

/-- The placement that reports give for one of their sets. -/
def Placement.ofReports {kind : Kind} (f : NodeReport → SortedSet (Name kind))
    (reports : List NodeReport) : Placement kind :=
  reports.foldl (fun p report => p.add report.node (f report)) ∅

namespace Placement

variable {kind : Kind} {f : NodeReport → SortedSet (Name kind)}

theorem ofReports_concat (reports : List NodeReport) (report : NodeReport) :
    ofReports f (reports ++ [report]) = (ofReports f reports).add report.node (f report) := by
  rw [ofReports, List.foldl_append]
  rfl

theorem mem_nodesOf_ofReports {reports : List NodeReport} {n : NodeId} {name : Name kind} :
    n ∈ (ofReports f reports).nodesOf name ↔
      ∃ report ∈ reports, report.node = n ∧ name ∈ f report := by
  induction reports using List.reverseRecOn with
  | nil => simp [ofReports, nodesOf]
  | append_singleton reports report ih =>
    rw [ofReports_concat, mem_at_add, ih]
    simp only [List.mem_append, List.mem_singleton, or_and_right, exists_or, exists_eq_left]
    refine or_congr_right ?_
    rw [and_comm, eq_comm]

theorem occupied_ofReports (reports : List NodeReport) : Occupied (ofReports f reports) := by
  induction reports using List.reverseRecOn with
  | nil => exact occupied_empty
  | append_singleton reports report ih =>
    rw [ofReports_concat]
    exact occupied_add ih report.node (f report)

end Placement

namespace Gather

/-- The reports among answers. -/
def reports (answers : List Answer) : List NodeReport :=
  answers.filterMap fun answer => (reportOf answer).toOption

theorem state_concat (answers : List Answer) (answer : Answer) :
    state (answers ++ [answer]) = absorb (state answers) answer := by
  rw [state, List.foldl_append]
  rfl

theorem reports_concat (answers : List Answer) (answer : Answer) :
    reports (answers ++ [answer]) = reports answers ++ (reportOf answer).toOption.toList := by
  cases h : reportOf answer <;> simp [reports, h, Except.toOption]

/-- An answer that does not count changes nothing of what was reported. -/
theorem markFailed_eq (state : Aggregate) (node : NodeId) :
    state.markFailed node = { state with failed := (state.markFailed node).failed } := by
  unfold Aggregate.markFailed
  split <;> rfl

@[simp]
theorem responded_markFailed (state : Aggregate) (node : NodeId) :
    (state.markFailed node).responded = state.responded := by
  rw [markFailed_eq]

theorem mem_failed_markFailed {state : Aggregate} {node n : NodeId} :
    n ∈ (state.markFailed node).failed ↔
      n ∈ state.failed ∨ (n = node ∧ node ∉ state.responded) := by
  unfold Aggregate.markFailed
  split
  · next h => simp [h]
  · next h => simp [h, SortedSet.mem_insert, or_comm]

/-- The parts of a state that come from the reports, each by its set of names. -/
structure Gathered (state : Aggregate) (reports : List NodeReport) : Prop where
  workers : state.workers = .ofReports (·.deployed) reports
  deploying : state.deploying = .ofReports (·.deploying) reports
  tasks : state.tasks = .ofReports (·.tasks) reports
  expired : state.expired = .ofReports (·.expired) reports

theorem gathered_absorb_report {state : Aggregate} {seen : List NodeReport}
    (h : Gathered state seen) (report : NodeReport) :
    Gathered (state.absorb report) (seen ++ [report]) where
  workers := by rw [Placement.ofReports_concat, ← h.workers]; rfl
  deploying := by rw [Placement.ofReports_concat, ← h.deploying]; rfl
  tasks := by rw [Placement.ofReports_concat, ← h.tasks]; rfl
  expired := by rw [Placement.ofReports_concat, ← h.expired]; rfl

theorem gathered_ofReports (reports : List NodeReport) :
    Gathered (.ofReports reports) reports := by
  induction reports using List.reverseRecOn with
  | nil => exact ⟨rfl, rfl, rfl, rfl⟩
  | append_singleton reports report ih =>
    rw [Aggregate.ofReports, List.foldl_append]
    exact gathered_absorb_report ih report

theorem gathered_absorb {state : Aggregate} {seen : List NodeReport} (h : Gathered state seen)
    (answer : Answer) :
    Gathered (absorb state answer) (seen ++ (reportOf answer).toOption.toList) := by
  unfold absorb
  cases hr : reportOf answer with
  | ok report =>
    simp only [Except.toOption, Option.toList_some]
    exact gathered_absorb_report h report
  | error e =>
    simp only [Except.toOption, Option.toList_none, List.append_nil]
    rw [markFailed_eq]
    exact ⟨h.workers, h.deploying, h.tasks, h.expired⟩

theorem gathered_state (answers : List Answer) : Gathered (state answers) (reports answers) := by
  induction answers using List.reverseRecOn with
  | nil => exact ⟨rfl, rfl, rfl, rfl⟩
  | append_singleton answers answer ih =>
    rw [state_concat, reports_concat]
    exact gathered_absorb ih answer

/-- A report is that of the node that was asked. -/
theorem node_of_reportOf {answer : Answer} {report : NodeReport}
    (h : reportOf answer = .ok report) : report.node = answer.1 := by
  unfold reportOf at h
  split at h
  · cases h
    rfl
  · cases h
  · cases h

theorem reportOf_eq_ok_iff {node : NodeId} {result : Except ClusterError SyncResponse}
    {report : NodeReport} :
    reportOf (node, result) = .ok report ↔
      ∃ said, result = .ok (.report said) ∧ { said with node } = report := by
  cases result with
  | error e => simp [reportOf]
  | ok response => cases response <;> simp [reportOf]

theorem mem_reports_iff {answers : List Answer} {report : NodeReport} :
    report ∈ reports answers ↔ ∃ answer ∈ answers, reportOf answer = .ok report := by
  simp only [reports, List.mem_filterMap]
  refine exists_congr fun answer => and_congr_right fun _ => ?_
  cases reportOf answer <;> simp [Except.toOption]

theorem exists_of_mem_reports {answers : List Answer} {report : NodeReport}
    (h : report ∈ reports answers) : ∃ answer ∈ answers, reportOf answer = .ok report :=
  mem_reports_iff.1 h

/-- What the reports say is what the nodes say that were asked, whichever node a report names. -/
theorem exists_report_iff {kind : Kind} {f : NodeReport → SortedSet (Name kind)}
    (hf : ∀ report node, f { report with node } = f report) {answers : List Answer} {n : NodeId}
    {name : Name kind} :
    (∃ report ∈ reports answers, report.node = n ∧ name ∈ f report) ↔
      ∃ said, (n, .ok (.report said)) ∈ answers ∧ name ∈ f said := by
  constructor
  · rintro ⟨report, hr, rfl, hm⟩
    obtain ⟨⟨node, result⟩, ha, ho⟩ := mem_reports_iff.1 hr
    obtain ⟨said, rfl, rfl⟩ := reportOf_eq_ok_iff.1 ho
    rw [hf] at hm
    exact ⟨said, ha, hm⟩
  · rintro ⟨said, ha, hm⟩
    refine ⟨{ said with node := n }, mem_reports_iff.2 ⟨_, ha, rfl⟩, rfl, ?_⟩
    rwa [hf]

/-- The nodes that have responded are those with a report. -/
theorem mem_responded_state {answers : List Answer} {n : NodeId} :
    n ∈ (state answers).responded ↔ ∃ report ∈ reports answers, report.node = n := by
  induction answers using List.reverseRecOn with
  | nil =>
    constructor
    · intro h
      cases h
    · rintro ⟨report, hr, -⟩
      cases hr
  | append_singleton answers answer ih =>
    rw [state_concat, reports_concat, absorb]
    cases reportOf answer with
    | error e =>
      rw [markFailed_eq]
      simpa [Except.toOption] using ih
    | ok report =>
      simp only [Aggregate.absorb, SortedSet.mem_insert, ih, Except.toOption, Option.toList_some,
        List.mem_append, List.mem_singleton, or_and_right, exists_or, exists_eq_left]
      rw [or_comm, eq_comm]

theorem mem_responded_state_iff {answers : List Answer} {n : NodeId} :
    n ∈ (state answers).responded ↔ ∃ said, (n, .ok (.report said)) ∈ answers := by
  rw [mem_responded_state]
  constructor
  · rintro ⟨report, hr, rfl⟩
    obtain ⟨⟨node, result⟩, ha, ho⟩ := mem_reports_iff.1 hr
    obtain ⟨said, rfl, rfl⟩ := reportOf_eq_ok_iff.1 ho
    exact ⟨said, ha⟩
  · rintro ⟨said, ha⟩
    exact ⟨{ said with node := n }, mem_reports_iff.2 ⟨_, ha, rfl⟩, rfl⟩

/-- Those that have failed are those that were asked and have not responded. -/
theorem mem_failed_state {answers : List Answer} {n : NodeId} :
    n ∈ (state answers).failed ↔ n ∈ answers.map (·.1) ∧ n ∉ (state answers).responded := by
  induction answers using List.reverseRecOn with
  | nil =>
    constructor
    · intro h
      cases h
    · rintro ⟨h, -⟩
      cases h
  | append_singleton answers answer ih =>
    rw [state_concat, absorb, List.map_append, List.mem_append, List.map_singleton,
      List.mem_singleton]
    cases hr : reportOf answer with
    | ok report =>
      simp only [Aggregate.absorb, SortedSet.mem_erase, SortedSet.mem_insert, node_of_reportOf hr,
        ih]
      tauto
    | error e =>
      simp only [responded_markFailed, mem_failed_markFailed, ih]
      constructor
      · rintro (⟨hn, hr⟩ | ⟨rfl, hr⟩)
        · exact ⟨.inl hn, hr⟩
        · exact ⟨.inr rfl, hr⟩
      · rintro ⟨hn | rfl, hr⟩
        · exact .inl ⟨hn, hr⟩
        · exact .inr ⟨rfl, hr⟩

theorem mem_nodes_absorb {state : Aggregate} {answer : Answer} {n : NodeId} :
    n ∈ (absorb state answer).nodes ↔ n ∈ state.nodes ∨ n = answer.1 := by
  unfold absorb Aggregate.nodes
  cases hr : reportOf answer with
  | ok report =>
    simp only [Aggregate.absorb, SortedSet.mem_union, SortedSet.mem_insert, SortedSet.mem_erase,
      node_of_reportOf hr]
    by_cases h : n = answer.1
    · simp [h]
    · simp [h]
  | error e =>
    simp only [SortedSet.mem_union, responded_markFailed, mem_failed_markFailed]
    by_cases h : answer.1 ∈ state.responded
    · constructor
      · rintro (hn | hn | ⟨-, hr⟩)
        · exact .inl (.inl hn)
        · exact .inl (.inr hn)
        · exact absurd h hr
      · rintro (hn | rfl)
        · exact hn.imp_right .inl
        · exact .inl h
    · simp [h, or_assoc]

/-- **The second round is about all nodes that were asked in the first.** -/
theorem mem_nodes_state {answers : List Answer} {n : NodeId} :
    n ∈ (state answers).nodes ↔ n ∈ answers.map (·.1) := by
  induction answers using List.reverseRecOn with
  | nil =>
    constructor
    · intro h
      cases h
    · intro h
      cases h
  | append_singleton answers answer ih =>
    rw [state_concat, mem_nodes_absorb, ih, List.map_append, List.mem_append]
    simp

end Gather

/-! ### The second round -/

namespace Aggregate

/-- A model is fully expired if some node has let it expire, and every node that holds it has. -/
theorem mem_fullyExpired_of_occupied {state : Aggregate} (h : state.expired.Occupied)
    {model : ModelId} :
    model ∈ state.fullyExpired ↔
      (∃ n, n ∈ state.expired.nodesOf model) ∧
        ∀ n ∈ state.workers.nodesOf model, n ∈ state.expired.nodesOf model := by
  rw [mem_fullyExpired]
  constructor
  · rintro ⟨nodes, hn, hh⟩
    have hnodes : state.expired.nodesOf model = nodes := by simp [Placement.nodesOf, hn]
    rw [hnodes]
    exact ⟨h model nodes hn, SortedSet.isSubset_iff.1 hh⟩
  · rintro ⟨⟨n, hn⟩, hh⟩
    cases hg : state.expired.get? model with
    | none =>
      simp [Placement.nodesOf, hg] at hn
    | some nodes =>
      have hnodes : state.expired.nodesOf model = nodes := by simp [Placement.nodesOf, hg]
      rw [hnodes] at hh
      exact ⟨nodes, rfl, SortedSet.isSubset_iff.2 hh⟩

theorem mem_fullyExpired_of_gathered {state : Aggregate} {reports : List NodeReport}
    (h : Gather.Gathered state reports) {model : ModelId} :
    model ∈ state.fullyExpired ↔
      (∃ n, n ∈ state.expired.nodesOf model) ∧
        ∀ n ∈ state.workers.nodesOf model, n ∈ state.expired.nodesOf model := by
  refine mem_fullyExpired_of_occupied ?_
  rw [h.expired]
  exact Placement.occupied_ofReports reports

theorem deploying_afterRouting (state : Aggregate) (outcome : RoutingOutcome) :
    (state.afterRouting outcome).deploying = state.deploying := by
  unfold afterRouting
  induction outcome.undeployed.entries generalizing state with
  | nil => rfl
  | cons entry rest ih => rw [List.foldl_cons, ih, removeWorkers]

/-- **The nodes hold after the second round what they did not drop in it.** -/
theorem mem_workers_afterRouting {state : Aggregate} {outcome : RoutingOutcome} {n : NodeId}
    {model : ModelId} :
    n ∈ (state.afterRouting outcome).workers.nodesOf model ↔
      n ∈ state.workers.nodesOf model ∧
        ¬ ∃ models, outcome.undeployed.get? n = some models ∧ model ∈ models := by
  simp only [SortedMap.get?_eq_some_iff]
  unfold afterRouting
  induction outcome.undeployed.entries generalizing state with
  | nil => simp
  | cons entry rest ih =>
    rw [List.foldl_cons, ih, mem_workers_removeWorkers, and_assoc]
    refine and_congr_right fun _ => ?_
    obtain ⟨node, models⟩ := entry
    simp only [List.mem_cons, Prod.mk.injEq]
    constructor
    · rintro ⟨hhead, hrest⟩ ⟨models', ⟨rfl, rfl⟩ | hm, hmodel⟩
      · exact hhead ⟨hmodel, rfl⟩
      · exact hrest ⟨models', hm, hmodel⟩
    · intro h
      refine ⟨?_, ?_⟩
      · rintro ⟨hmodel, rfl⟩
        exact h ⟨models, .inl ⟨rfl, rfl⟩, hmodel⟩
      · rintro ⟨models', hm, hmodel⟩
        exact h ⟨models', .inr hm, hmodel⟩

end Aggregate

namespace Routing

/-- The models that a node says it has dropped. -/
def dropped (answer : Answer) : SortedSet ModelId := (undeployedOf answer).toOption.getD ∅

theorem undeployedOf_eq_ok_iff {node : NodeId} {result : Except ClusterError SyncResponse}
    {undeployed : SortedSet ModelId} :
    undeployedOf (node, result) = .ok undeployed ↔
      ∃ named, result = .ok (.applied named undeployed) := by
  cases result with
  | error e => simp [undeployedOf]
  | ok response => cases response <;> simp [undeployedOf]

theorem mem_dropped_iff {answer : Answer} {model : ModelId} :
    model ∈ dropped answer ↔ ∃ undeployed, undeployedOf answer = .ok undeployed ∧
      model ∈ undeployed := by
  unfold dropped
  cases undeployedOf answer with
  | error e => simp [Except.toOption]
  | ok undeployed => simp [Except.toOption]

theorem outcome_concat (answers : List Answer) (answer : Answer) :
    outcome (answers ++ [answer]) = absorb (outcome answers) answer := by
  rw [outcome, List.foldl_append]
  rfl

theorem get?_undeployed_absorb_of_ne (outcome : RoutingOutcome) {answer : Answer} {n : NodeId}
    (h : n ≠ answer.1) :
    (absorb outcome answer).undeployed.get? n = outcome.undeployed.get? n := by
  unfold absorb
  cases undeployedOf answer with
  | error e => rfl
  | ok undeployed =>
    simp only
    split
    · rfl
    · rw [SortedMap.get?_insert, if_neg h]

theorem get?_undeployed_outcome {answers : List Answer} {n : NodeId}
    (h : n ∉ answers.map (·.1)) : (outcome answers).undeployed.get? n = none := by
  induction answers using List.reverseRecOn with
  | nil => rfl
  | append_singleton answers answer ih =>
    simp only [List.map_append, List.mem_append, not_or, List.map_cons, List.map_nil,
      List.mem_singleton] at h
    rw [outcome_concat, get?_undeployed_absorb_of_ne _ h.2]
    exact ih h.1

theorem get?_undeployed_absorb_self {outcome : RoutingOutcome} (answer : Answer)
    {models : SortedSet ModelId} (h : outcome.undeployed.get? answer.1 = none) :
    (absorb outcome answer).undeployed.get? answer.1 = some models ↔
      models.isEmpty = false ∧ undeployedOf answer = .ok models := by
  unfold absorb
  cases undeployedOf answer with
  | error e => simp [h]
  | ok undeployed =>
    simp only [Except.ok.injEq]
    split
    · next he =>
      rw [h]
      refine ⟨fun hs => (by cases hs), ?_⟩
      rintro ⟨hm, rfl⟩
      rw [he] at hm
      cases hm
    · next he =>
      rw [SortedMap.get?_insert_self, Option.some.injEq]
      refine ⟨?_, And.right⟩
      rintro rfl
      exact ⟨by simpa using he, rfl⟩

/-- **What is noted of a node is what it says itself**, if each node answers once. -/
theorem get?_undeployed_outcome_iff {answers : List Answer} (h : (answers.map (·.1)).Nodup)
    {n : NodeId} {models : SortedSet ModelId} :
    (outcome answers).undeployed.get? n = some models ↔
      models.isEmpty = false ∧ ∃ named, (n, .ok (.applied named models)) ∈ answers := by
  induction answers using List.reverseRecOn with
  | nil =>
    constructor
    · intro hm
      cases hm
    · rintro ⟨-, named, hm⟩
      cases hm
  | append_singleton answers answer ih =>
    obtain ⟨node, result⟩ := answer
    rw [List.map_append, List.nodup_append] at h
    obtain ⟨hn, -, hd⟩ := h
    have hnew : node ∉ answers.map (·.1) := fun hm => hd _ hm node (by simp) rfl
    rw [outcome_concat]
    by_cases hne : n = node
    · subst hne
      have hnot : ∀ result, (n, result) ∉ answers := fun result hm =>
        hnew (List.mem_map_of_mem hm)
      rw [get?_undeployed_absorb_self (n, result) (get?_undeployed_outcome hnew),
        undeployedOf_eq_ok_iff]
      simp only [List.mem_append, hnot, List.mem_singleton, Prod.mk.injEq, true_and, false_or]
      exact and_congr_right fun _ => exists_congr fun _ => eq_comm
    · rw [get?_undeployed_absorb_of_ne _ hne, ih hn]
      simp [hne]

/-- **A node has acknowledged what it was told if one of its answers says so.** -/
theorem mem_acknowledged_outcome {answers : List Answer} {n : NodeId} :
    n ∈ (outcome answers).acknowledged ↔
      ∃ answer ∈ answers, answer.1 = n ∧ ∃ undeployed, undeployedOf answer = .ok undeployed := by
  induction answers using List.reverseRecOn with
  | nil =>
    constructor
    · intro h
      cases h
    · rintro ⟨answer, ha, -⟩
      cases ha
  | append_singleton answers answer ih =>
    simp only [outcome_concat, absorb, List.mem_append, List.mem_singleton, or_and_right, exists_or,
      exists_eq_left, ← ih]
    cases hu : undeployedOf answer with
    | error e => simp
    | ok undeployed => simp [SortedSet.mem_insert, or_comm, eq_comm]

theorem mem_acknowledged_outcome_iff {answers : List Answer} {n : NodeId} :
    n ∈ (outcome answers).acknowledged ↔
      ∃ named undeployed, (n, .ok (.applied named undeployed)) ∈ answers := by
  rw [mem_acknowledged_outcome]
  constructor
  · rintro ⟨⟨node, result⟩, ha, rfl, undeployed, hu⟩
    obtain ⟨named, rfl⟩ := undeployedOf_eq_ok_iff.1 hu
    exact ⟨named, undeployed, ha⟩
  · rintro ⟨named, undeployed, ha⟩
    exact ⟨_, ha, rfl, undeployed, rfl⟩

theorem mem_failed_outcome {answers : List Answer} {n : NodeId} :
    n ∈ (outcome answers).failed ↔
      ∃ answer ∈ answers, answer.1 = n ∧ ∃ e, undeployedOf answer = .error e := by
  induction answers using List.reverseRecOn with
  | nil =>
    constructor
    · intro h
      cases h
    · rintro ⟨answer, ha, -⟩
      cases ha
  | append_singleton answers answer ih =>
    simp only [outcome_concat, absorb, List.mem_append, List.mem_singleton, or_and_right, exists_or,
      exists_eq_left, ← ih]
    cases hu : undeployedOf answer with
    | ok undeployed => simp
    | error e => simp [SortedSet.mem_insert, or_comm, eq_comm]

/-- Of nodes that answer once each, those have failed that have not acknowledged. -/
theorem mem_failed_outcome_iff {answers : List Answer} (h : (answers.map (·.1)).Nodup)
    {n : NodeId} :
    n ∈ (outcome answers).failed ↔
      n ∈ answers.map (·.1) ∧ n ∉ (outcome answers).acknowledged := by
  rw [mem_failed_outcome, mem_acknowledged_outcome]
  constructor
  · rintro ⟨answer, ha, rfl, e, he⟩
    refine ⟨List.mem_map_of_mem ha, ?_⟩
    rintro ⟨other, ho, hname, undeployed, hu⟩
    obtain rfl := List.inj_on_of_nodup_map h ho ha hname
    rw [he] at hu
    cases hu
  · rintro ⟨hn, hnot⟩
    obtain ⟨answer, ha, rfl⟩ := List.mem_map.1 hn
    cases hu : undeployedOf answer with
    | ok undeployed => exact absurd ⟨answer, ha, rfl, undeployed, hu⟩ hnot
    | error e => exact ⟨answer, ha, rfl, e, hu⟩

/-- A node is noted only if it has dropped something. -/
theorem exists_mem_of_undeployed {answers : List Answer} {n : NodeId}
    {models : SortedSet ModelId} (h : (outcome answers).undeployed.get? n = some models) :
    ∃ model, model ∈ models := by
  induction answers using List.reverseRecOn with
  | nil => cases h
  | append_singleton answers answer ih =>
    rw [outcome_concat, absorb] at h
    cases hu : undeployedOf answer with
    | error e =>
      rw [hu] at h
      exact ih h
    | ok undeployed =>
      rw [hu] at h
      simp only at h
      split at h
      · exact ih h
      · next he =>
        rw [SortedMap.get?_insert] at h
        split at h
        · cases h
          rw [SortedSet.isEmpty_iff] at he
          exact not_forall_not.1 he
        · exact ih h

/-- **What counts as dropped is what the nodes say**, if each of them answers once. -/
theorem mem_undeployed_outcome {answers : List Answer} {n : NodeId} {model : ModelId}
    (h : (answers.map (·.1)).Nodup) :
    (∃ models, (outcome answers).undeployed.get? n = some models ∧ model ∈ models) ↔
      ∃ answer ∈ answers, answer.1 = n ∧ model ∈ dropped answer := by
  simp only [get?_undeployed_outcome_iff h, mem_dropped_iff]
  constructor
  · rintro ⟨models, ⟨-, named, ha⟩, hm⟩
    exact ⟨_, ha, rfl, models, rfl, hm⟩
  · rintro ⟨⟨node, result⟩, ha, rfl, models, hu, hm⟩
    obtain ⟨named, rfl⟩ := undeployedOf_eq_ok_iff.1 hu
    have hne : models.isEmpty = false := by
      rw [Bool.eq_false_iff, Ne, SortedSet.isEmpty_iff, not_forall]
      exact ⟨model, not_not.2 hm⟩
    exact ⟨models, ⟨hne, named, ha⟩, hm⟩

end Routing

end ModelFleet
