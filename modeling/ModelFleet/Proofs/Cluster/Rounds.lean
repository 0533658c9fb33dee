import ModelFleet.Proofs.Cluster.Local

/-!
# Two rounds and two more

What the rounds of a cycle give in a cluster within the process, in terms of the nodes that answer
in time (`rounds_spec`), and what those of a second cycle give when nothing has changed the cluster
in between: the second cycle sees on each node what the first one has left there
(`RoundsSpec.workers_again`, `RoundsSpec.deploying_again`), nothing is fully expired any more
(`RoundsSpec.not_mem_fullyExpired`), and so nothing is undeployed (`RoundsSpec.undeployed_again`).
-/

namespace ModelFleet

namespace LocalCluster

variable {cluster : LocalCluster} {timeout : Nat}

/-- The reports of the nodes that take part and answer in time, in some order. -/
def Reported (cluster : LocalCluster) (timeout : Nat) (reports : List NodeReport) : Prop :=
  ∀ report, report ∈ reports ↔
    ∃ node runtime, cluster.answering timeout node = some runtime ∧ report = runtime.report node

theorem Reported.mem_ofReports {reports : List NodeReport} (h : Reported cluster timeout reports)
    {kind : Kind} {f : NodeReport → SortedSet (Name kind)} {node : NodeId} {name : Name kind} :
    node ∈ (Placement.ofReports f reports).nodesOf name ↔
      ∃ runtime, cluster.answering timeout node = some runtime ∧
        name ∈ f (runtime.report node) := by
  rw [Placement.mem_nodesOf_ofReports]
  constructor
  · rintro ⟨report, hr, rfl, hm⟩
    obtain ⟨node, runtime, ha, rfl⟩ := (h report).1 hr
    exact ⟨runtime, ha, hm⟩
  · rintro ⟨runtime, ha, hm⟩
    exact ⟨runtime.report node, (h _).2 ⟨node, runtime, ha, rfl⟩, rfl, hm⟩

/-- What the nodes that answer in time say of a cluster. -/
structure Seen (cluster : LocalCluster) (timeout : Nat) (state : Aggregate) : Prop where
  workers : ∀ node model, node ∈ state.workers.nodesOf model ↔
    ∃ runtime, cluster.answering timeout node = some runtime ∧ model ∈ runtime.deployed
  deploying : ∀ node model, node ∈ state.deploying.nodesOf model ↔
    ∃ runtime, cluster.answering timeout node = some runtime ∧
      model ∈ (runtime.report node).deploying
  expired : ∀ node model, node ∈ state.expired.nodesOf model ↔
    ∃ runtime, cluster.answering timeout node = some runtime ∧ model ∈ runtime.expired
  fullyExpired : ∀ model, model ∈ state.fullyExpired ↔
    (∃ node, node ∈ state.expired.nodesOf model) ∧
      ∀ node ∈ state.workers.nodesOf model, node ∈ state.expired.nodesOf model

theorem Reported.seen {reports : List NodeReport} (h : Reported cluster timeout reports)
    {state : Aggregate} (hg : Gather.Gathered state reports) : Seen cluster timeout state where
  workers node model := by
    rw [hg.workers]
    exact h.mem_ofReports
  deploying node model := by
    rw [hg.deploying]
    exact h.mem_ofReports
  expired node model := by
    rw [hg.expired]
    exact h.mem_ofReports
  fullyExpired model := Aggregate.mem_fullyExpired_of_gathered hg

/-- The state of a cluster, put together from the reports of the nodes that answer in time. -/
def view (cluster : LocalCluster) (timeout : Nat) : Aggregate :=
  .ofReports (cluster.eligible.filterMap fun node =>
    (cluster.answering timeout node).map (·.report node))

theorem seen_view (cluster : LocalCluster) (timeout : Nat) :
    Seen cluster timeout (cluster.view timeout) := by
  refine Reported.seen (fun report => ?_) (Gather.gathered_ofReports _)
  simp only [List.mem_filterMap, Option.map_eq_some_iff]
  constructor
  · rintro ⟨node, -, runtime, ha, rfl⟩
    exact ⟨node, runtime, ha, rfl⟩
  · rintro ⟨node, runtime, ha, rfl⟩
    exact ⟨node, (answering_eq_some_iff.1 ha).1, runtime, ha, rfl⟩

/-- What the two rounds of a cycle give. -/
structure RoundsSpec (cluster : LocalCluster) (timeout : Nat)
    (rounds : Outside.Rounds LocalCluster) : Prop where
  seen : Seen cluster timeout rounds.state
  dropped : ∀ node model,
    (∃ models, rounds.outcome.undeployed.get? node = some models ∧ model ∈ models) ↔
      ∃ runtime, cluster.answering timeout node = some runtime ∧
        model ∈ runtime.removable rounds.state.fullyExpired
  noted : ∀ node models, rounds.outcome.undeployed.get? node = some models →
    ∃ model, model ∈ models
  acknowledged : ∀ node, node ∈ rounds.outcome.acknowledged ↔
    ∃ runtime, cluster.answering timeout node = some runtime
  served : ∀ node, rounds.cluster.nodes.get? node =
    match cluster.answering timeout node with
    | some runtime => some (runtime.apply rounds.state.push)
    | none => cluster.nodes.get? node
  membershipDown : rounds.cluster.membershipDown = cluster.membershipDown

/-- **The rounds of a cycle in which all nodes take part that may.** -/
theorem rounds_spec (cluster : LocalCluster) (timeout : Nat) (bulk : Nat → Fate)
    (time : Nat → Instant) (cycle : CycleId) :
    RoundsSpec cluster timeout
      ((outside timeout bulk time).rounds cycle cluster.eligible cluster) := by
  let first := (outside timeout bulk time).askAll (.gather cycle) cluster.eligible cluster
  let state := Gather.state first.2
  let second := (outside timeout bulk time).askAll (.applyRouting cycle state.push)
    state.nodes.toList first.1
  have hfirst : Sent cluster first.1 timeout (.gather cycle) cluster.eligible first.2 :=
    sent_askAll bulk time cluster timeout (.gather cycle) cluster.nodup_eligible
  have hsecond : Sent first.1 second.1 timeout (.applyRouting cycle state.push)
      state.nodes.toList second.2 :=
    sent_askAll bulk time first.1 timeout (.applyRouting cycle state.push)
      state.nodes.nodup_toList
  have hsame : ∀ node, first.1.inTime timeout node = cluster.inTime timeout node :=
    fun node => inTime_congr (hfirst.get?_of_gather node) timeout
  have hnodes : ∀ node, node ∈ state.nodes.toList ↔ node ∈ cluster.eligible := by
    intro node
    rw [← SortedSet.mem_def, Gather.mem_nodes_state, hfirst.asked]
  have hanswering : ∀ node runtime, (node ∈ state.nodes.toList ∧
      first.1.inTime timeout node = some runtime) ↔
        cluster.answering timeout node = some runtime := by
    intro node runtime
    rw [hnodes, hsame, answering_eq_some_iff]
  have hreported : Reported cluster timeout (Gather.reports first.2) := by
    intro report
    simp only [hfirst.mem_reports, answering_eq_some_iff]
    constructor
    · rintro ⟨node, hn, runtime, hi, rfl⟩
      exact ⟨node, runtime, ⟨hn, hi⟩, rfl⟩
    · rintro ⟨node, runtime, ⟨hn, hi⟩, rfl⟩
      exact ⟨node, hn, runtime, hi, rfl⟩
  exact {
    seen := hreported.seen (Gather.gathered_state first.2)
    dropped := by
      intro node model
      have hn : (second.2.map (·.1)).Nodup := by
        rw [hsecond.asked]
        exact state.nodes.nodup_toList
      refine (Routing.mem_undeployed_outcome hn).trans (hsecond.exists_dropped_iff.trans ?_)
      rw [← exists_and_left]
      refine exists_congr fun runtime => ?_
      rw [← and_assoc, hanswering]
      rfl
    noted := fun node models h => Routing.exists_mem_of_undeployed h
    acknowledged := by
      intro node
      refine hsecond.mem_acknowledged.trans ?_
      rw [← exists_and_left]
      exact exists_congr fun runtime => hanswering node runtime
    served := by
      intro node
      show second.1.nodes.get? node = _
      cases ha : cluster.answering timeout node with
      | some runtime =>
        obtain ⟨hn, hi⟩ := (hanswering node runtime).2 ha
        rw [hsecond.served node hn, hi]
        rfl
      | none =>
        have hkept : second.1.nodes.get? node = first.1.nodes.get? node := by
          by_cases hn : node ∈ state.nodes.toList
          · rw [hsecond.served node hn]
            cases hi : first.1.inTime timeout node with
            | none => rfl
            | some runtime =>
              have := (hanswering node runtime).1 ⟨hn, hi⟩
              rw [ha] at this
              cases this
          · exact hsecond.kept node hn
        rw [hkept, hfirst.get?_of_gather]
    membershipDown := hsecond.membershipDown.trans hfirst.membershipDown }

/-! ### What a cycle sees after its rounds -/

variable {rounds : Outside.Rounds LocalCluster}

/-- What is seen after the rounds: which nodes hold which models, and who deploys what. -/
theorem RoundsSpec.mem_workers (h : RoundsSpec cluster timeout rounds) {node : NodeId}
    {model : ModelId} :
    node ∈ (rounds.state.afterRouting rounds.outcome).workers.nodesOf model ↔
      ∃ runtime, cluster.answering timeout node = some runtime ∧ model ∈ runtime.deployed ∧
        model ∉ rounds.state.fullyExpired := by
  rw [Aggregate.mem_workers_afterRouting, h.seen.workers, h.dropped]
  constructor
  · rintro ⟨⟨runtime, ha, hm⟩, hnot⟩
    refine ⟨runtime, ha, hm, fun he => hnot ⟨runtime, ha, ?_⟩⟩
    simp [NodeRuntime.removable, he, hm]
  · rintro ⟨runtime, ha, hm, he⟩
    refine ⟨⟨runtime, ha, hm⟩, ?_⟩
    rintro ⟨runtime', -, hr⟩
    exact he (SortedSet.mem_filter.1 hr).1

/-- The nodes that answer in time do so afterwards, with the routing applied. -/
theorem RoundsSpec.answering_again (h : RoundsSpec cluster timeout rounds) (node : NodeId) :
    rounds.cluster.answering timeout node =
      (cluster.answering timeout node).map (·.apply rounds.state.push) := by
  rw [answering_eq rounds.cluster, h.served]
  cases ha : cluster.answering timeout node with
  | none =>
    rw [answering_eq] at ha
    exact ha
  | some runtime =>
    rw [answering_eq] at ha
    obtain ⟨-, hr⟩ := Option.filter_eq_some_iff.1 ha
    exact Option.filter_eq_some_iff.2 ⟨rfl, hr⟩

theorem RoundsSpec.answering_again_iff (h : RoundsSpec cluster timeout rounds) {node : NodeId}
    {p : NodeRuntime → Prop} :
    (∃ runtime, rounds.cluster.answering timeout node = some runtime ∧ p runtime) ↔
      ∃ runtime, cluster.answering timeout node = some runtime ∧
        p (runtime.apply rounds.state.push) := by
  rw [h.answering_again]
  simp only [Option.map_eq_some_iff]
  constructor
  · rintro ⟨_, ⟨runtime, ha, rfl⟩, hp⟩
    exact ⟨runtime, ha, hp⟩
  · rintro ⟨runtime, ha, hp⟩
    exact ⟨_, ⟨runtime, ha, rfl⟩, hp⟩

variable {state : Aggregate}

theorem RoundsSpec.workers_again (h : RoundsSpec cluster timeout rounds)
    (hs : Seen rounds.cluster timeout state) {node : NodeId} {model : ModelId} :
    node ∈ state.workers.nodesOf model ↔
      node ∈ (rounds.state.afterRouting rounds.outcome).workers.nodesOf model := by
  rw [hs.workers, h.answering_again_iff, h.mem_workers]
  refine exists_congr fun runtime => and_congr_right fun _ => ?_
  exact SortedSet.mem_filter.trans (and_congr_right fun _ => decide_eq_true_iff)

theorem RoundsSpec.deploying_again (h : RoundsSpec cluster timeout rounds)
    (hs : Seen rounds.cluster timeout state) {node : NodeId} {model : ModelId} :
    node ∈ state.deploying.nodesOf model ↔ node ∈ rounds.state.deploying.nodesOf model := by
  rw [hs.deploying, h.answering_again_iff, h.seen.deploying]
  rfl

theorem RoundsSpec.expired_again (h : RoundsSpec cluster timeout rounds)
    (hs : Seen rounds.cluster timeout state) {node : NodeId} {model : ModelId} :
    node ∈ state.expired.nodesOf model ↔
      node ∈ rounds.state.expired.nodesOf model ∧ model ∉ rounds.state.fullyExpired := by
  rw [hs.expired, h.answering_again_iff, h.seen.expired]
  constructor
  · rintro ⟨runtime, ha, hm⟩
    obtain ⟨hm, he⟩ := SortedSet.mem_filter.1 hm
    exact ⟨⟨runtime, ha, hm⟩, of_decide_eq_true he⟩
  · rintro ⟨⟨runtime, ha, hm⟩, he⟩
    exact ⟨runtime, ha, SortedSet.mem_filter.2 ⟨hm, decide_eq_true he⟩⟩

/-- **Nothing is fully expired any more**: what was has been dropped, and a model that was not had a
node that held it and had not let it expire, or was not expired at all. -/
theorem RoundsSpec.not_mem_fullyExpired (h : RoundsSpec cluster timeout rounds)
    (hs : Seen rounds.cluster timeout state) (model : ModelId) : model ∉ state.fullyExpired := by
  intro hm
  obtain ⟨⟨node, hn⟩, hheld⟩ := (hs.fullyExpired model).1 hm
  obtain ⟨hexpired, hnot⟩ := (h.expired_again hs).1 hn
  refine hnot ((h.seen.fullyExpired model).2 ⟨⟨node, hexpired⟩, fun other ho => ?_⟩)
  have hagain : other ∈ state.workers.nodesOf model := by
    rw [h.workers_again hs, h.mem_workers]
    obtain ⟨runtime, ha, hmodel⟩ := (h.seen.workers other model).1 ho
    exact ⟨runtime, ha, hmodel, hnot⟩
  exact ((h.expired_again hs).1 (hheld other hagain)).1

variable {rounds' : Outside.Rounds LocalCluster}

/-- **A second cycle undeploys nothing.** -/
theorem RoundsSpec.undeployed_again (h : RoundsSpec cluster timeout rounds)
    (h' : RoundsSpec rounds.cluster timeout rounds') : rounds'.outcome.undeployed = ∅ := by
  refine SortedMap.ext_get? fun node => ?_
  rw [SortedMap.get?_empty, Option.eq_none_iff_forall_ne_some]
  intro models hm
  obtain ⟨model, hmodel⟩ := h'.noted node models hm
  obtain ⟨runtime, -, hr⟩ := (h'.dropped node model).1 ⟨models, hm, hmodel⟩
  exact h.not_mem_fullyExpired h'.seen model (SortedSet.mem_filter.1 hr).1

end LocalCluster

end ModelFleet
