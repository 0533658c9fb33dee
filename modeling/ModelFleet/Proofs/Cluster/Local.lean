import ModelFleet.Proofs.Node.Gathering
import ModelFleet.Proofs.Run.Stages

/-!
# The rounds of a cluster within the process

A node answers in time or not at all (`LocalCluster.ask`), as the calls of a simulated network do
(`ask_eq_place`).  `Sent` says what a message to several nodes does, and `sent_askAll` that it does
so: the first round leaves all runtimes as they are (`Sent.get?_of_gather`), and in the second one
the nodes that answer drop what has expired (`Sent.exists_dropped_iff`).
-/

namespace ModelFleet

namespace LocalCluster

/-- The runtime of a node that answers in time. -/
def inTime (cluster : LocalCluster) (timeout : Nat) (node : NodeId) : Option NodeRuntime :=
  (cluster.reach node).toOption.filter fun runtime => runtime.delay.getD 0 ≤ timeout

/-- Sends a message to a node, which serves it unless it takes too long. -/
def ask (timeout : Nat) (message : SyncRequest) (cluster : LocalCluster) (node : NodeId) :
    LocalCluster × Except ClusterError SyncResponse :=
  let cluster := cluster.count
  match cluster.wait node with
  | .error e => (cluster, .error e)
  | .ok delay =>
    if delay.getD 0 ≤ timeout then cluster.serve node message
    else (cluster, .error (.timedOut node timeout))

/-- What is outside a cycle that runs with these nodes, when nobody else writes and the store serves
everything but the bulk updates, of each of which it is said what becomes of it. -/
def outside (timeout : Nat) (bulk : Nat → Fate) (time : Nat → Instant) : Outside LocalCluster where
  members := members
  ask := ask timeout
  fate n q := if q.isUpdate then bulk n else .served
  meanwhile _ store := store
  time

theorem quiet_outside (timeout : Nat) (bulk : Nat → Fate) (time : Nat → Instant) :
    (outside timeout bulk time).Quiet := by
  refine ⟨fun n q h => ?_, fun _ _ => rfl⟩
  show (if q.isUpdate then bulk n else .served) = Fate.served
  rw [h]
  rfl

/-! ### As in a simulation -/

section Simulation

open Simulation

variable {network : Network} (clock : Clock) (message : SyncRequest) (node : NodeId)

/-- **A message is answered as a call is**: at once, or by the node when it has waited no longer
than it may, or else by the failure of a call that took too long. -/
theorem ask_eq_place (hs : network.scripts = []) :
    (∃ result, (network.place clock message node).2.answer? = some (node, result) ∧
      ask network.timeout message network.cluster node =
        ((network.place clock message node).1.cluster, result)) ∨
    ∃ delay : Option Nat, (network.place clock message node).2.stage =
        .waiting (delay.map clock.after) none ∧
      if delay.getD 0 ≤ network.timeout then
        ∃ after call result, call.answer? = some (node, result) ∧
          (network.place clock message node).1.answer message (network.place clock message node).2
            none = (after, call) ∧
          ask network.timeout message network.cluster node = (after.cluster, result)
      else
        ∃ result, ((network.place clock message node).1.expire
            (network.place clock message node).2).answer? = some (node, result) ∧
          ask network.timeout message network.cluster node =
            ((network.place clock message node).1.cluster, result) := by
  have hplace : network.place clock message node =
      match network.cluster.count.wait node with
      | .error e => ({ network with cluster := network.cluster.count },
          ⟨node, clock.after network.timeout, .answered (.error e)⟩)
      | .ok delay => ({ network with cluster := network.cluster.count },
          ⟨node, clock.after network.timeout, .waiting (delay.map clock.after) none⟩) := by
    rw [Network.place, hs]
    rfl
  rw [hplace]
  cases hw : network.cluster.count.wait node with
  | error e => exact .inl ⟨.error e, rfl, by simp only [ask, hw]⟩
  | ok delay =>
    refine .inr ⟨delay, rfl, ?_⟩
    split
    · next ht =>
      refine ⟨_, _, _, rfl, rfl, ?_⟩
      simp only [ask, hw, if_pos ht]
      rfl
    · next ht => exact ⟨_, rfl, by simp only [ask, hw, if_neg ht]⟩

end Simulation

/-! ### One message -/

variable {cluster : LocalCluster} {timeout : Nat}

/-- Whether a node with this runtime answers in time. -/
def isInTime (timeout : Nat) (runtime : NodeRuntime) : Bool :=
  runtime.reachable && decide (runtime.delay.getD 0 ≤ timeout)

theorem inTime_eq (cluster : LocalCluster) (timeout : Nat) (node : NodeId) :
    cluster.inTime timeout node = (cluster.nodes.get? node).filter (isInTime timeout) := by
  unfold inTime reach
  cases cluster.nodes.get? node with
  | none => rfl
  | some runtime =>
    simp only [Option.filter_some, isInTime]
    by_cases hr : runtime.reachable = true
    · simp [hr, Except.toOption, Option.filter_some]
    · simp [hr, Except.toOption]

theorem get?_of_inTime {node : NodeId} {runtime : NodeRuntime}
    (h : cluster.inTime timeout node = some runtime) : cluster.nodes.get? node = some runtime := by
  rw [inTime_eq] at h
  exact (Option.filter_eq_some_iff.1 h).1

theorem inTime_congr {a b : LocalCluster} {node : NodeId}
    (h : a.nodes.get? node = b.nodes.get? node) (timeout : Nat) :
    a.inTime timeout node = b.inTime timeout node := by
  rw [inTime_eq, inTime_eq, h]

theorem reach_count (cluster : LocalCluster) (node : NodeId) :
    cluster.count.reach node = cluster.reach node := rfl

theorem ask_of_inTime {node : NodeId} {runtime : NodeRuntime}
    (h : cluster.inTime timeout node = some runtime) (message : SyncRequest) :
    ask timeout message cluster node =
      ({ cluster.count with nodes := cluster.nodes.insert node (runtime.serve node message).1 },
        .ok (runtime.serve node message).2) := by
  unfold inTime at h
  cases hr : cluster.reach node with
  | error e =>
    rw [hr] at h
    cases h
  | ok r =>
    rw [hr] at h
    obtain ⟨hs, ht⟩ := Option.filter_eq_some_iff.1 h
    cases hs
    have hw : cluster.count.wait node = .ok runtime.delay := by
      rw [wait, reach_count, hr]
      rfl
    simp only [ask, hw]
    rw [if_pos (of_decide_eq_true ht), serve, reach_count, hr]
    rfl

theorem ask_of_not_inTime {node : NodeId} (h : cluster.inTime timeout node = none)
    (message : SyncRequest) :
    ∃ e, ask timeout message cluster node = (cluster.count, .error e) := by
  unfold inTime at h
  cases hr : cluster.reach node with
  | error e =>
    have hw : cluster.count.wait node = .error e := by
      rw [wait, reach_count, hr]
      rfl
    exact ⟨e, by simp only [ask, hw]⟩
  | ok runtime =>
    rw [hr] at h
    have hw : cluster.count.wait node = .ok runtime.delay := by
      rw [wait, reach_count, hr]
      rfl
    have ht : ¬ runtime.delay.getD 0 ≤ timeout := by
      intro ht
      simp [Except.toOption] at h
      omega
    exact ⟨.timedOut node timeout, by simp only [ask, hw, if_neg ht]⟩

/-! ### A message to all -/

theorem get?_nodes_ask_of_ne {node other : NodeId} (h : other ≠ node) (message : SyncRequest) :
    (ask timeout message cluster node).1.nodes.get? other = cluster.nodes.get? other := by
  cases hi : cluster.inTime timeout node with
  | none =>
    obtain ⟨e, he⟩ := ask_of_not_inTime hi message
    rw [he]
    rfl
  | some runtime =>
    rw [ask_of_inTime hi]
    exact (SortedMap.get?_insert ..).trans (if_neg h)

/-- What a message makes of the runtime of a node to which it is sent. -/
theorem get?_nodes_ask_self {node : NodeId} (message : SyncRequest) :
    (ask timeout message cluster node).1.nodes.get? node =
      match cluster.inTime timeout node with
      | some runtime => some (runtime.serve node message).1
      | none => cluster.nodes.get? node := by
  cases hi : cluster.inTime timeout node with
  | none =>
    obtain ⟨e, he⟩ := ask_of_not_inTime hi message
    rw [he]
    rfl
  | some runtime =>
    rw [ask_of_inTime hi]
    exact SortedMap.get?_insert_self ..

theorem membershipDown_ask (message : SyncRequest) (node : NodeId) :
    (ask timeout message cluster node).1.membershipDown = cluster.membershipDown := by
  cases hi : cluster.inTime timeout node with
  | none =>
    obtain ⟨e, he⟩ := ask_of_not_inTime hi message
    rw [he]
    rfl
  | some runtime =>
    rw [ask_of_inTime hi]
    rfl

/-- An answer that is given as the node's runtime would have it. -/
def Replied (cluster : LocalCluster) (timeout : Nat) (message : SyncRequest) (answer : Answer) :
    Prop :=
  match cluster.inTime timeout answer.1 with
  | some runtime => answer.2 = .ok (runtime.serve answer.1 message).2
  | none => ∃ e, answer.2 = .error e

theorem replied_ask (cluster : LocalCluster) (timeout : Nat) (message : SyncRequest)
    (node : NodeId) :
    Replied cluster timeout message (node, (ask timeout message cluster node).2) := by
  unfold Replied
  cases hi : cluster.inTime timeout node with
  | none =>
    obtain ⟨e, he⟩ := ask_of_not_inTime hi message
    exact ⟨e, by rw [he]⟩
  | some runtime => rw [ask_of_inTime hi]

/-- What it takes to describe a cluster after a message was sent to some of its nodes. -/
structure Sent (cluster after : LocalCluster) (timeout : Nat) (message : SyncRequest)
    (nodes : List NodeId) (answers : List Answer) : Prop where
  asked : answers.map (·.1) = nodes
  answered : ∀ answer ∈ answers, Replied cluster timeout message answer
  kept : ∀ node, node ∉ nodes → after.nodes.get? node = cluster.nodes.get? node
  served : ∀ node ∈ nodes, after.nodes.get? node =
    match cluster.inTime timeout node with
    | some runtime => some (runtime.serve node message).1
    | none => cluster.nodes.get? node
  membershipDown : after.membershipDown = cluster.membershipDown

variable (bulk : Nat → Fate) (time : Nat → Instant)

/-- **A message to several nodes reaches each of them as if it were the only one.** -/
theorem sent_askAll (cluster : LocalCluster) (timeout : Nat) (message : SyncRequest)
    {nodes : List NodeId} (h : nodes.Nodup) :
    Sent cluster ((outside timeout bulk time).askAll message nodes cluster).1 timeout message nodes
      ((outside timeout bulk time).askAll message nodes cluster).2 := by
  induction nodes generalizing cluster with
  | nil => exact ⟨rfl, nofun, fun _ _ => rfl, nofun, rfl⟩
  | cons node rest ih =>
    obtain ⟨hnode, hrest⟩ := List.nodup_cons.1 h
    have hr := ih (ask timeout message cluster node).1 hrest
    have hne : ∀ other ∈ rest, other ≠ node := by
      rintro other ho rfl
      exact hnode ho
    -- the other nodes are as they were
    have hsame : ∀ other ∈ rest,
        (ask timeout message cluster node).1.inTime timeout other = cluster.inTime timeout other :=
      fun other ho => inTime_congr (get?_nodes_ask_of_ne (hne other ho) message) timeout
    exact {
      asked := congrArg (node :: ·) hr.asked
      answered := by
        intro answer ha
        rcases List.mem_cons.1 ha with rfl | ha
        · exact replied_ask cluster timeout message node
        · have hmem : answer.1 ∈ rest := by
            rw [← hr.asked]
            exact List.mem_map_of_mem ha
          have := hr.answered answer ha
          rwa [Replied, hsame answer.1 hmem] at this
      kept := by
        intro other ho
        rw [List.mem_cons, not_or] at ho
        exact (hr.kept other ho.2).trans (get?_nodes_ask_of_ne ho.1 message)
      served := by
        intro other ho
        rcases List.mem_cons.1 ho with rfl | ho
        · exact (hr.kept other hnode).trans (get?_nodes_ask_self message)
        · have := hr.served other ho
          rwa [hsame other ho, get?_nodes_ask_of_ne (hne other ho) message] at this
      membershipDown := hr.membershipDown.trans (membershipDown_ask message node) }

/-! ### The nodes that answer -/

/-- The runtime of a node that takes part and answers in time. -/
def answering (cluster : LocalCluster) (timeout : Nat) (node : NodeId) : Option NodeRuntime :=
  (cluster.inTime timeout node).filter (·.eligible)

/-- The nodes that take part. -/
def eligible (cluster : LocalCluster) : List NodeId :=
  (cluster.nodes.filter fun _ runtime => runtime.eligible).keys

theorem members_of_up (h : cluster.membershipDown = false) :
    cluster.members = .ok cluster.eligible := by
  rw [members, h]
  rfl

theorem members_of_down (h : cluster.membershipDown = true) :
    ∃ e, cluster.members = .error e := by
  rw [members, h]
  exact ⟨_, rfl⟩

theorem nodup_eligible (cluster : LocalCluster) : cluster.eligible.Nodup :=
  List.pairwise_map.2 ((SortedMap.sorted _).imp fun h => Entries.ne_of_compare_lt h)

theorem mem_eligible {node : NodeId} :
    node ∈ cluster.eligible ↔
      ∃ runtime, cluster.nodes.get? node = some runtime ∧ runtime.eligible = true := by
  simp only [eligible, SortedMap.keys, List.mem_map, Prod.exists, exists_and_right,
    exists_eq_right, ← SortedMap.get?_eq_some_iff, SortedMap.get?_filter,
    Option.filter_eq_some_iff]

theorem answering_eq (cluster : LocalCluster) (timeout : Nat) (node : NodeId) :
    cluster.answering timeout node =
      (cluster.nodes.get? node).filter fun r => isInTime timeout r && r.eligible := by
  rw [answering, inTime_eq, Option.filter_filter]

theorem answering_eq_some_iff {node : NodeId} {runtime : NodeRuntime} :
    cluster.answering timeout node = some runtime ↔
      node ∈ cluster.eligible ∧ cluster.inTime timeout node = some runtime := by
  rw [answering, Option.filter_eq_some_iff, mem_eligible]
  constructor
  · rintro ⟨hi, he⟩
    exact ⟨⟨runtime, get?_of_inTime hi, he⟩, hi⟩
  · rintro ⟨⟨r, hr, he⟩, hi⟩
    rw [get?_of_inTime hi] at hr
    cases hr
    exact ⟨hi, he⟩

/-! ### The two rounds -/

section Rounds

variable {after : LocalCluster} {cycle : CycleId} {nodes : List NodeId} {answers : List Answer}

/-- The first round changes no runtime. -/
theorem Sent.get?_of_gather (h : Sent cluster after timeout (.gather cycle) nodes answers)
    (node : NodeId) : after.nodes.get? node = cluster.nodes.get? node := by
  by_cases hn : node ∈ nodes
  · rw [h.served node hn]
    cases hi : cluster.inTime timeout node with
    | none => rfl
    | some runtime => exact (get?_of_inTime hi).symm
  · exact h.kept node hn

/-- The first round brings the reports of the nodes that answer in time. -/
theorem Sent.mem_reports (h : Sent cluster after timeout (.gather cycle) nodes answers)
    {report : NodeReport} :
    report ∈ Gather.reports answers ↔
      ∃ node ∈ nodes, ∃ runtime, cluster.inTime timeout node = some runtime ∧
        report = runtime.report node := by
  have hanswer : ∀ answer ∈ answers, ∀ report, (Gather.reportOf answer).toOption = some report ↔
      ∃ runtime, cluster.inTime timeout answer.1 = some runtime ∧
        report = runtime.report answer.1 := by
    rintro ⟨node, result⟩ ha report
    have hr := h.answered _ ha
    unfold Replied at hr
    cases hi : cluster.inTime timeout node with
    | none =>
      rw [hi] at hr
      obtain ⟨e, rfl⟩ := hr
      simp [Gather.reportOf, Except.toOption]
    | some runtime =>
      rw [hi] at hr
      obtain rfl : result = .ok (runtime.serve node (.gather cycle)).2 := hr
      simp [Gather.reportOf, NodeRuntime.serve, NodeRuntime.report, Except.toOption, eq_comm]
  simp only [Gather.reports, List.mem_filterMap]
  constructor
  · rintro ⟨answer, ha, hr⟩
    refine ⟨answer.1, ?_, (hanswer answer ha report).1 hr⟩
    rw [← h.asked]
    exact List.mem_map_of_mem ha
  · rintro ⟨node, hn, hr⟩
    rw [← h.asked] at hn
    obtain ⟨answer, ha, rfl⟩ := List.mem_map.1 hn
    exact ⟨answer, ha, (hanswer answer ha report).2 hr⟩

/-- What holds of the answers in terms of the nodes that give them holds of the nodes asked. -/
theorem Sent.exists_answer_iff {message : SyncRequest}
    (h : Sent cluster after timeout message nodes answers) {P : Answer → Prop} {Q : NodeId → Prop}
    (hanswer : ∀ answer ∈ answers, P answer ↔ Q answer.1) {node : NodeId} :
    (∃ answer ∈ answers, answer.1 = node ∧ P answer) ↔ node ∈ nodes ∧ Q node := by
  rw [← h.asked]
  constructor
  · rintro ⟨answer, ha, rfl, hp⟩
    exact ⟨List.mem_map_of_mem ha, (hanswer answer ha).1 hp⟩
  · rintro ⟨hn, hq⟩
    obtain ⟨answer, ha, rfl⟩ := List.mem_map.1 hn
    exact ⟨answer, ha, rfl, (hanswer answer ha).2 hq⟩

variable {push : RoutingPush}

/-- In the second round the nodes that answer in time say what they can drop. -/
theorem Sent.undeployedOf_iff
    (h : Sent cluster after timeout (.applyRouting cycle push) nodes answers) {answer : Answer}
    (ha : answer ∈ answers) {undeployed : SortedSet ModelId} :
    Routing.undeployedOf answer = .ok undeployed ↔
      ∃ runtime, cluster.inTime timeout answer.1 = some runtime ∧
        runtime.removable push.expired = undeployed := by
  obtain ⟨node, result⟩ := answer
  have hr := h.answered _ ha
  unfold Replied at hr
  cases hi : cluster.inTime timeout node with
  | none =>
    rw [hi] at hr
    obtain ⟨e, rfl⟩ := hr
    simp [Routing.undeployedOf]
  | some runtime =>
    rw [hi] at hr
    obtain rfl : result = .ok (runtime.serve node (.applyRouting cycle push)).2 := hr
    simp [Routing.undeployedOf, NodeRuntime.serve]

/-- In the second round the nodes that answer in time acknowledge. -/
theorem Sent.mem_acknowledged
    (h : Sent cluster after timeout (.applyRouting cycle push) nodes answers) {node : NodeId} :
    node ∈ (Routing.outcome answers).acknowledged ↔
      node ∈ nodes ∧ ∃ runtime, cluster.inTime timeout node = some runtime := by
  refine Routing.mem_acknowledged_outcome.trans (h.exists_answer_iff
    (Q := fun node => ∃ runtime, cluster.inTime timeout node = some runtime) fun answer ha => ?_)
  simp only [h.undeployedOf_iff ha]
  constructor
  · rintro ⟨_, runtime, hi, -⟩
    exact ⟨runtime, hi⟩
  · rintro ⟨runtime, hi⟩
    exact ⟨_, runtime, hi, rfl⟩

/-- In the second round the nodes that answer in time drop what they can. -/
theorem Sent.exists_dropped_iff
    (h : Sent cluster after timeout (.applyRouting cycle push) nodes answers) {node : NodeId}
    {model : ModelId} :
    (∃ answer ∈ answers, answer.1 = node ∧ model ∈ Routing.dropped answer) ↔
      node ∈ nodes ∧ ∃ runtime, cluster.inTime timeout node = some runtime ∧
        model ∈ runtime.removable push.expired := by
  refine h.exists_answer_iff (Q := fun node => ∃ runtime, cluster.inTime timeout node =
    some runtime ∧ model ∈ runtime.removable push.expired) fun answer ha => ?_
  rw [Routing.mem_dropped_iff]
  simp only [h.undeployedOf_iff ha]
  constructor
  · rintro ⟨_, ⟨runtime, hi, rfl⟩, hm⟩
    exact ⟨runtime, hi, hm⟩
  · rintro ⟨runtime, hi, hm⟩
    exact ⟨_, ⟨runtime, hi, rfl⟩, hm⟩

end Rounds

end LocalCluster

end ModelFleet
