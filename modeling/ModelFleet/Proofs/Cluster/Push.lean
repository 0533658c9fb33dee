import ModelFleet.Proofs.Cluster.Messages

/-!
# A push is all or nothing

A cycle pushes a state to the nodes, and meanwhile the nodes change only in how they can be reached
and how long they wait.  `Overlap.Standing` compares the nodes with what they would be without the
push, and every move keeps it (`Overlap.Standing.posted`).  So in the end a node that has failed is
as it would be without the push, and one that has acknowledged has applied it, once; the same push
again changes nothing of it (`Overlap.push_all_or_nothing`).
-/

namespace ModelFleet

open Outside

/-! ### One node -/

namespace NodeRuntime

/-- A node that is reached otherwise, or waits otherwise. -/
def tune (reachable : Bool → Bool) (delay : Option Nat → Option Nat) (runtime : NodeRuntime) :
    NodeRuntime :=
  { runtime with reachable := reachable runtime.reachable, delay := delay runtime.delay }

/-- **What a node is that has applied a push**: it has the routing and the tasks of the push, nothing
that the push says has expired, and in all else it is what it was. -/
structure Installed (push : RoutingPush) (before after : NodeRuntime) : Prop where
  routing : after.routing = push.routing
  tasks : after.knownTasks = push.tasks
  deployed : ∀ model, model ∈ after.deployed ↔ model ∈ before.deployed ∧ model ∉ push.expired
  expired : ∀ model, model ∈ after.expired ↔ model ∈ before.expired ∧ model ∉ push.expired
  deploying : after.deploying = before.deploying
  eligible : after.eligible = before.eligible
  reachable : after.reachable = before.reachable
  delay : after.delay = before.delay

variable {runtime : NodeRuntime} {push : RoutingPush} {model : ModelId}

theorem installed_apply (runtime : NodeRuntime) (push : RoutingPush) :
    Installed push runtime (runtime.apply push) where
  routing := rfl
  tasks := rfl
  deployed _ := mem_deployed_apply
  expired _ := mem_expired_apply
  deploying := rfl
  eligible := rfl
  reachable := rfl
  delay := rfl

theorem map_tune_id (runtime : Option NodeRuntime) : runtime.map (tune id id) = runtime :=
  congrFun Option.map_id runtime

theorem tune_apply (reachable : Bool → Bool) (delay : Option Nat → Option Nat)
    (runtime : NodeRuntime) (push : RoutingPush) :
    (runtime.apply push).tune reachable delay = (runtime.tune reachable delay).apply push := rfl

/-- What a node can drop does not depend on how it can be reached. -/
theorem removable_tune (reachable : Bool → Bool) (delay : Option Nat → Option Nat)
    (runtime : NodeRuntime) (expired : SortedSet ModelId) :
    (runtime.tune reachable delay).removable expired = runtime.removable expired := rfl

/-- **A push that is applied again changes nothing.** -/
theorem apply_apply (runtime : NodeRuntime) (push : RoutingPush) :
    (runtime.apply push).apply push = runtime.apply push := by
  have hdeployed : ((runtime.apply push).apply push).deployed = (runtime.apply push).deployed := by
    refine SortedSet.ext_mem fun model => ?_
    rw [mem_deployed_apply, mem_deployed_apply, and_assoc, and_self]
  have hexpired : ((runtime.apply push).apply push).expired = (runtime.apply push).expired := by
    refine SortedSet.ext_mem fun model => ?_
    rw [mem_expired_apply, mem_expired_apply, and_assoc, and_self]
  calc (runtime.apply push).apply push
      = { runtime.apply push with
          deployed := ((runtime.apply push).apply push).deployed
          expired := ((runtime.apply push).apply push).expired } := rfl
    _ = runtime.apply push := by rw [hdeployed, hexpired]

/-- A node that has applied a push has nothing left that the push would have it drop. -/
theorem removable_of_apply_eq (h : runtime.apply push = runtime) :
    runtime.removable push.expired = ∅ := by
  refine SortedSet.ext_mem fun model => iff_of_false ?_ (SortedSet.not_mem_empty model)
  rw [mem_removable, ← h, mem_deployed_apply, mem_expired_apply]
  rintro ⟨he, ⟨-, hn⟩ | ⟨-, hn⟩⟩
  · exact hn he
  · exact hn he

end NodeRuntime

/-! ### What others do meanwhile -/

/-- A change of how the nodes can be reached and how long they wait, and of nothing else. -/
def LocalCluster.Tunes (act : LocalCluster → LocalCluster) : Prop :=
  ∀ node, ∃ reachable delay, ∀ cluster : LocalCluster,
    (act cluster).nodes.get? node = (cluster.nodes.get? node).map (.tune reachable delay)

/-- A change of how one node can be reached is such a change. -/
theorem LocalCluster.tunes_update (node : NodeId) (reachable : Bool → Bool)
    (delay : Option Nat → Option Nat) :
    Tunes fun cluster => cluster.update node (.tune reachable delay) := by
  intro other
  by_cases ho : other = node
  · subst ho
    refine ⟨reachable, delay, fun cluster => ?_⟩
    simp only [update]
    cases hn : cluster.nodes.get? other with
    | none => exact hn
    | some runtime => exact SortedMap.get?_insert_self ..
  · refine ⟨id, id, fun cluster => ?_⟩
    simp only [update]
    cases cluster.nodes.get? node with
    | none => exact (NodeRuntime.map_tune_id _).symm
    | some runtime =>
      refine (SortedMap.get?_insert ..).trans ?_
      rw [if_neg ho]
      exact (NodeRuntime.map_tune_id _).symm

namespace Move

variable {κ : Type}

/-- A cycle goes on waiting, no other message is served, and the nodes change only in how they can
be reached. -/
def Alone (call : κ) : Move κ LocalCluster → Prop
  | .change act => LocalCluster.Tunes act
  | .deliver other _ => other = call
  | .resume other _ | .cancel other => other ≠ call
  | _ => True

variable {call : κ} {m : Move κ LocalCluster}

theorem Alone.awaits (h : m.Alone call) : m.Awaits call := by
  cases m with
  | resume | cancel => exact h
  | _ => trivial

/-- What others do to a node meanwhile. -/
theorem Alone.exists_tune (h : m.Alone call) (node : NodeId) :
    ∃ reachable delay, ∀ cluster : LocalCluster, (m.byOthers cluster).nodes.get? node =
      (cluster.nodes.get? node).map (.tune reachable delay) := by
  cases m with
  | change act => exact h node
  | _ => exact ⟨id, id, fun cluster => (NodeRuntime.map_tune_id _).symm⟩

end Move

namespace Overlap

open LocalCluster

variable {settings : SyncSettings} {κ : Type} {timeout : Nat} {call : κ} {report : CycleReport}
  {state : Aggregate} {trail : List Exchange} {calls calls' : List (NodeId × Call)}
  {m : Move κ LocalCluster} {cluster cluster' : LocalCluster}

/-! ### The nodes with and without a push -/

/-- What has become of the message to a node and of the node, against the nodes as they would be
without the push. -/
def Reached (push : RoutingPush) (without cluster : LocalCluster) (c : NodeId × Call) : Prop :=
  match c.2 with
  | .answered (.ok response) => ∃ runtime, without.nodes.get? c.1 = some runtime ∧
      cluster.nodes.get? c.1 = some (runtime.apply push) ∧
      response = .applied c.1 (runtime.removable push.expired)
  | _ => cluster.nodes.get? c.1 = without.nodes.get? c.1

/-- **How the nodes stand to a push under way**: those that have served the message have applied the
push, and all others are as they would be without it. -/
structure Standing (state : Aggregate) (without cluster : LocalCluster)
    (calls : List (NodeId × Call)) : Prop where
  addressed : calls.map (·.1) = state.nodes.toList
  reached : ∀ c ∈ calls, Reached state.push without cluster c
  others : ∀ node, node ∉ state.nodes → cluster.nodes.get? node = without.nodes.get? node

theorem reached_iff_of_unserved {push : RoutingPush} {without : LocalCluster} {node : NodeId}
    {what : Call} (h : what.Unserved) :
    Reached push without cluster (node, what) ↔
      cluster.nodes.get? node = without.nodes.get? node := by
  cases what with
  | answered result =>
    cases result with
    | ok response => cases h
    | error e => exact Iff.rfl
  | sent | waiting => exact Iff.rfl

/-- What holds of a node and of the message to it is about this node only. -/
theorem Reached.congr {push : RoutingPush} {without : LocalCluster} {c : NodeId × Call}
    (h : Reached push without cluster c)
    (hc : cluster'.nodes.get? c.1 = cluster.nodes.get? c.1) : Reached push without cluster' c := by
  unfold Reached at h ⊢
  rwa [hc]

/-- Others change a node that has applied a push as they change one that has not. -/
theorem Reached.byOthers {push : RoutingPush} {without : LocalCluster} {c : NodeId × Call}
    (h : Reached push without cluster c) (hm : m.Alone call) :
    Reached push (m.byOthers without) (m.byOthers cluster) c := by
  obtain ⟨reachable, delay, htune⟩ := hm.exists_tune c.1
  obtain ⟨node, what⟩ := c
  by_cases hu : what.Unserved
  · rw [reached_iff_of_unserved hu] at h ⊢
    rw [htune, htune, h]
  · cases what with
    | answered result =>
      cases result with
      | ok response =>
        obtain ⟨runtime, hw, hc, hr⟩ := h
        refine ⟨runtime.tune reachable delay, ?_, ?_, ?_⟩
        · rw [htune, hw]
          rfl
        · rw [htune, hc]
          rfl
        · rw [hr, NodeRuntime.removable_tune]
      | error e => exact absurd trivial hu
    | sent | waiting => exact absurd trivial hu

/-- **A move leaves the nodes standing to a push as they did**, if they are left alone. -/
theorem Standing.posted {without : LocalCluster} {cycle : CycleId}
    (h : Standing state without cluster calls) (hm : m.Alone call)
    (hp : Posted call (.applyRouting cycle state.push) m calls cluster cluster' calls') :
    Standing state (m.byOthers without) cluster' calls' := by
  have hnodup : (calls.map (·.1)).Nodup := h.addressed ▸ state.nodes.nodup_toList
  -- what others do to the nodes, they do with and without the push
  have hothers : ∀ node, node ∉ state.nodes →
      (m.byOthers cluster).nodes.get? node = (m.byOthers without).nodes.get? node := by
    intro node hn
    obtain ⟨reachable, delay, htune⟩ := hm.exists_tune node
    rw [htune, htune, h.others node hn]
  cases hp with
  | rests hc =>
    exact {
      addressed := h.addressed
      reached := fun c hmem => ((h.reached c hmem).byOthers hm).congr (by rw [hc])
      others := fun node hn => by rw [hc, hothers node hn] }
  | @passes place node before after hp hb ha hc =>
    have hcall := (h.reached _ (List.mem_of_getElem? hp)).byOthers hm
    exact {
      addressed := (Call.map_fst_set hp).trans h.addressed
      reached := by
        intro c hmem
        rcases Call.mem_set hnodup hp hmem with rfl | ⟨hmem, -⟩
        · rw [reached_iff_of_unserved hb] at hcall
          rw [reached_iff_of_unserved ha, hc, hcall]
        · exact ((h.reached c hmem).byOthers hm).congr (by rw [hc])
      others := fun node hn => by rw [hc, hothers node hn] }
  | @applies place node runtime hdeliver hp hr hc =>
    subst hdeliver
    have hmem := List.mem_of_getElem? hp
    have hnode : node ∈ state.nodes := by
      rw [SortedSet.mem_def, ← h.addressed]
      exact List.mem_map_of_mem hmem
    have hwithout : cluster.nodes.get? node = without.nodes.get? node := h.reached _ hmem
    have hserved : cluster'.nodes.get? node = some (runtime.apply state.push) := by
      rw [hc]
      exact SortedMap.get?_insert_self ..
    have hkept : ∀ other, other ≠ node → cluster'.nodes.get? other = cluster.nodes.get? other := by
      intro other ho
      rw [hc, SortedMap.get?_insert, if_neg ho]
    exact {
      addressed := (Call.map_fst_set hp).trans h.addressed
      reached := by
        intro c hmem
        rcases Call.mem_set hnodup hp hmem with rfl | ⟨hmem, hne⟩
        · exact ⟨runtime, hwithout ▸ hr, hserved, rfl⟩
        · exact (h.reached c hmem).congr (hkept c.1 hne)
      others := by
        intro other ho
        rw [hkept other fun he => ho (he ▸ hnode)]
        exact h.others other ho }
  | interferes hdeliver ho =>
    subst hdeliver
    exact absurd hm ho

/-- The nodes as others leave them in moves in which no message reaches a node. -/
def without (w : Overlap settings κ LocalCluster) (moves : List (Move κ LocalCluster)) :
    LocalCluster :=
  moves.foldl (fun cluster m => m.byOthers cluster) w.cluster

/-- Before any message has arrived the nodes are as they would be without the push. -/
theorem standing_sent (state : Aggregate) (cluster : LocalCluster) (cycle : CycleId) :
    Standing state cluster cluster (Routing.request cycle ⟨state⟩).calls where
  addressed := by
    simp [Routing.request, Request.calls, Function.comp_def]
  reached := by
    intro c hc
    obtain ⟨node, -, rfl⟩ := List.mem_map.1 hc
    exact rfl
  others _ _ := rfl

/-- **What a push has done to the nodes**, against the nodes as they would be without it. -/
structure Pushed (state : Aggregate) (without after : LocalCluster) (outcome : RoutingOutcome) :
    Prop where
  addressed : ∀ node,
    node ∈ state.nodes ↔ node ∈ outcome.acknowledged ∨ node ∈ outcome.failed
  apart : ∀ node ∈ outcome.acknowledged, node ∉ outcome.failed
  spared : ∀ node, node ∉ outcome.acknowledged →
    after.nodes.get? node = without.nodes.get? node
  installed : ∀ node ∈ outcome.acknowledged, ∃ before now,
    without.nodes.get? node = some before ∧ after.nodes.get? node = some now ∧
      NodeRuntime.Installed state.push before now

variable {answers : List Answer} {without : LocalCluster} {node : NodeId}

theorem Standing.asked (h : Standing state without cluster (answers.map Call.ofAnswer)) :
    answers.map (·.1) = state.nodes.toList := Call.map_fst_of_answers h.addressed

theorem Standing.nodup (h : Standing state without cluster (answers.map Call.ofAnswer)) :
    (answers.map (·.1)).Nodup := h.asked ▸ state.nodes.nodup_toList

/-- A node that has answered has applied the push. -/
theorem Standing.applied (h : Standing state without cluster (answers.map Call.ofAnswer))
    {response : SyncResponse} (ha : (node, .ok response) ∈ answers) :
    ∃ runtime, without.nodes.get? node = some runtime ∧
      cluster.nodes.get? node = some (runtime.apply state.push) ∧
      response = .applied node (runtime.removable state.push.expired) :=
  h.reached _ (List.mem_map_of_mem ha)

/-- A node that has not acknowledged the push is as it would be without it. -/
theorem Standing.spared (h : Standing state without cluster (answers.map Call.ofAnswer))
    (hn : node ∉ (Routing.outcome answers).acknowledged) :
    cluster.nodes.get? node = without.nodes.get? node := by
  by_cases hnode : node ∈ state.nodes
  · rw [SortedSet.mem_def, ← h.asked] at hnode
    obtain ⟨⟨_, result⟩, ha, rfl⟩ := List.mem_map.1 hnode
    cases result with
    | ok response =>
      obtain ⟨runtime, -, -, rfl⟩ := h.applied ha
      exact absurd (Routing.mem_acknowledged_outcome_iff.2 ⟨_, _, ha⟩) hn
    | error e => exact h.reached _ (List.mem_map_of_mem ha)
  · exact h.others node hnode

theorem Standing.pushed (h : Standing state without cluster (answers.map Call.ofAnswer)) :
    Pushed state without cluster (Routing.outcome answers) where
  addressed node := by
    rw [Routing.mem_failed_outcome_iff h.nodup, SortedSet.mem_def, ← h.asked]
    constructor
    · intro hn
      by_cases ha : node ∈ (Routing.outcome answers).acknowledged
      · exact .inl ha
      · exact .inr ⟨hn, ha⟩
    · rintro (ha | ⟨hn, -⟩)
      · obtain ⟨_, _, ha⟩ := Routing.mem_acknowledged_outcome_iff.1 ha
        exact List.mem_map_of_mem ha
      · exact hn
  apart node ha hf := ((Routing.mem_failed_outcome_iff h.nodup).1 hf).2 ha
  spared node hn := h.spared hn
  installed node hn := by
    obtain ⟨_, _, ha⟩ := Routing.mem_acknowledged_outcome_iff.1 hn
    obtain ⟨runtime, hw, hc, -⟩ := h.applied ha
    exact ⟨runtime, _, hw, hc, runtime.installed_apply state.push⟩

/-- **A push does nothing to a node that has applied it before**, and the node has nothing left to
drop. -/
theorem Standing.again (h : Standing state without cluster (answers.map Call.ofAnswer))
    {runtime : NodeRuntime} (hw : without.nodes.get? node = some runtime)
    (hr : runtime.apply state.push = runtime) :
    cluster.nodes.get? node = some runtime ∧
      (Routing.outcome answers).undeployed.get? node = none := by
  refine ⟨?_, ?_⟩
  · by_cases hn : node ∈ (Routing.outcome answers).acknowledged
    · obtain ⟨_, _, ha⟩ := Routing.mem_acknowledged_outcome_iff.1 hn
      obtain ⟨_, hbefore, hafter, -⟩ := h.applied ha
      rw [hw] at hbefore
      obtain rfl := Option.some.inj hbefore
      rw [hafter, hr]
    · rw [h.spared hn, hw]
  · rw [Option.eq_none_iff_forall_ne_some]
    intro models hm
    obtain ⟨hsome, named, ha⟩ := (Routing.get?_undeployed_outcome_iff h.nodup).1 hm
    obtain ⟨_, hbefore, -, hresponse⟩ := h.applied ha
    rw [hw] at hbefore
    obtain rfl := Option.some.inj hbefore
    injection hresponse with _ hmodels
    rw [hmodels, NodeRuntime.removable_of_apply_eq hr] at hsome
    cases hsome

/-- A node that has applied a push still has, however others change how it can be reached. -/
theorem applied_without {moves : List (Move κ LocalCluster)} {push : RoutingPush}
    {runtime : NodeRuntime} (hm : ∀ m ∈ moves, m.Alone call) {cluster : LocalCluster}
    (hr : cluster.nodes.get? node = some runtime) (happlied : runtime.apply push = runtime) :
    ∃ runtime', (moves.foldl (fun cluster m => m.byOthers cluster) cluster).nodes.get? node =
      some runtime' ∧ runtime'.apply push = runtime' := by
  induction moves generalizing cluster runtime with
  | nil => exact ⟨runtime, hr, happlied⟩
  | cons m rest ih =>
    obtain ⟨reachable, delay, htune⟩ := (hm m List.mem_cons_self).exists_tune node
    have hnext : (m.byOthers cluster).nodes.get? node = some (runtime.tune reachable delay) := by
      rw [htune, hr]
      rfl
    have hstill : (runtime.tune reachable delay).apply push = runtime.tune reachable delay := by
      rw [← NodeRuntime.tune_apply, happlied]
    exact ih (fun m hrest => hm m (List.mem_cons_of_mem _ hrest)) hnext hstill

/-! ### All or nothing -/

variable [DecidableEq κ] {w : Overlap settings κ LocalCluster} {moves : List (Move κ LocalCluster)}

theorem standing_run (timeout : Nat) (hm : ∀ m ∈ moves, m.Alone call)
    (hp : (w.phases call).Pushes report state trail calls)
    (h : Standing state without w.cluster calls) :
    ∃ calls', ((w.run (peers timeout) moves).phases call).Pushes report state trail calls' ∧
      Standing state (moves.foldl (fun cluster m => m.byOthers cluster) without)
        (w.run (peers timeout) moves).cluster calls' := by
  induction moves generalizing w without calls with
  | nil => exact ⟨calls, hp, h⟩
  | cons m rest ih =>
    have halone := hm m List.mem_cons_self
    obtain ⟨calls', hp', hposted⟩ := posted_move timeout halone.awaits hp
    exact ih (fun m hrest => hm m (List.mem_cons_of_mem _ hrest)) hp' (h.posted halone hposted)

/-- **A push of a state, carried out by moves**: the cycle has just asked for it and in the end has
all answers to act on, and in between no other message reaches a node and the nodes change only in
how they can be reached. -/
structure CarriesOut (timeout : Nat) (state : Aggregate) (w : Overlap settings κ LocalCluster)
    (call : κ) (moves : List (Move κ LocalCluster)) (answers : List Answer) : Prop where
  alone : ∀ m ∈ moves, m.Alone call
  asked : ∃ report trail, w.phases call =
    .asking ⟨report, .routing ⟨state⟩⟩ (Routing.request report.cycle ⟨state⟩).calls trail
  told : ((w.run (peers timeout) moves).phases call).receipts? = some answers

theorem CarriesOut.standing (h : CarriesOut timeout state w call moves answers) :
    Standing state (w.without moves) (w.run (peers timeout) moves).cluster
      (answers.map Call.ofAnswer) := by
  obtain ⟨report, trail, hasked⟩ := h.asked
  have htold := h.told
  obtain ⟨calls, hp, hs⟩ := standing_run timeout h.alone (Or.inl hasked)
    (standing_sent state w.cluster report.cycle)
  rcases hp with hp | ⟨others, rfl, hp⟩
  · rw [hp] at htold
    cases htold
  · rw [hp] at htold
    cases htold
    exact hs

/-- **A push is all or nothing for each node**, whenever and however long the nodes are out of reach
or wait: a node that has failed is as it would be without the push, and one that has acknowledged
has the routing and the tasks of the push and nothing of what has expired.  If then the same push is
carried out again, it changes nothing of a node that has acknowledged the first one, and nothing
counts as undeployed there. -/
theorem push_all_or_nothing (h : CarriesOut timeout state w call moves answers) :
    Pushed state (w.without moves) (w.run (peers timeout) moves).cluster
        (Routing.outcome answers) ∧
      ∀ (patience : Nat) (again : Overlap settings κ LocalCluster) (call' : κ)
        (moves' : List (Move κ LocalCluster)) (answers' : List Answer),
        again.cluster = (w.run (peers timeout) moves).cluster →
        CarriesOut patience state again call' moves' answers' →
        ∀ node ∈ (Routing.outcome answers).acknowledged,
          (again.run (peers patience) moves').cluster.nodes.get? node =
              (again.without moves').nodes.get? node ∧
            (Routing.outcome answers').undeployed.get? node = none := by
  refine ⟨h.standing.pushed, fun patience again call' moves' answers' hcluster h' node hn => ?_⟩
  obtain ⟨_, _, ha⟩ := Routing.mem_acknowledged_outcome_iff.1 hn
  obtain ⟨runtime, -, hafter, -⟩ := h.standing.applied ha
  rw [← hcluster] at hafter
  obtain ⟨runtime', hwithout, happlied⟩ :=
    applied_without h'.alone hafter (runtime.apply_apply state.push)
  obtain ⟨hsame, hnone⟩ := h'.standing.again hwithout happlied
  exact ⟨hsame.trans hwithout.symm, hnone⟩

/-- Three nodes are told to drop a model that has expired on the first: the second goes out of reach
while the message waits there, and the third takes too long.  The same push again, while the first
node takes too long in its turn, changes nothing of it. -/
theorem push_all_or_nothing_of_three_nodes :
    let settings : SyncSettings := default
    let cluster := (LocalCluster.ofNodes [⟨"n1"⟩, ⟨"n2"⟩, ⟨"n3"⟩]).update ⟨"n1"⟩ fun r =>
      { r with deployed := r.deployed.insert ⟨"m"⟩, expired := r.expired.insert ⟨"m"⟩ }
    let state : Aggregate := .ofReports [⟨⟨"n1"⟩, .ofList [⟨"m"⟩], ∅, ∅, .ofList [⟨"m"⟩]⟩,
      .empty ⟨"n2"⟩, .empty ⟨"n3"⟩]
    let report := CycleReport.fresh (.ofNat 1) (.ofMillis 0)
    let w : Overlap settings Unit LocalCluster := ⟨∅, cluster, .fresh (.ofMillis 0) default default,
      fun _ => .asking ⟨report, .routing ⟨state⟩⟩ (Routing.request report.cycle ⟨state⟩).calls []⟩
    let arrive : List (Move Unit LocalCluster) := [.arrive () 0, .arrive () 1, .arrive () 2]
    let leave (node : NodeId) : Move Unit LocalCluster :=
      .change fun cluster => cluster.update node (.tune (fun _ => false) id)
    let moves := arrive ++ [leave ⟨"n2"⟩, .deliver () 0, .deliver () 1, .expire () 2,
      .serve () .served]
    let moves' := arrive ++ [.expire () 0, .deliver () 2, .serve () .served]
    let again : Overlap settings Unit LocalCluster :=
      { w with cluster := (w.run (peers 5000) moves).cluster }
    ∃ answers answers', (Routing.outcome answers).acknowledged = .ofList [⟨"n1"⟩] ∧
      Pushed state (w.without moves) (w.run (peers 5000) moves).cluster (Routing.outcome answers) ∧
      (Routing.outcome answers').acknowledged = .ofList [⟨"n3"⟩] ∧
      (again.run (peers 5000) moves').cluster.nodes.get? ⟨"n1"⟩ =
        (again.without moves').nodes.get? ⟨"n1"⟩ ∧
      (Routing.outcome answers').undeployed.get? ⟨"n1"⟩ = none := by
  intro settings cluster state report w arrive leave moves moves' again
  have hfirst : ((w.run (peers 5000) moves).phases ()).receipts?.map
      (fun answers => (Routing.outcome answers).acknowledged) = some (.ofList [⟨"n1"⟩]) := by
    decide +kernel
  have hsecond : ((again.run (peers 5000) moves').phases ()).receipts?.map
      (fun answers => (Routing.outcome answers).acknowledged) = some (.ofList [⟨"n3"⟩]) := by
    decide +kernel
  obtain ⟨answers, htold, ha⟩ := Option.map_eq_some_iff.1 hfirst
  obtain ⟨answers', htold', ha'⟩ := Option.map_eq_some_iff.1 hsecond
  have halone : ∀ m ∈ moves, m.Alone () := by
    simp [moves, arrive, leave, Move.Alone, tunes_update]
  have halone' : ∀ m ∈ moves', m.Alone () := by
    simp [moves', arrive, Move.Alone]
  have hcarried : CarriesOut 5000 state w () moves answers := ⟨halone, ⟨report, [], rfl⟩, htold⟩
  have hcarried' : CarriesOut 5000 state again () moves' answers' :=
    ⟨halone', ⟨report, [], rfl⟩, htold'⟩
  have hmem : ⟨"n1"⟩ ∈ (Routing.outcome answers).acknowledged := by
    rw [ha]
    decide
  obtain ⟨hpushed, hrepeated⟩ := push_all_or_nothing hcarried
  have hcluster : again.cluster = (w.run (peers 5000) moves).cluster := by simp only [again]
  obtain ⟨hsame, hnone⟩ :=
    hrepeated 5000 again () moves' answers' hcluster hcarried' ⟨"n1"⟩ hmem
  exact ⟨answers, answers', ha, hpushed, ha', hsame, hnone⟩

end Overlap

end ModelFleet
