import ModelFleet.Proofs.Cluster.Messages
import ModelFleet.Proofs.Cycle.Announcement

/-!
# What counts as undeployed

A node acknowledges a push with the models that it has dropped, and the cycle records and announces
what the nodes say.  However cycles overlap and nodes change, each node that has acknowledged has
served the push at one moment (`Overlap.served_run`), and what is recorded of it are the models that
went at that moment from those that it held or from those that it had let expire
(`Overlap.undeployments_recorded`).  So a model of which a node had no copy, but which it had let
expire, counts as undeployed there (`Overlap.not_undeploys_only_copies`).
-/

namespace ModelFleet

open Outside

namespace SortedSet

variable {α : Type} [Ord α]

/-- The elements that pass one of two tests, which no element passes both. -/
theorem size_filter_of_or {s : SortedSet α} {p q r : α → Bool}
    (hor : ∀ a ∈ s, p a = true ↔ q a = true ∨ r a = true)
    (hnot : ∀ a ∈ s, q a = true → r a = false) :
    (s.filter p).size = (s.filter q).size + (s.filter r).size := by
  calc (s.filter p).size
      = (s.filter p).toList.countP q + (s.filter p).toList.countP fun a => !q a := by
        rw [size, List.length_eq_countP_add_countP q]
        simp
    _ = s.toList.countP q + s.toList.countP r := by
        rw [filter, List.countP_filter, List.countP_filter]
        congr 1
        · refine List.countP_congr fun a ha => ?_
          have := hor a ha
          simp_all
        · refine List.countP_congr fun a ha => ?_
          have := hor a ha
          have := hnot a ha
          cases hq : q a with
          | true => simp_all
          | false => simp_all
    _ = (s.filter q).size + (s.filter r).size := by
        rw [size, size, filter, filter, List.countP_eq_length_filter, List.countP_eq_length_filter]

end SortedSet

/-! ### One node -/

namespace NodeRuntime

/-- The models of which a node has no copy any more when it has applied a push. -/
def copiesLost (runtime : NodeRuntime) (push : RoutingPush) : SortedSet ModelId :=
  runtime.deployed.filter (· ∉ (runtime.apply push).deployed)

/-- The models that a node had let expire, and has no more when it has applied a push. -/
def marksLost (runtime : NodeRuntime) (push : RoutingPush) : SortedSet ModelId :=
  runtime.expired.filter (· ∉ (runtime.apply push).expired)

variable {runtime : NodeRuntime} {push : RoutingPush} {model : ModelId}

theorem mem_copiesLost :
    model ∈ runtime.copiesLost push ↔ model ∈ runtime.deployed ∧ model ∈ push.expired := by
  rw [copiesLost, SortedSet.mem_filter, decide_eq_true_iff, mem_deployed_apply]
  tauto

theorem mem_marksLost :
    model ∈ runtime.marksLost push ↔ model ∈ runtime.expired ∧ model ∈ push.expired := by
  rw [marksLost, SortedSet.mem_filter, decide_eq_true_iff, mem_expired_apply]
  tauto

/-- What a node says that it has dropped went from its copies or from its expired models. -/
theorem mem_removable_iff_lost : model ∈ runtime.removable push.expired ↔
    model ∈ runtime.copiesLost push ∨ model ∈ runtime.marksLost push := by
  rw [mem_removable, mem_copiesLost, mem_marksLost]
  tauto

/-- A node says of exactly its lost copies that it has dropped them if it holds all that it has let
expire and is to drop. -/
theorem removable_eq_copiesLost_iff :
    runtime.removable push.expired = runtime.copiesLost push ↔
      ∀ model ∈ runtime.marksLost push, model ∈ runtime.deployed := by
  constructor
  · intro h model hm
    have hr : model ∈ runtime.removable push.expired := mem_removable_iff_lost.2 (.inr hm)
    rw [h] at hr
    exact (mem_copiesLost.1 hr).1
  · intro h
    refine SortedSet.ext_mem fun model => ?_
    rw [mem_removable_iff_lost, or_iff_left_iff_imp]
    intro hm
    exact mem_copiesLost.2 ⟨h model hm, (mem_marksLost.1 hm).2⟩

end NodeRuntime

/-! ### What is recorded and announced -/

/-- The models that are recorded as undeployed on a node. -/
def RoutingOutcome.undeployedOn (outcome : RoutingOutcome) (node : NodeId) : SortedSet ModelId :=
  (outcome.undeployed.get? node).getD ∅

namespace Routing

variable {answers : List Answer} {node : NodeId}

/-- What is recorded of a node is what it says. -/
theorem undeployedOn_outcome (h : (answers.map (·.1)).Nodup) {named : NodeId}
    {models : SortedSet ModelId} (ha : (node, .ok (.applied named models)) ∈ answers) :
    (outcome answers).undeployedOn node = models := by
  unfold RoutingOutcome.undeployedOn
  cases he : models.isEmpty with
  | false => rw [(get?_undeployed_outcome_iff h).2 ⟨he, named, ha⟩, Option.getD_some]
  | true =>
    have hnone : (outcome answers).undeployed.get? node = none := by
      rw [Option.eq_none_iff_forall_ne_some]
      intro others ho
      obtain ⟨hsome, _, ho⟩ := (get?_undeployed_outcome_iff h).1 ho
      cases List.inj_on_of_nodup_map h ha ho rfl
      rw [he] at hsome
      cases hsome
    rw [hnone, Option.getD_none]
    rw [SortedSet.isEmpty_iff] at he
    exact SortedSet.ext_mem fun model => iff_of_false (SortedSet.not_mem_empty model) (he model)

theorem event?_eq_undeployed_iff {answer : Answer} {models : List ModelId} :
    event? answer = some (.expiredModelsUndeployed node models) ↔ answer.1 = node ∧
      ∃ undeployed, undeployedOf answer = .ok undeployed ∧ undeployed.isEmpty = false ∧
        models = undeployed.toList := by
  unfold event?
  cases undeployedOf answer with
  | error e => simp [ClusterError.event]
  | ok undeployed =>
    cases he : undeployed.isEmpty with
    | true => simp [he]
    | false =>
      simp only [he, Bool.false_eq_true, if_false, Option.some.injEq,
        SyncEvent.expiredModelsUndeployed.injEq]
      constructor
      · rintro ⟨rfl, rfl⟩
        exact ⟨rfl, undeployed, rfl, he, rfl⟩
      · rintro ⟨rfl, _, ⟨⟩, -, rfl⟩
        exact ⟨rfl, rfl⟩

/-- **What is announced of a node is what is recorded of it.** -/
theorem mem_events_iff (h : (answers.map (·.1)).Nodup) {models : List ModelId} :
    .expiredModelsUndeployed node models ∈ answers.filterMap event? ↔
      ∃ set, (outcome answers).undeployed.get? node = some set ∧ models = set.toList := by
  simp only [List.mem_filterMap, event?_eq_undeployed_iff, get?_undeployed_outcome_iff h]
  constructor
  · rintro ⟨⟨_, result⟩, ha, rfl, undeployed, hu, he, rfl⟩
    obtain ⟨named, rfl⟩ := undeployedOf_eq_ok_iff.1 hu
    exact ⟨undeployed, ⟨he, named, ha⟩, rfl⟩
  · rintro ⟨undeployed, ⟨he, named, ha⟩, rfl⟩
    exact ⟨_, ha, rfl, undeployed, rfl, he, rfl⟩

end Routing

namespace Cycle

variable (settings : SyncSettings) (report : CycleReport) (state : Aggregate)
  (answers : List Answer)

/-- **A cycle tells of a push what its outcome says**: the events of lost models are those of the
outcome, in whatever daemon the cycle acts on the answers, and the outcome is in its report. -/
structure TellsUndeployed : Prop where
  events : ∀ (d : Daemon) node models,
    (⟨some report.cycle, .expiredModelsUndeployed node models⟩ : Notice) ∈
        Daemon.said (resume settings ⟨report, .routing ⟨state⟩⟩ answers) d ↔
      ∃ set, (Routing.outcome answers).undeployed.get? node = some set ∧ models = set.toList
  reported : ∀ d : Daemon, ∃ cycle,
    ((resume settings ⟨report, .routing ⟨state⟩⟩ answers).run d).1 = .wait cycle ∧
      cycle.report.routing = some (Routing.outcome answers)

/-- What a cycle sends when it acts on the answers to its push: the events of the answers, and after
them none about lost models. -/
theorem exists_sends_routing (d : Daemon) :
    ∃ rest next after,
      Daemon.Sends (resume settings ⟨report, .routing ⟨state⟩⟩ answers) d
        (Notice.ofCycle report.cycle (answers.filterMap Routing.event? ++ rest)) (.wait next)
        after ∧
      (∀ node models, SyncEvent.expiredModelsUndeployed node models ∉ rest) ∧
      next.report.routing = some (Routing.outcome answers) := by
  cases hg : d.gate.isOpen with
  | true =>
    exact ⟨[], _, _, sends_after_events d
      (sends_afterRouting_of_open settings d report state (Routing.outcome answers) hg),
      fun _ _ => List.not_mem_nil, rfl⟩
  | false =>
    exact ⟨_, _, _, sends_after_events d
      (sends_afterRouting_of_closed settings d report state (Routing.outcome answers) hg),
      fun _ _ => by simp, rfl⟩

theorem tellsUndeployed (h : (answers.map (·.1)).Nodup) :
    TellsUndeployed settings report state answers where
  events d node models := by
    obtain ⟨rest, next, after, hsends, hrest, -⟩ :=
      exists_sends_routing settings report state answers d
    rw [hsends.said_eq, ← Routing.mem_events_iff h]
    simp [Notice.ofCycle, hrest]
  reported d := by
    obtain ⟨rest, next, after, hsends, -, hrouting⟩ :=
      exists_sends_routing settings report state answers d
    exact ⟨next, hsends.result_eq, hrouting⟩

end Cycle

/-! ### When a node has served a push -/

namespace Overlap

open LocalCluster

variable {settings : SyncSettings} {κ : Type} [DecidableEq κ] {timeout : Nat} {call : κ}
  {report : CycleReport} {state : Aggregate} {trail : List Exchange}
  {calls calls' : List (NodeId × Call)} {w : Overlap settings κ LocalCluster}
  {moves : List (Move κ LocalCluster)} {node : NodeId}

/-- A push of a cycle waits at the node in this place of the cycle's list. -/
def PushWaits (w : Overlap settings κ LocalCluster) (call : κ) (push : RoutingPush) (place : Nat)
    (node : NodeId) : Prop :=
  ∃ cycle calls trail nodes sender, w.phases call = .asking cycle calls trail ∧
    cycle.request settings = .broadcast nodes (.applyRouting sender push) ∧
    calls[place]? = some (node, .waiting)

omit [DecidableEq κ] in
theorem pushWaits_of_pushes (h : (w.phases call).Pushes report state trail calls) {place : Nat}
    (hp : calls[place]? = some (node, .waiting)) : w.PushWaits call state.push place node := by
  rcases h with h | ⟨answers, rfl, -⟩
  · exact ⟨_, calls, trail, _, report.cycle, h, rfl, hp⟩
  · -- no message waits when all are answered
    obtain ⟨answer, -, ha⟩ := List.mem_map.1 (List.mem_of_getElem? hp)
    cases ha

/-- Among moves there is one in which a node with this runtime serves a push of a cycle that waits
there. -/
def ServedBy (timeout : Nat) (w : Overlap settings κ LocalCluster) (call : κ) (push : RoutingPush)
    (moves : List (Move κ LocalCluster)) (node : NodeId) (runtime : NodeRuntime) : Prop :=
  ∃ earlier place later, moves = earlier ++ .deliver call place :: later ∧
    (w.run (peers timeout) earlier).PushWaits call push place node ∧
    (w.run (peers timeout) earlier).cluster.nodes.get? node = some runtime ∧
    ((w.run (peers timeout) earlier).move (peers timeout) (.deliver call place)).cluster.nodes.get?
      node = some (runtime.apply push)

theorem ServedBy.concat {push : RoutingPush} {runtime : NodeRuntime}
    (h : ServedBy timeout w call push moves node runtime) (m : Move κ LocalCluster) :
    ServedBy timeout w call push (moves ++ [m]) node runtime := by
  obtain ⟨earlier, place, later, rfl, hserved⟩ := h
  exact ⟨earlier, place, later ++ [m], by simp, hserved⟩

/-- **What the nodes have said to a push**: a node that has answered has served it before, and says
what it could drop then. -/
structure Answering (timeout : Nat) (w : Overlap settings κ LocalCluster) (call : κ)
    (state : Aggregate) (moves : List (Move κ LocalCluster)) (calls : List (NodeId × Call)) :
    Prop where
  addressed : calls.map (·.1) = state.nodes.toList
  served : ∀ node response, (node, .answered (.ok response)) ∈ calls → ∃ runtime,
    ServedBy timeout w call state.push moves node runtime ∧
      response = .applied node (runtime.removable state.push.expired)

theorem answering_sent (cycle : CycleId) :
    Answering timeout w call state [] (Routing.request cycle ⟨state⟩).calls where
  addressed := by simp [Routing.request, Request.calls, Function.comp_def]
  served node response h := by
    obtain ⟨_, -, ha⟩ := List.mem_map.1 h
    cases ha

/-- **What the nodes have said is still so after another move.** -/
theorem Answering.posted (h : Answering timeout w call state moves calls)
    (hpush : ((w.run (peers timeout) moves).phases call).Pushes report state trail calls)
    {m : Move κ LocalCluster}
    (hp : Posted call (.applyRouting report.cycle state.push) m calls
      (w.run (peers timeout) moves).cluster
      ((w.run (peers timeout) moves).move (peers timeout) m).cluster calls') :
    Answering timeout w call state (moves ++ [m]) calls' := by
  have hserved : ∀ node response, (node, .answered (.ok response)) ∈ calls → ∃ runtime,
      ServedBy timeout w call state.push (moves ++ [m]) node runtime ∧
        response = .applied node (runtime.removable state.push.expired) := by
    intro node response hmem
    obtain ⟨runtime, hs, hr⟩ := h.served node response hmem
    exact ⟨runtime, hs.concat m, hr⟩
  cases hp with
  | rests | interferes => exact ⟨h.addressed, hserved⟩
  | passes hp hb ha hc =>
    refine ⟨(Call.map_fst_set hp).trans h.addressed, fun node response hmem => ?_⟩
    rcases List.mem_or_eq_of_mem_set hmem with hmem | heq
    · exact hserved node response hmem
    · cases heq
      cases ha
  | @applies place served runtime hm hp hr hc =>
    subst hm
    refine ⟨(Call.map_fst_set hp).trans h.addressed, fun node response hmem => ?_⟩
    rcases List.mem_or_eq_of_mem_set hmem with hmem | heq
    · exact hserved node response hmem
    · -- this is the move in which the node serves the push
      cases heq
      refine ⟨runtime, ⟨moves, place, [], rfl, pushWaits_of_pushes hpush hp, hr, ?_⟩, rfl⟩
      rw [hc]
      exact SortedMap.get?_insert_self ..

/-- **Each node that has answered a push has served it at one moment**, whatever else has happened
since the cycle has asked for it. -/
theorem served_run (timeout : Nat) (hm : ∀ m ∈ moves, m.Awaits call)
    (hasked : w.phases call =
      .asking ⟨report, .routing ⟨state⟩⟩ (Routing.request report.cycle ⟨state⟩).calls trail) :
    ∃ calls, ((w.run (peers timeout) moves).phases call).Pushes report state trail calls ∧
      Answering timeout w call state moves calls := by
  induction moves using List.reverseRecOn with
  | nil => exact ⟨_, .inl hasked, answering_sent report.cycle⟩
  | append_singleton moves m ih =>
    obtain ⟨calls, hp, ha⟩ := ih fun m hmem => hm m (List.mem_append_left _ hmem)
    have hawaits : m.Awaits call := hm m (List.mem_append_right _ List.mem_cons_self)
    obtain ⟨calls', hp', hposted⟩ := posted_move timeout hawaits hp
    rw [run_append]
    exact ⟨calls', hp', ha.posted hp hposted⟩

/-! ### All that is recorded -/

/-- **What is recorded of a push**, where `before` are the runtimes with which the acknowledged nodes
have served it: of each node the models that went from its copies or from its expired models, and
nothing of a node from which none went.  So it is truthful of the copies of a node just where all
that the node had let expire and has dropped was held there, and a model counts as undeployed on as
many nodes as have lost a copy of it, and on those besides that have only forgotten that it had
expired. -/
structure Recorded (timeout : Nat) (w : Overlap settings κ LocalCluster) (call : κ)
    (push : RoutingPush) (moves : List (Move κ LocalCluster)) (outcome : RoutingOutcome)
    (before : NodeId → NodeRuntime) : Prop where
  served : ∀ node ∈ outcome.acknowledged,
    ServedBy timeout w call push moves node (before node)
  models : ∀ node ∈ outcome.acknowledged, ∀ model, model ∈ outcome.undeployedOn node ↔
    model ∈ (before node).copiesLost push ∨ model ∈ (before node).marksLost push
  entries : ∀ node models, outcome.undeployed.get? node = some models →
    node ∈ outcome.acknowledged ∧ ∃ model, model ∈ models
  truthful : ∀ node ∈ outcome.acknowledged,
    outcome.undeployedOn node = (before node).copiesLost push ↔
      ∀ model ∈ (before node).marksLost push, model ∈ (before node).deployed
  counted : ∀ model,
    (outcome.acknowledged.filter fun node => model ∈ outcome.undeployedOn node).size =
      (outcome.acknowledged.filter fun node => model ∈ (before node).copiesLost push).size +
        (outcome.acknowledged.filter fun node =>
          decide (model ∈ (before node).marksLost push ∧ model ∉ (before node).deployed)).size

theorem recorded_of_removable {push : RoutingPush} {outcome : RoutingOutcome}
    {before : NodeId → NodeRuntime}
    (hserved : ∀ node ∈ outcome.acknowledged, ServedBy timeout w call push moves node (before node))
    (hsaid : ∀ node ∈ outcome.acknowledged,
      outcome.undeployedOn node = (before node).removable push.expired)
    (hentries : ∀ node models, outcome.undeployed.get? node = some models →
      node ∈ outcome.acknowledged ∧ ∃ model, model ∈ models) :
    Recorded timeout w call push moves outcome before where
  served := hserved
  models node hn model := by
    rw [hsaid node hn]
    exact NodeRuntime.mem_removable_iff_lost
  entries := hentries
  truthful node hn := by
    rw [hsaid node hn]
    exact NodeRuntime.removable_eq_copiesLost_iff
  counted model := by
    refine SortedSet.size_filter_of_or (fun node hn => ?_) fun node hn hcopy => ?_
    · simp only [decide_eq_true_iff]
      rw [hsaid node hn, NodeRuntime.mem_removable_iff_lost, NodeRuntime.mem_copiesLost,
        NodeRuntime.mem_marksLost]
      tauto
    · rw [decide_eq_true_iff, NodeRuntime.mem_copiesLost] at hcopy
      exact decide_eq_false fun hmark => hmark.2 hcopy.1

variable {answers : List Answer}

theorem Answering.nodup (h : Answering timeout w call state moves (answers.map Call.ofAnswer)) :
    (answers.map (·.1)).Nodup := by
  rw [Call.map_fst_of_answers h.addressed]
  exact state.nodes.nodup_toList

/-- A node that has acknowledged has said what it could drop when it served the push. -/
theorem Answering.exists_runtime
    (h : Answering timeout w call state moves (answers.map Call.ofAnswer))
    (hn : node ∈ (Routing.outcome answers).acknowledged) :
    ∃ runtime, ServedBy timeout w call state.push moves node runtime ∧
      (Routing.outcome answers).undeployedOn node = runtime.removable state.push.expired := by
  obtain ⟨named, undeployed, ha⟩ := Routing.mem_acknowledged_outcome_iff.1 hn
  obtain ⟨runtime, hs, hr⟩ := h.served node _ (List.mem_map_of_mem ha)
  obtain ⟨-, rfl⟩ := SyncResponse.applied.inj hr
  exact ⟨runtime, hs, Routing.undeployedOn_outcome h.nodup ha⟩

/-- **What a cycle records and announces of its push**, however the nodes change and other cycles
run while it waits for the answers: of each node that has acknowledged, what the node has lost when
it served the push. -/
theorem undeployments_recorded (hm : ∀ m ∈ moves, m.Awaits call)
    (hasked : w.phases call =
      .asking ⟨report, .routing ⟨state⟩⟩ (Routing.request report.cycle ⟨state⟩).calls trail)
    (htold : ((w.run (peers timeout) moves).phases call).receipts? = some answers) :
    (w.run (peers timeout) moves).phases call = .told ⟨report, .routing ⟨state⟩⟩ answers trail ∧
      (∃ before, Recorded timeout w call state.push moves (Routing.outcome answers) before) ∧
      Cycle.TellsUndeployed settings report state answers := by
  obtain ⟨calls, hp, ha⟩ := served_run timeout hm hasked
  rcases hp with hp | ⟨others, rfl, hp⟩
  · rw [hp] at htold
    cases htold
  · rw [hp] at htold
    cases htold
    have hnodup : (answers.map (·.1)).Nodup := ha.nodup
    have hexists : ∀ node, ∃ runtime, node ∈ (Routing.outcome answers).acknowledged →
        ServedBy timeout w call state.push moves node runtime ∧
          (Routing.outcome answers).undeployedOn node =
            runtime.removable state.push.expired := by
      intro node
      by_cases hn : node ∈ (Routing.outcome answers).acknowledged
      · obtain ⟨runtime, hr⟩ := ha.exists_runtime hn
        exact ⟨runtime, fun _ => hr⟩
      · exact ⟨default, fun hn' => absurd hn' hn⟩
    choose before hbefore using hexists
    refine ⟨hp, ⟨before, ?_⟩, Cycle.tellsUndeployed settings report state answers hnodup⟩
    refine recorded_of_removable (fun node hn => (hbefore node hn).1)
      (fun node hn => (hbefore node hn).2) fun node models he => ?_
    obtain ⟨-, named, hmem⟩ := (Routing.get?_undeployed_outcome_iff hnodup).1 he
    exact ⟨Routing.mem_acknowledged_outcome_iff.2 ⟨named, models, hmem⟩,
      Routing.exists_mem_of_undeployed he⟩

/-- A node holds neither of two models that it has let expire; it gets a copy of the first while the
push that is to drop both waits there. -/
theorem undeployments_recorded_of_one_node :
    let settings : SyncSettings := default
    let cluster := (LocalCluster.ofNodes [⟨"n"⟩]).update ⟨"n"⟩ fun r =>
      { r with expired := .ofList [⟨"a"⟩, ⟨"b"⟩] }
    let state : Aggregate := .ofReports [⟨⟨"n"⟩, ∅, ∅, ∅, .ofList [⟨"a"⟩, ⟨"b"⟩]⟩]
    let report := CycleReport.fresh (.ofNat 1) (.ofMillis 0)
    let w : Overlap settings Unit LocalCluster := ⟨∅, cluster, .fresh (.ofMillis 0) default default,
      fun _ => .asking ⟨report, .routing ⟨state⟩⟩ (Routing.request report.cycle ⟨state⟩).calls []⟩
    let deploy : Move Unit LocalCluster := .change fun cluster => cluster.update ⟨"n"⟩ fun r =>
      { r with deployed := r.deployed.insert ⟨"a"⟩ }
    let moves := [.arrive () 0, deploy, .deliver () 0, .serve () .served]
    ∃ answers before,
      (Routing.outcome answers).undeployedOn ⟨"n"⟩ = .ofList [⟨"a"⟩, ⟨"b"⟩] ∧
      Recorded 5000 w () state.push moves (Routing.outcome answers) before ∧
      Cycle.TellsUndeployed settings report state answers := by
  intro settings cluster state report w deploy moves
  have hdone : ((w.run (peers 5000) moves).phases ()).receipts?.map
      (fun answers => (Routing.outcome answers).undeployedOn ⟨"n"⟩) =
        some (.ofList [⟨"a"⟩, ⟨"b"⟩]) := by decide +kernel
  obtain ⟨answers, htold, hu⟩ := Option.map_eq_some_iff.1 hdone
  have hm : ∀ m ∈ moves, m.Awaits () := by simp [moves, deploy, Move.Awaits]
  have hasked : w.phases () =
      .asking ⟨report, .routing ⟨state⟩⟩ (Routing.request report.cycle ⟨state⟩).calls [] := rfl
  obtain ⟨-, ⟨before, hrecorded⟩, htells⟩ := undeployments_recorded hm hasked htold
  exact ⟨answers, before, hu, hrecorded, htells⟩

/-- **Not every model that counts as undeployed was deployed**: a node that has never had a copy of a
model, but has let it expire, says in the second round that it has dropped it. -/
theorem not_undeploys_only_copies :
    ¬ ∀ (settings : SyncSettings) (timeout : Nat) (store : MemoryStore) (cluster : LocalCluster)
        (daemon : Daemon) (moves : List (Move Unit LocalCluster)) (answers : List Answer)
        (node : NodeId) (model : ModelId),
      let w : Overlap settings Unit LocalCluster :=
        (fresh settings store cluster daemon).run (peers timeout) moves
      (∀ act, .change act ∉ moves) → (w.phases ()).receipts? = some answers →
        model ∈ (Routing.outcome answers).undeployedOn node →
        model ∈ cluster.deployedOn node := by
  intro h
  let settings : SyncSettings := default
  let store := (∅ : MemoryStore).put settings.modelCollection "x" (.object [])
  let cluster := (LocalCluster.ofNodes [⟨"n1"⟩]).update ⟨"n1"⟩ fun r =>
    { r with expired := r.expired.insert ⟨"m"⟩ }
  let daemon := Daemon.fresh (.ofMillis 0) default default
  let moves : List (Move Unit LocalCluster) := .start () (.ofMillis 1000) ::
    (List.replicate 5 [.serve () .served, .resume () (.ofMillis 1000)]).flatten ++
    [.arrive () 0, .deliver () 0, .serve () .served, .resume () (.ofMillis 1000),
      .arrive () 0, .deliver () 0, .serve () .served]
  have hdone : (((fresh settings store cluster daemon).run (peers 5000) moves).phases
      ()).receipts?.map
        (fun answers => decide (⟨"m"⟩ ∈ (Routing.outcome answers).undeployedOn ⟨"n1"⟩)) =
          some true := by decide +kernel
  obtain ⟨answers, htold, hu⟩ := Option.map_eq_some_iff.1 hdone
  have hdeployed := h settings 5000 store cluster daemon moves answers ⟨"n1"⟩ ⟨"m"⟩
    (by simp [moves, List.replicate]) htold (of_decide_eq_true hu)
  revert hdeployed
  decide +kernel

end Overlap

end ModelFleet
