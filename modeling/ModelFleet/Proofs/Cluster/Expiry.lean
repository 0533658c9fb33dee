import ModelFleet.Proofs.Cluster.Local
import ModelFleet.Proofs.Run.Overlap

/-!
# What cycles take from the nodes

In its second round a cycle tells the nodes which models have expired everywhere, and they drop
them.  Here cycles overlap, and the nodes change at any time.

`Overlap.undeploys_expired` says what a node loses: the cycle has reports by which every node that
holds the model has let it expire, and if the node itself has reported in that cycle, and no copy
has become fresh since, then it has let its own copy expire.  A node that has not reported is told
nonetheless, and loses a copy that is fresh (`Overlap.not_undeploys_only_expired`).
-/

namespace ModelFleet

open Outside

/-- What a node holds when it has done what it is told it held before, and it has still let expire
what it had. -/
theorem NodeRuntime.ages_serve (runtime : NodeRuntime) (node : NodeId) (message : SyncRequest)
    {model : ModelId} (h : model ∈ (runtime.serve node message).1.deployed) :
    model ∈ runtime.deployed ∧
      (model ∈ runtime.expired → model ∈ (runtime.serve node message).1.expired) := by
  cases message with
  | gather => exact ⟨h, id⟩
  | applyRouting _ push =>
    obtain ⟨hd, he⟩ := SortedSet.mem_filter.1 h
    exact ⟨hd, fun hx => SortedSet.mem_filter.2 ⟨hx, he⟩⟩

namespace LocalCluster

/-! ### One message at a time -/

/-- The nodes of a cluster within the process, each of which may be said to take too long. -/
def peers (timeout : Nat) : Peers LocalCluster where
  members := members
  arrive node cluster :=
    (cluster.count,
      match cluster.count.wait node with
      | .error e => .answered (.error e)
      | .ok _ => .waiting)
  serve message node cluster := cluster.serve node message
  late node := .timedOut node timeout

/-- A message that meets with no other one arrives, and is served unless the node takes too long. -/
theorem ask_eq_peers (timeout : Nat) (message : SyncRequest) (cluster : LocalCluster)
    (node : NodeId) :
    ask timeout message cluster node =
      match (peers timeout).arrive node cluster with
      | (arrived, .answered result) => (arrived, result)
      | (arrived, _) =>
        if (cluster.inTime timeout node).isSome then (peers timeout).serve message node arrived
        else (arrived, .error ((peers timeout).late node)) := by
  cases hr : cluster.reach node with
  | error e =>
    have hw : cluster.count.wait node = .error e := by
      rw [wait, reach_count, hr]
      rfl
    simp only [ask, peers, hw]
  | ok runtime =>
    have hw : cluster.count.wait node = .ok runtime.delay := by
      rw [wait, reach_count, hr]
      rfl
    simp [ask, peers, inTime, hw, hr, Except.toOption, Option.isSome_filter]

/-! ### Copies -/

/-- The models that a node holds. -/
def deployedOn (cluster : LocalCluster) (node : NodeId) : SortedSet ModelId :=
  ((cluster.nodes.get? node).map (·.deployed)).getD ∅

/-- The models that a node has let expire. -/
def expiredOn (cluster : LocalCluster) (node : NodeId) : SortedSet ModelId :=
  ((cluster.nodes.get? node).map (·.expired)).getD ∅

variable {cluster after : LocalCluster} {message : SyncRequest} {node : NodeId}

theorem deployedOn_of_get? {runtime : NodeRuntime} (h : cluster.nodes.get? node = some runtime) :
    cluster.deployedOn node = runtime.deployed := by
  rw [deployedOn, h]
  rfl

theorem expiredOn_of_get? {runtime : NodeRuntime} (h : cluster.nodes.get? node = some runtime) :
    cluster.expiredOn node = runtime.expired := by
  rw [expiredOn, h]
  rfl

/-- A node that can be reached does what it is told, and otherwise nothing happens. -/
theorem serve_cases (cluster : LocalCluster) (node : NodeId) (message : SyncRequest) :
    (∃ e, cluster.serve node message = (cluster, .error e)) ∨
      ∃ runtime, cluster.nodes.get? node = some runtime ∧ cluster.serve node message =
        ({ cluster with nodes := cluster.nodes.insert node (runtime.serve node message).1 },
          .ok (runtime.serve node message).2) := by
  unfold serve reach
  cases cluster.nodes.get? node with
  | none => exact .inl ⟨_, rfl⟩
  | some runtime =>
    by_cases hr : runtime.reachable = true
    · exact .inr ⟨runtime, rfl, by simp [hr]⟩
    · exact .inl ⟨unreachable node, by simp [hr]⟩

/-- No copy becomes fresh: what a node holds afterwards it held before, and it has still let expire
what it had. -/
def Ages (before after : LocalCluster) : Prop :=
  ∀ node, ∀ model ∈ after.deployedOn node, model ∈ before.deployedOn node ∧
    (model ∈ before.expiredOn node → model ∈ after.expiredOn node)

theorem Ages.refl (cluster : LocalCluster) : cluster.Ages cluster := fun _ _ hm => ⟨hm, id⟩

/-- No message makes a copy fresh. -/
theorem ages_serve (cluster : LocalCluster) (node : NodeId) (message : SyncRequest) :
    cluster.Ages (cluster.serve node message).1 := by
  rcases cluster.serve_cases node message with ⟨e, he⟩ | ⟨runtime, hr, hs⟩
  · rw [he]
    exact .refl cluster
  · rw [hs]
    intro other model hm
    by_cases ho : other = node
    · subst ho
      have hafter := SortedMap.get?_insert_self cluster.nodes other (runtime.serve other message).1
      rw [deployedOn_of_get? hafter] at hm
      rw [deployedOn_of_get? hr, expiredOn_of_get? hr, expiredOn_of_get? hafter]
      exact runtime.ages_serve other message hm
    · have hafter := SortedMap.get?_insert cluster.nodes node other (runtime.serve node message).1
      rw [if_neg ho] at hafter
      rw [deployedOn, hafter] at hm
      rw [expiredOn, expiredOn, hafter]
      exact ⟨hm, id⟩

/-! ### Reports -/

/-- What a node has said of itself holds of its copies still: it holds nothing else, and what it has
let expire by then it has let expire. -/
def Vouched (cluster : LocalCluster) (answer : Answer) : Prop :=
  ∀ said, Gather.reportOf answer = .ok said → ∀ model ∈ cluster.deployedOn answer.1,
    model ∈ said.deployed ∧ (model ∈ said.expired → model ∈ cluster.expiredOn answer.1)

theorem Vouched.of_ages {answer : Answer} (h : Vouched cluster answer) (ha : cluster.Ages after) :
    Vouched after answer := by
  intro said hs model hm
  obtain ⟨hbefore, hstill⟩ := ha answer.1 model hm
  obtain ⟨hd, he⟩ := h said hs model hbefore
  exact ⟨hd, fun hx => hstill (he hx)⟩

theorem vouched_error (cluster : LocalCluster) (node : NodeId) (e : ClusterError) :
    Vouched cluster (node, .error e) := nofun

theorem vouched_serve (cluster : LocalCluster) (node : NodeId) (message : SyncRequest) :
    Vouched (cluster.serve node message).1 (node, (cluster.serve node message).2) := by
  rcases cluster.serve_cases node message with ⟨e, he⟩ | ⟨runtime, hr, hs⟩
  · rw [he]
    exact vouched_error cluster node e
  · rw [hs]
    have hafter := SortedMap.get?_insert_self cluster.nodes node (runtime.serve node message).1
    intro said hsaid model hm
    rw [deployedOn_of_get? hafter] at hm
    rw [expiredOn_of_get? hafter]
    cases message with
    | gather =>
      cases hsaid
      exact ⟨hm, id⟩
    | applyRouting => cases hsaid

/-- A node loses a model only to a message that tells it to drop the model. -/
theorem told_of_lost {other : NodeId} {model : ModelId} (hin : model ∈ cluster.deployedOn node)
    (hout : model ∉ (cluster.serve other message).1.deployedOn node) :
    other = node ∧ ∃ cycle push, message = .applyRouting cycle push ∧ model ∈ push.expired := by
  rcases cluster.serve_cases other message with ⟨e, he⟩ | ⟨runtime, hr, hs⟩
  · rw [he] at hout
    exact absurd hin hout
  · rw [hs] at hout
    have hafter := SortedMap.get?_insert cluster.nodes other node (runtime.serve other message).1
    by_cases ho : node = other
    · subst ho
      rw [if_pos rfl] at hafter
      rw [deployedOn_of_get? hr] at hin
      rw [deployedOn_of_get? hafter] at hout
      cases message with
      | gather => exact absurd hin hout
      | applyRouting cycle push =>
        refine ⟨rfl, cycle, push, rfl, ?_⟩
        by_contra hx
        exact hout (SortedSet.mem_filter.2 ⟨hin, decide_eq_true hx⟩)
    · rw [if_neg ho] at hafter
      rw [deployedOn] at hin
      rw [deployedOn, hafter] at hout
      exact absurd hin hout

end LocalCluster

/-! ### What a cycle has heard -/

/-- The answers of nodes that came with a reply. -/
def Exchange.answers : Exchange → List Answer
  | ⟨.broadcast .., answers⟩ => answers
  | _ => []

/-- The answers of nodes that have come to a cycle under way. -/
def Phase.answers {settings : SyncSettings} : Phase settings → List Answer
  | .asking _ calls trail => calls.filterMap Call.answer? ++ trail.flatMap Exchange.answers
  | .told cycle reply trail =>
    (trail ++ [(⟨cycle.request settings, reply⟩ : Exchange)]).flatMap Exchange.answers
  | _ => []

theorem Request.filterMap_calls (q : Request) : q.calls.filterMap Call.answer? = [] := by
  cases q with
  | broadcast nodes message =>
    rw [calls, List.filterMap_map, List.filterMap_eq_nil_iff]
    exact fun _ _ => rfl
  | _ => rfl

/-- An answer, as what has become of a message. -/
def Call.ofAnswer (a : Answer) : NodeId × Call := (a.1, .answered a.2)

theorem Call.eq_ofAnswer {call : NodeId × Call} {a : Answer} (h : answer? call = some a) :
    call = ofAnswer a := by
  obtain ⟨node, state⟩ := call
  cases state with
  | answered result =>
    cases h
    rfl
  | sent | waiting => cases h

theorem Call.eq_map_ofAnswer {calls : List (NodeId × Call)} {answers : List Answer}
    (h : answers? calls = some answers) : calls = answers.map ofAnswer := by
  unfold answers? at h
  induction calls generalizing answers with
  | nil =>
    cases h
    rfl
  | cons call rest ih =>
    rw [List.mapM_cons] at h
    obtain ⟨answer, ha, h⟩ := Option.bind_eq_some_iff.1 h
    obtain ⟨others, ho, h⟩ := Option.bind_eq_some_iff.1 h
    cases h
    rw [List.map_cons, ← eq_ofAnswer ha, ← ih ho]

theorem Call.filterMap_of_answers? {calls : List (NodeId × Call)} {answers : List Answer}
    (h : answers? calls = some answers) : calls.filterMap answer? = answers := by
  rw [eq_map_ofAnswer h, List.filterMap_map]
  exact List.filterMap_some

/-- Only the place of a list that is set has a new answer. -/
theorem Call.mem_answers_set {calls : List (NodeId × Call)} {place : Nat} {call : NodeId × Call}
    {a : Answer} (h : a ∈ (calls.set place call).filterMap answer?) :
    a ∈ calls.filterMap answer? ∨ answer? call = some a := by
  obtain ⟨c, hc, ha⟩ := List.mem_filterMap.1 h
  rcases List.mem_or_eq_of_mem_set hc with hc | rfl
  · exact .inl (List.mem_filterMap.2 ⟨c, hc, ha⟩)
  · exact .inr ha

namespace Overlap

variable {settings : SyncSettings} {κ γ : Type} {w w' : Overlap settings κ γ}

/-- A reply has the answers that have come before. -/
theorem answers_of_serve? {peers : Peers γ} {fate : Fate} {calls : List (NodeId × Call)}
    {q : Request} {store : MemoryStore} {reply : q.Reply}
    (h : w.serve? peers fate calls q = some (store, reply)) :
    ∀ a ∈ Exchange.answers ⟨q, reply⟩, a ∈ calls.filterMap Call.answer? := by
  cases q with
  | broadcast nodes message =>
    obtain ⟨answers, ha, h⟩ := Option.map_eq_some_iff.1 h
    cases h
    rw [Call.filterMap_of_answers? ha]
    exact fun _ hm => hm
  | _ =>
    intro a ha
    cases ha

end Overlap

/-! ### What the nodes do meanwhile -/

/-- No copy becomes fresh by a move of others. -/
def Move.Aging {κ : Type} : Move κ LocalCluster → Prop
  | .change act => ∀ cluster : LocalCluster, cluster.Ages (act cluster)
  | _ => True

namespace Overlap

open LocalCluster

variable {settings : SyncSettings} {κ : Type} [DecidableEq κ]
  {w w' : Overlap settings κ LocalCluster} {timeout : Nat} {call : κ}

/-- What the nodes have said to a cycle under way holds of their copies still. -/
def Vouched (w : Overlap settings κ LocalCluster) (call : κ) : Prop :=
  ∀ a ∈ (w.phases call).answers, w.cluster.Vouched a

theorem vouched_put {other : κ} {phase : Phase settings} (hw : w.Vouched call)
    (hp : other = call → ∀ a ∈ phase.answers, w.cluster.Vouched a) :
    (w.put other phase).Vouched call :=
  of_put (P := fun phase => ∀ a ∈ phase.answers, w.cluster.Vouched a) hw hp

/-- What has become of one message of a cycle. -/
theorem vouched_reach (hw : w.Vouched call) {other : κ} {cycle : Cycle}
    {calls : List (NodeId × Call)} {trail : List Exchange}
    (h : w.phases other = .asking cycle calls trail) {cluster : LocalCluster}
    (hc : w.cluster.Ages cluster) (place : Nat) {answered : NodeId × Call}
    (ha : ∀ a, Call.answer? answered = some a → cluster.Vouched a) :
    ({ w with cluster }.put other (.asking cycle (calls.set place answered) trail)).Vouched
      call := by
  have hstill : ∀ a ∈ (w.phases call).answers, cluster.Vouched a :=
    fun a hm => (hw a hm).of_ages hc
  refine vouched_put hstill ?_
  rintro rfl a hm
  rw [h] at hstill
  rcases List.mem_append.1 hm with hm | hm
  · rcases Call.mem_answers_set hm with hm | hm
    · exact hstill a (List.mem_append_left _ hm)
    · exact ha a hm
  · exact hstill a (List.mem_append_right _ hm)

theorem vouched_proceed (hw : w.Vouched call) {other : κ} {trail : List Exchange}
    {p : Next Cycle CycleReport × Daemon}
    (hp : other = call → ∀ a ∈ trail.flatMap Exchange.answers, w.cluster.Vouched a) :
    (w.proceed other trail p).Vouched call := by
  refine vouched_put (w := { w with daemon := p.2 }) hw fun ho a hm => ?_
  obtain ⟨cycle | report, d⟩ := p
  · rw [Phase.answers, Request.filterMap_calls] at hm
    exact hp ho a hm
  · cases hm

/-- **A move leaves what the nodes have said to a cycle true of their copies**, if no copy becomes
fresh by it. -/
theorem Moved.vouched {m : Move κ LocalCluster} (h : Moved (peers timeout) w m w')
    (hm : m.Aging) (hw : w.Vouched call) : w'.Vouched call := by
  cases h with
  | still => exact hw
  | starts => exact vouched_proceed hw nofun
  | serves h hr =>
    refine vouched_put (w := { w with store := _ }) hw ?_
    rintro rfl a hm
    rw [Vouched, h] at hw
    rw [Phase.answers, List.flatMap_append, List.flatMap_singleton] at hm
    rcases List.mem_append.1 hm with hm | hm
    · exact hw a (List.mem_append_right _ hm)
    · exact hw a (List.mem_append_left _ (answers_of_serve? hr a hm))
  | @arrives _ _ _ _ place node h =>
    refine vouched_reach hw h (.refl w.cluster) place fun a ha => ?_
    revert ha
    simp only [peers]
    cases w.cluster.count.wait node with
    | error e =>
      rintro ⟨⟩
      exact vouched_error _ node e
    | ok => nofun
  | @delivers _ _ _ _ place node _ message h =>
    refine vouched_reach hw h (ages_serve w.cluster node message) place fun a ha => ?_
    cases ha
    exact vouched_serve w.cluster node message
  | @expires _ _ _ _ place node h =>
    refine vouched_reach hw h (.refl w.cluster) place fun a ha => ?_
    cases ha
    exact vouched_error _ node _
  | resumes now h =>
    refine vouched_proceed hw ?_
    rintro rfl a hm
    rw [Vouched, h] at hw
    exact hw a hm
  | cancels => exact vouched_put (w := { w with daemon := _ }) hw fun _ => nofun
  | writes => exact hw
  | changes act => exact fun a ha => (hw a ha).of_ages (hm w.cluster)

theorem vouched_run {moves : List (Move κ LocalCluster)} (hm : ∀ m ∈ moves, m.Aging)
    (hw : w.Vouched call) : (w.run (peers timeout) moves).Vouched call :=
  keeps_run (P := fun w => w.Vouched call) (fun m hin _ _ h => h.vouched (hm m hin)) hw

end Overlap

/-! ### What a node loses -/

/-- By these reports a model has expired everywhere: some node has let it expire, and so has every
node that holds it. -/
structure ExpiredBy (reports : List NodeReport) (model : ModelId) : Prop where
  somewhere : ∃ said ∈ reports, model ∈ said.expired
  everywhere : ∀ said ∈ reports, model ∈ said.deployed →
    ∃ also ∈ reports, also.node = said.node ∧ model ∈ also.expired

theorem Gather.expiredBy_of_mem {answers : List Answer} {model : ModelId}
    (h : model ∈ (state answers).fullyExpired) : ExpiredBy (reports answers) model := by
  have hg := gathered_state answers
  obtain ⟨⟨n, hn⟩, hheld⟩ := (Aggregate.mem_fullyExpired_of_gathered hg).1 h
  rw [hg.workers, hg.expired] at hheld
  rw [hg.expired, Placement.mem_nodesOf_ofReports] at hn
  obtain ⟨said, hs, -, hx⟩ := hn
  refine ⟨⟨said, hs, hx⟩, fun said hs hd => ?_⟩
  exact Placement.mem_nodesOf_ofReports.1
    (hheld said.node (Placement.mem_nodesOf_ofReports.2 ⟨said, hs, rfl, hd⟩))

/-- A cycle tells the nodes the routing in its second round, which it has from what they have said
in its first. -/
theorem Cycle.Stands.of_applyRouting {settings : SyncSettings} {id : CycleId} {now : Instant}
    {trail : List Exchange} {cycle : Cycle} {nodes : List NodeId} {sender : CycleId}
    {push : RoutingPush} (h : Stands settings id now trail cycle)
    (hq : cycle.request settings = .broadcast nodes (.applyRouting sender push)) :
    ∃ asked answers, cycle.stage = .routing ⟨Gather.state answers⟩ ∧
      cycle.report.responded = (Gather.state answers).responded ∧
      gathered cycle.report.cycle asked answers ∈ trail ∧ push = (Gather.state answers).push := by
  cases h with
  | @bootstrapping _ b => cases b <;> cases hq
  | routing hk asked answers =>
    cases hq
    exact ⟨asked, answers, rfl, rfl, by simp [heard, CycleReport.fresh], rfl⟩
  | _ => cases hq

namespace Overlap

open LocalCluster

variable {settings : SyncSettings} {κ : Type} [DecidableEq κ]
  {w : Overlap settings κ LocalCluster} {timeout : Nat} {call : κ}

/-- A message of a cycle that takes a model from a node. -/
theorem of_lost (hlegal : w.Legal) {place : Nat} {node : NodeId} {model : ModelId}
    (hin : model ∈ w.cluster.deployedOn node)
    (hout : model ∉ (w.move (peers timeout) (.deliver call place)).cluster.deployedOn node) :
    ∃ cycle calls trail asked answers, w.phases call = .asking cycle calls trail ∧
      cycle.stage = .routing ⟨Gather.state answers⟩ ∧
      cycle.report.responded = (Gather.state answers).responded ∧
      Cycle.gathered cycle.report.cycle asked answers ∈ trail ∧
      ExpiredBy (Gather.reports answers) model := by
  have hmoved := moved (peers timeout) w (.deliver call place)
  generalize w.move (peers timeout) (.deliver call place) = w' at hmoved hout
  cases hmoved with
  | still => exact absurd hin hout
  | @delivers _ cycle calls trail _ other nodes message h _ hq =>
    obtain ⟨rfl, sender, push, rfl, hx⟩ := told_of_lost hin hout
    obtain ⟨id, now, hs⟩ := hlegal.of_eq h
    obtain ⟨asked, answers, hstage, hr, hg, rfl⟩ := hs.of_applyRouting hq
    exact ⟨cycle, calls, trail, asked, answers, h, hstage, hr, hg, Gather.expiredBy_of_mem hx⟩

omit [DecidableEq κ] in
/-- A node that has reported in the first round of a cycle, and of which no copy has become fresh
since, has let expire what the cycle takes from it. -/
theorem mem_expiredOn_of_vouched (hw : w.Vouched call) {cycle : Cycle}
    {calls : List (NodeId × Call)} {trail : List Exchange}
    (h : w.phases call = .asking cycle calls trail) {id : CycleId} {asked : List NodeId}
    {answers : List Answer} (hg : Cycle.gathered id asked answers ∈ trail) {node : NodeId}
    {model : ModelId} (hin : model ∈ w.cluster.deployedOn node)
    (hx : ExpiredBy (Gather.reports answers) model)
    (hn : node ∈ (Gather.state answers).responded) : model ∈ w.cluster.expiredOn node := by
  rw [Vouched, h] at hw
  have hvouched : ∀ said ∈ Gather.reports answers, said.node = node →
      model ∈ said.deployed ∧ (model ∈ said.expired → model ∈ w.cluster.expiredOn node) := by
    rintro said hs rfl
    obtain ⟨a, ha, hr⟩ := Gather.exists_of_mem_reports hs
    rw [Gather.node_of_reportOf hr] at hin ⊢
    refine hw a (List.mem_append_right _ ?_) said hr model hin
    exact List.mem_flatMap.2 ⟨_, hg, ha⟩
  obtain ⟨said, hs, hnode⟩ := Gather.mem_responded_state.1 hn
  obtain ⟨also, ha, hsame, hexpired⟩ := hx.everywhere said hs (hvouched said hs hnode).1
  exact (hvouched also ha (hsame.trans hnode)).2 hexpired

/-- **What a node loses to a cycle**, however the cycles overlap and the nodes change: the cycle is
in its second round, and by the reports that it has heard in its first the model has expired
everywhere.  If the node is among those that have reported, and no copy has become fresh since the
cycle began, then the node has let the model expire. -/
theorem undeploys_expired (settings : SyncSettings) (timeout : Nat) (store : MemoryStore)
    (cluster : LocalCluster) (daemon : Daemon) (before since : List (Move κ LocalCluster))
    (call : κ) (place : Nat) (node : NodeId) (model : ModelId) :
    let begun : Overlap settings κ LocalCluster :=
      (fresh settings store cluster daemon).run (peers timeout) before
    let w := begun.run (peers timeout) since
    model ∈ w.cluster.deployedOn node →
    model ∉ (w.move (peers timeout) (.deliver call place)).cluster.deployedOn node →
    ∃ cycle calls trail asked answers, w.phases call = .asking cycle calls trail ∧
      cycle.stage = .routing ⟨Gather.state answers⟩ ∧
      Cycle.gathered cycle.report.cycle asked answers ∈ trail ∧
      ExpiredBy (Gather.reports answers) model ∧
      (begun.phases call = .idle → (∀ m ∈ since, m.Aging) →
        node ∈ cycle.report.responded → model ∈ w.cluster.expiredOn node) := by
  intro begun w hin hout
  have hlegal : w.Legal := legal_run (legal_run (legal_fresh store cluster daemon) before) since
  obtain ⟨cycle, calls, trail, asked, answers, h, hstage, hr, hg, hx⟩ := of_lost hlegal hin hout
  refine ⟨cycle, calls, trail, asked, answers, h, hstage, hg, hx, fun hidle hm hn => ?_⟩
  have hbegun : begun.Vouched call := by
    rw [Vouched, hidle]
    nofun
  exact mem_expiredOn_of_vouched (vouched_run hm hbegun) h hg hin hx (hr ▸ hn)

/-- A node has reported that it has let a model expire, and then loses it. -/
theorem undeploys_expired_of_one_node :
    let settings : SyncSettings := default
    let store := (∅ : MemoryStore).put settings.modelCollection "m" (.object [])
    let daemon := Daemon.fresh (.ofMillis 0) default default
    let cluster := LocalCluster.ofNodes [⟨"n"⟩]
    let expire (c : LocalCluster) := c.update ⟨"n"⟩ fun r =>
      { r with deployed := r.deployed.insert ⟨"m"⟩, expired := r.expired.insert ⟨"m"⟩ }
    let moves : List (Move Unit LocalCluster) := .start () (.ofMillis 1000) ::
      (List.replicate 5 [.serve () .served, .resume () (.ofMillis 1000)]).flatten ++
      [.arrive () 0, .deliver () 0, .serve () .served, .resume () (.ofMillis 1000), .arrive () 0]
    let begun : Overlap settings Unit LocalCluster :=
      (fresh settings store cluster daemon).run (peers 5000) [.change expire]
    let w := begun.run (peers 5000) moves
    ⟨"m"⟩ ∈ w.cluster.deployedOn ⟨"n"⟩ ∧
      ⟨"m"⟩ ∉ (w.move (peers 5000) (.deliver () 0)).cluster.deployedOn ⟨"n"⟩ ∧
      (∃ answers, ExpiredBy (Gather.reports answers) ⟨"m"⟩) ∧
      ⟨"m"⟩ ∈ w.cluster.expiredOn ⟨"n"⟩ := by
  intro settings store daemon cluster expire moves begun w
  have hin : ⟨"m"⟩ ∈ w.cluster.deployedOn ⟨"n"⟩ := by decide +kernel
  have hout : ⟨"m"⟩ ∉ (w.move (peers 5000) (.deliver () 0)).cluster.deployedOn ⟨"n"⟩ := by
    decide +kernel
  have hresponded : (w.phases ()).underWay?.map (fun p => decide (⟨"n"⟩ ∈ p.1.report.responded)) =
      some true := by decide +kernel
  have hlost := undeploys_expired settings 5000 store cluster daemon [.change expire] moves () 0
    ⟨"n"⟩ ⟨"m"⟩
  dsimp only at hlost
  rw [show (fresh settings store cluster daemon).run (peers 5000) [.change expire] = begun from rfl,
    show begun.run (peers 5000) moves = w from rfl] at hlost
  obtain ⟨cycle, calls, trail, asked, answers, h, -, -, hx, hexpired⟩ := hlost hin hout
  rw [h] at hresponded
  have hn : ⟨"n"⟩ ∈ cycle.report.responded := of_decide_eq_true (Option.some.inj hresponded)
  have haging : ∀ m ∈ moves, m.Aging := by simp [moves, Move.Aging, List.replicate]
  exact ⟨hin, hout, ⟨answers, hx⟩, hexpired rfl haging hn⟩

/-- **A node may lose a copy that is fresh**: the node `n2` is out of reach in the first round of a
cycle, in which the node `n1` reports that it has let the model expire, and is back for the second
one. -/
theorem not_undeploys_only_expired :
    ¬ ∀ (settings : SyncSettings) (timeout : Nat) (store : MemoryStore) (cluster : LocalCluster)
        (daemon : Daemon) (moves : List (Move Unit LocalCluster)) (place : Nat) (node : NodeId)
        (model : ModelId),
      let w : Overlap settings Unit LocalCluster :=
        (fresh settings store cluster daemon).run (peers timeout) moves
      model ∈ w.cluster.deployedOn node →
        model ∉ (w.move (peers timeout) (.deliver () place)).cluster.deployedOn node →
        model ∈ w.cluster.expiredOn node := by
  intro h
  let settings : SyncSettings := default
  let cluster := ((LocalCluster.ofNodes [⟨"n1"⟩, ⟨"n2"⟩]).update ⟨"n1"⟩ fun r =>
      { r with deployed := r.deployed.insert ⟨"m"⟩, expired := r.expired.insert ⟨"m"⟩ }).update
    ⟨"n2"⟩ fun r => { r with deployed := r.deployed.insert ⟨"m"⟩ }
  let away (reachable : Bool) (c : LocalCluster) := c.update ⟨"n2"⟩ fun r => { r with reachable }
  let moves : List (Move Unit LocalCluster) :=
    .start () (.ofMillis 1000) ::
      (List.replicate 5 [.serve () .served, .resume () (.ofMillis 1000)]).flatten ++
      [.change (away false), .arrive () 0, .deliver () 0, .arrive () 1, .serve () .served,
        .resume () (.ofMillis 1000), .change (away true), .arrive () 0, .arrive () 1]
  have hexpired := h settings 5000
    ((∅ : MemoryStore).put settings.modelCollection "m" (.object [])) cluster
    (.fresh (.ofMillis 0) default default) moves 1 ⟨"n2"⟩ ⟨"m"⟩ (by decide +kernel)
    (by decide +kernel)
  revert hexpired
  decide +kernel

end Overlap

end ModelFleet
