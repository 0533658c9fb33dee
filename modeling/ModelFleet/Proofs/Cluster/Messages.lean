import ModelFleet.Proofs.Cluster.Expiry

/-!
# The messages of a push

In its second round a cycle pushes a state to the nodes.  The message to a node may find it out of
reach when it arrives, and again after the wait, and it may be given up while the node waits.
`Overlap.Posted` lists what a move can do to these messages and to the nodes, and
`Overlap.posted_move` says that there is nothing else.
-/

namespace ModelFleet

open Outside

namespace NodeRuntime

variable {runtime : NodeRuntime} {push : RoutingPush} {model : ModelId}

theorem mem_deployed_apply :
    model ∈ (runtime.apply push).deployed ↔ model ∈ runtime.deployed ∧ model ∉ push.expired :=
  SortedSet.mem_filter.trans (and_congr_right fun _ => decide_eq_true_iff)

theorem mem_expired_apply :
    model ∈ (runtime.apply push).expired ↔ model ∈ runtime.expired ∧ model ∉ push.expired :=
  SortedSet.mem_filter.trans (and_congr_right fun _ => decide_eq_true_iff)

theorem mem_removable {expired : SortedSet ModelId} :
    model ∈ runtime.removable expired ↔
      model ∈ expired ∧ (model ∈ runtime.deployed ∨ model ∈ runtime.expired) := by
  rw [removable, SortedSet.mem_filter, Bool.or_eq_true, decide_eq_true_iff, decide_eq_true_iff]

end NodeRuntime

namespace Move

variable {κ γ : Type}

/-- What others do to the nodes in a move. -/
def byOthers : Move κ γ → γ → γ
  | .change act => act
  | _ => id

/-- A cycle goes on waiting, or has its reply to act on still. -/
def Awaits (call : κ) : Move κ γ → Prop
  | .resume other _ | .cancel other => other ≠ call
  | _ => True

end Move

/-! ### What has become of a message -/

/-- No node has done what the message tells it to do: it is under way, or it has failed. -/
def Call.Unserved : Call → Prop
  | .answered (.ok _) => False
  | _ => True

/-- Where one message of a list has changed, the others are those to other nodes. -/
theorem Call.mem_set {calls : List (NodeId × Call)} {place : Nat} {node : NodeId}
    {before after : Call} {c : NodeId × Call} (hn : (calls.map (·.1)).Nodup)
    (hp : calls[place]? = some (node, before)) (hc : c ∈ calls.set place (node, after)) :
    c = (node, after) ∨ c ∈ calls ∧ c.1 ≠ node := by
  obtain ⟨i, hi⟩ := List.mem_iff_getElem?.1 hc
  rw [List.getElem?_set] at hi
  by_cases hplace : place = i
  · rw [if_pos hplace] at hi
    split at hi
    · exact .inl (Option.some.inj hi).symm
    · cases hi
  · rw [if_neg hplace] at hi
    refine .inr ⟨List.mem_of_getElem? hi, ?_⟩
    rintro rfl
    have hlt : place < (calls.map (·.1)).length := by
      rw [List.length_map]
      exact (List.getElem?_eq_some_iff.1 hp).1
    refine hplace ((List.getElem?_inj hlt hn).1 ?_)
    rw [List.getElem?_map, List.getElem?_map, hp, hi]
    rfl

theorem Call.map_fst_set {calls : List (NodeId × Call)} {place : Nat} {node : NodeId}
    {before after : Call} (hp : calls[place]? = some (node, before)) :
    (calls.set place (node, after)).map (·.1) = calls.map (·.1) := by
  refine List.ext_getElem? fun i => ?_
  rw [List.getElem?_map, List.getElem?_map, List.getElem?_set]
  by_cases hplace : place = i
  · subst hplace
    rw [if_pos rfl, hp]
    split
    · rfl
    · next hlt => exact absurd (List.getElem?_eq_some_iff.1 hp).1 hlt
  · rw [if_neg hplace]

/-- Nodes that have all answered are those to which the messages go. -/
theorem Call.map_fst_of_answers {answers : List Answer} {nodes : List NodeId}
    (h : (answers.map ofAnswer).map (·.1) = nodes) : answers.map (·.1) = nodes := by
  rw [← h, List.map_map]
  rfl

/-- A cycle pushes a state: it waits for the answers, or it has them all. -/
def Phase.Pushes {settings : SyncSettings} (report : CycleReport) (state : Aggregate)
    (trail : List Exchange) (calls : List (NodeId × Call)) (phase : Phase settings) : Prop :=
  phase = .asking ⟨report, .routing ⟨state⟩⟩ calls trail ∨
    ∃ answers, calls = List.map Call.ofAnswer answers ∧
      phase = .told ⟨report, .routing ⟨state⟩⟩ answers trail

/-- The answers to a push, where the cycle has them all to act on. -/
def Phase.receipts? {settings : SyncSettings} : Phase settings → Option (List Answer)
  | .told ⟨_, .routing _⟩ answers _ => some answers
  | _ => none

namespace Overlap

open LocalCluster

variable {settings : SyncSettings} {κ : Type} {timeout : Nat} {call : κ} {report : CycleReport}
  {state : Aggregate} {trail : List Exchange} {calls calls' : List (NodeId × Call)}
  {m : Move κ LocalCluster} {cluster cluster' : LocalCluster}

/-- **What a move does to the messages of a push and to the nodes.** -/
inductive Posted (call : κ) (message : SyncRequest) (m : Move κ LocalCluster)
    (calls : List (NodeId × Call)) (cluster cluster' : LocalCluster) :
    List (NodeId × Call) → Prop
  | rests (hc : cluster'.nodes = (m.byOthers cluster).nodes) :
      Posted call message m calls cluster cluster' calls
  | passes {place : Nat} {node : NodeId} {before after : Call}
      (hp : calls[place]? = some (node, before)) (hb : before.Unserved) (ha : after.Unserved)
      (hc : cluster'.nodes = (m.byOthers cluster).nodes) :
      Posted call message m calls cluster cluster' (calls.set place (node, after))
  | applies {place : Nat} {node : NodeId} {runtime : NodeRuntime}
      (hm : m = .deliver call place) (hp : calls[place]? = some (node, .waiting))
      (hr : cluster.nodes.get? node = some runtime)
      (hc : cluster'.nodes = cluster.nodes.insert node (runtime.serve node message).1) :
      Posted call message m calls cluster cluster'
        (calls.set place (node, .answered (.ok (runtime.serve node message).2)))
  | interferes {other : κ} {place : Nat} (hm : m = .deliver other place) (ho : other ≠ call) :
      Posted call message m calls cluster cluster' calls

/-- The message to a node arrives, which changes no node. -/
theorem posted_arrives {place : Nat} {node : NodeId} (message : SyncRequest)
    (hp : calls[place]? = some (node, .sent)) :
    Posted call message (.arrive call place) calls cluster ((peers timeout).arrive node cluster).1
      (calls.set place (node, ((peers timeout).arrive node cluster).2)) := by
  refine .passes hp trivial ?_ rfl
  simp only [peers]
  cases cluster.count.wait node with
  | error e => trivial
  | ok delay => trivial

/-- The node serves the message, or can no longer be reached. -/
theorem posted_delivers {place : Nat} {node : NodeId} (message : SyncRequest)
    (hp : calls[place]? = some (node, .waiting)) :
    Posted call message (.deliver call place) calls cluster
      ((peers timeout).serve message node cluster).1
      (calls.set place (node, .answered ((peers timeout).serve message node cluster).2)) := by
  simp only [peers]
  rcases cluster.serve_cases node message with ⟨e, he⟩ | ⟨runtime, hr, hs⟩
  · rw [he]
    exact .passes hp trivial trivial rfl
  · rw [hs]
    exact .applies rfl hp hr rfl

/-- The phase of a cycle that waits for the answers to its push. -/
theorem eq_of_pushes_asking {phase : Phase settings} {cycle : Cycle}
    {calls₀ : List (NodeId × Call)} {trail₀ : List Exchange}
    (h : phase.Pushes report state trail calls)
    (ha : phase = .asking cycle calls₀ trail₀) :
    cycle = ⟨report, .routing ⟨state⟩⟩ ∧ calls₀ = calls ∧ trail₀ = trail := by
  rcases h with h | ⟨answers, -, h⟩
  · rw [ha] at h
    injection h with hcycle hcalls htrail
    exact ⟨hcycle, hcalls, htrail⟩
  · rw [ha] at h
    cases h

variable [DecidableEq κ] {w w' : Overlap settings κ LocalCluster}

/-- Where another cycle comes to stand makes no difference to a push. -/
theorem pushes_put_of_ne {other : κ} (ho : call ≠ other) {phase : Phase settings}
    (h : (w.phases call).Pushes report state trail calls) :
    ((w.put other phase).phases call).Pushes report state trail calls := by
  rwa [phases_put_of_ne w ho]

/-- **There is nothing else that a move can do to a push** while the cycle does not act on the
reply. -/
theorem Moved.posted (hmoved : Moved (peers timeout) w m w') (hm : m.Awaits call)
    (hothers : m.byOthers = id) (h : (w.phases call).Pushes report state trail calls) :
    ∃ calls', (w'.phases call).Pushes report state trail calls' ∧
      Posted call (.applyRouting report.cycle state.push) m calls w.cluster w'.cluster calls' := by
  have hrests {cluster : LocalCluster} (hc : cluster.nodes = w.cluster.nodes) :
      Posted call (.applyRouting report.cycle state.push) m calls w.cluster cluster calls := by
    refine .rests ?_
    rw [hothers]
    exact hc
  cases hmoved with
  | still => exact ⟨calls, h, hrests rfl⟩
  | @starts other now hidle =>
    have ho : call ≠ other := by
      rintro rfl
      rcases h with h | ⟨answers, -, h⟩
      · rw [hidle] at h
        cases h
      · rw [hidle] at h
        cases h
    exact ⟨calls, pushes_put_of_ne ho h, hrests rfl⟩
  | @serves other _ _ _ _ _ reply ha hr =>
    by_cases ho : call = other
    · subst ho
      obtain ⟨rfl, rfl, rfl⟩ := eq_of_pushes_asking h ha
      obtain ⟨answers, hall, hreply⟩ := Option.map_eq_some_iff.1 hr
      obtain ⟨rfl, rfl⟩ := Prod.mk.inj hreply
      exact ⟨_, .inr ⟨answers, Call.eq_map_ofAnswer hall, phases_put_self ..⟩, hrests rfl⟩
    · exact ⟨calls, pushes_put_of_ne (w := { w with store := _ }) ho h, hrests rfl⟩
  | @arrives other _ _ _ _ node ha hp =>
    by_cases ho : call = other
    · subst ho
      obtain ⟨rfl, rfl, rfl⟩ := eq_of_pushes_asking h ha
      exact ⟨_, .inl (phases_put_self ..), posted_arrives _ hp⟩
    · exact ⟨calls, pushes_put_of_ne (w := { w with cluster := _ }) ho h, hrests rfl⟩
  | @delivers other _ _ _ _ node _ message ha hp hq =>
    by_cases ho : call = other
    · subst ho
      obtain ⟨rfl, rfl, rfl⟩ := eq_of_pushes_asking h ha
      cases hq
      exact ⟨_, .inl (phases_put_self ..), posted_delivers _ hp⟩
    · exact ⟨calls, pushes_put_of_ne (w := { w with cluster := _ }) ho h,
        .interferes rfl (Ne.symm ho)⟩
  | @expires other _ _ _ _ node ha hp =>
    by_cases ho : call = other
    · subst ho
      obtain ⟨rfl, rfl, rfl⟩ := eq_of_pushes_asking h ha
      exact ⟨_, .inl (phases_put_self ..), .passes hp trivial trivial rfl⟩
    · exact ⟨calls, pushes_put_of_ne ho h, hrests rfl⟩
  | @resumes other _ _ _ now ht =>
    exact ⟨calls, pushes_put_of_ne (w := { w with daemon := _ }) (Ne.symm hm) h, hrests rfl⟩
  | @cancels other _ _ hu =>
    exact ⟨calls, pushes_put_of_ne (w := { w with daemon := _ }) (Ne.symm hm) h, hrests rfl⟩
  | writes act => exact ⟨calls, h, hrests rfl⟩
  | changes act => exact ⟨calls, h, .rests rfl⟩

theorem posted_move (timeout : Nat) (hm : m.Awaits call)
    (h : (w.phases call).Pushes report state trail calls) :
    ∃ calls', ((w.move (peers timeout) m).phases call).Pushes report state trail calls' ∧
      Posted call (.applyRouting report.cycle state.push) m calls w.cluster
        (w.move (peers timeout) m).cluster calls' := by
  have hmoved := moved (peers timeout) w m
  cases m with
  | change act => exact ⟨calls, h, .rests rfl⟩
  | _ => exact hmoved.posted hm rfl h

end Overlap

end ModelFleet
