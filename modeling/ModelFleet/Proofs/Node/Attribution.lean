import ModelFleet.Proofs.Node.Gathering
import ModelFleet.Proofs.Run.Outside

/-!
# Each node by its own word

What the two rounds put down about a node is what this node has answered itself.  An answer that
names another node is put down to the one that was asked; a node that fails, or that answers the
other round, is put down as failed and as nothing else.  `Gather.Attributed` and
`Routing.Attributed` say so of every part of the state and of the outcome, and
`Outside.rounds_isolate` says that the rounds end so, whatever the nodes answer.
-/

namespace ModelFleet

/-- Whether a node occurs anywhere in a state. -/
def Aggregate.Mentions (state : Aggregate) (node : NodeId) : Prop :=
  node ∈ state.responded ∨ node ∈ state.failed ∨ (∃ model, node ∈ state.workers.nodesOf model) ∨
    (∃ model, node ∈ state.deploying.nodesOf model) ∨ (∃ task, node ∈ state.tasks.nodesOf task) ∨
    ∃ model, node ∈ state.expired.nodesOf model

/-- A state puts down to each node what that node has said itself.  `nodes` are those that were
asked, and `answers` is what they have answered. -/
structure Gather.Attributed (nodes : List NodeId) (answers : List Answer) (state : Aggregate) :
    Prop where
  responded : ∀ node, node ∈ state.responded ↔ ∃ said, (node, .ok (.report said)) ∈ answers
  failed : ∀ node, node ∈ state.failed ↔ node ∈ nodes ∧ node ∉ state.responded
  workers : ∀ model node, node ∈ state.workers.nodesOf model ↔
    ∃ said, (node, .ok (.report said)) ∈ answers ∧ model ∈ said.deployed
  deploying : ∀ model node, node ∈ state.deploying.nodesOf model ↔
    ∃ said, (node, .ok (.report said)) ∈ answers ∧ model ∈ said.deploying
  tasks : ∀ task node, node ∈ state.tasks.nodesOf task ↔
    ∃ said, (node, .ok (.report said)) ∈ answers ∧ task ∈ said.tasks
  expired : ∀ model node, node ∈ state.expired.nodesOf model ↔
    ∃ said, (node, .ok (.report said)) ∈ answers ∧ model ∈ said.expired
  /-- Only nodes that were asked occur, whichever nodes the reports name. -/
  mentioned : ∀ node, state.Mentions node → node ∈ nodes

/-- The outcome of the second round about a state puts down to each node what that node has said
itself.  `nodes` are those that were told, and `receipts` is what they have answered. -/
structure Routing.Attributed (state : Aggregate) (nodes : List NodeId) (receipts : List Answer)
    (outcome : RoutingOutcome) : Prop where
  addressed : ∀ node, node ∈ nodes ↔ node ∈ state.responded ∨ node ∈ state.failed
  once : nodes.Nodup
  answered : receipts.map (·.1) = nodes
  acknowledged : ∀ node, node ∈ outcome.acknowledged ↔
    ∃ named undeployed, (node, .ok (.applied named undeployed)) ∈ receipts
  failed : ∀ node, node ∈ outcome.failed ↔ node ∈ nodes ∧ node ∉ outcome.acknowledged
  /-- The models that a node has dropped, if there are any, are noted under the node that was told,
  whichever node the answer names. -/
  undeployed : ∀ node models, outcome.undeployed.get? node = some models ↔
    models.isEmpty = false ∧ ∃ named, (node, .ok (.applied named models)) ∈ receipts

namespace Gather

theorem attributed_state {nodes : List NodeId} {answers : List Answer}
    (h : answers.map (·.1) = nodes) : Attributed nodes answers (state answers) := by
  obtain ⟨hworkers, hdeploying, htasks, hexpired⟩ := gathered_state answers
  have hfailed (node : NodeId) : node ∈ (state answers).failed ↔
      node ∈ nodes ∧ node ∉ (state answers).responded := h ▸ mem_failed_state
  have hsaid {kind : Kind} {f : NodeReport → SortedSet (Name kind)}
      (hf : ∀ report node, f { report with node } = f report) (name : Name kind) (node : NodeId) :
      node ∈ (Placement.ofReports f (reports answers)).nodesOf name ↔
        ∃ said, (node, .ok (.report said)) ∈ answers ∧ name ∈ f said := by
    rw [Placement.mem_nodesOf_ofReports, exists_report_iff hf]
  -- Whoever has a place has reported.
  have hplaced {kind : Kind} {f : NodeReport → SortedSet (Name kind)}
      (hf : ∀ report node, f { report with node } = f report) {name : Name kind} {node : NodeId}
      (hn : node ∈ (Placement.ofReports f (reports answers)).nodesOf name) : node ∈ nodes := by
    obtain ⟨said, hm, -⟩ := (hsaid hf name node).1 hn
    exact h ▸ List.mem_map_of_mem hm
  refine ⟨fun _ => mem_responded_state_iff, hfailed, hworkers ▸ hsaid fun _ _ => rfl,
    hdeploying ▸ hsaid fun _ _ => rfl, htasks ▸ hsaid fun _ _ => rfl,
    hexpired ▸ hsaid fun _ _ => rfl, ?_⟩
  rintro node (hr | hf | ⟨name, hn⟩ | ⟨name, hn⟩ | ⟨name, hn⟩ | ⟨name, hn⟩)
  · obtain ⟨said, hm⟩ := mem_responded_state_iff.1 hr
    exact h ▸ List.mem_map_of_mem hm
  · exact ((hfailed node).1 hf).1
  · exact hplaced (fun _ _ => rfl) (hworkers ▸ hn)
  · exact hplaced (fun _ _ => rfl) (hdeploying ▸ hn)
  · exact hplaced (fun _ _ => rfl) (htasks ▸ hn)
  · exact hplaced (fun _ _ => rfl) (hexpired ▸ hn)

end Gather

namespace Routing

theorem attributed_outcome {state : Aggregate} {receipts : List Answer}
    (h : receipts.map (·.1) = state.nodes.toList) :
    Attributed state state.nodes.toList receipts (outcome receipts) := by
  have hnodup : (receipts.map (·.1)).Nodup := h ▸ SortedSet.nodup_toList state.nodes
  refine ⟨fun node => ?_, SortedSet.nodup_toList _, h, fun _ => mem_acknowledged_outcome_iff,
    fun node => ?_, fun _ _ => get?_undeployed_outcome_iff hnodup⟩
  · rw [← SortedSet.mem_def, Aggregate.nodes, SortedSet.mem_union]
  · rw [mem_failed_outcome_iff hnodup, h]

end Routing

namespace Outside

variable {γ : Type} (out : Outside γ)

/-- **The rounds keep the nodes apart.**  Whatever the nodes answer, the first round asks those that
take part, and the second one those that have answered or failed in a state, each once; both end,
and put down to each node its own answer. -/
theorem rounds_isolate (cycle : CycleId) {nodes : List NodeId} (s : State γ) (d : Daemon)
    (hm : out.members s.cluster = .ok nodes) :
    (∃ answers state s' d', answers = (out.askAll (.gather cycle) nodes s.cluster).2 ∧
      answers.map (·.1) = nodes ∧
      Leads out (Gather.job cycle) ⟨.wait .listing, s, d⟩ (.ended (.ok state) s' d') ∧
      s'.asked = s.asked ++ [.members, .broadcast nodes (.gather cycle)] ∧
      Gather.Attributed nodes answers state) ∧
    ∀ (state : Aggregate) (t : State γ) (e : Daemon), ∃ told receipts outcome t' e',
      receipts = (out.askAll (.applyRouting cycle state.push) told t.cluster).2 ∧
      Leads out (Routing.job cycle) ⟨.wait ⟨state⟩, t, e⟩ (.ended outcome t' e') ∧
      t'.asked = t.asked ++ [.broadcast told (.applyRouting cycle state.push)] ∧
      Routing.Attributed state told receipts outcome := by
  constructor
  · let answers := (out.askAll (.gather cycle) nodes s.cluster).2
    have hanswers : answers.map (·.1) = nodes := map_fst_askAll ..
    have hlist : out.answer .members s = ((out.answer .members s).1, .ok nodes) := by
      rw [← hm]
      rfl
    have hgather : out.answer (.broadcast nodes (.gather cycle)) (out.answer .members s).1 =
      ((out.answer (.broadcast nodes (.gather cycle)) (out.answer .members s).1).1, answers) := rfl
    exact ⟨answers, Gather.state answers, _, _, rfl, hanswers,
      .next hlist rfl (.next hgather rfl (.refl _)),
      List.append_assoc .., Gather.attributed_state hanswers⟩
  · intro state t e
    exact ⟨state.nodes.toList, _, _, _, _, rfl, .next rfl rfl (.refl _), rfl,
      Routing.attributed_outcome (map_fst_askAll ..)⟩

/-- Of four nodes one reports under the name of another, one answers the wrong round, and two are
out of reach; in the second round the first drops a model under that other name as well. -/
theorem rounds_isolate_of_impostor :
    let m : ModelId := ⟨"m"⟩
    let impostor : NodeReport := { NodeReport.empty ⟨"b"⟩ with deployed := .ofList [m] }
    let ask (message : SyncRequest) (_ : Unit) (node : NodeId) :
        Unit × Except ClusterError SyncResponse :=
      match message, node.text with
      | .gather _, "a" => ((), .ok (.report impostor))
      | .applyRouting .., "a" => ((), .ok (.applied ⟨"c"⟩ (.ofList [m])))
      | .gather _, "b" => ((), .ok (.applied ⟨"a"⟩ (.ofList [m])))
      | _, "c" => ((), .error (.timedOut node 5))
      | _, _ => ((), .error (.unreachable node "down"))
    let out : Outside Unit := ⟨fun _ => .ok [⟨"d"⟩, ⟨"a"⟩, ⟨"b"⟩, ⟨"c"⟩], ask, fun _ _ => .served,
      fun _ store => store, fun _ => .ofMillis 0⟩
    let d := Daemon.fresh (.ofMillis 0) default default
    ∃ state s' d' outcome t' e',
      Leads out (Gather.job default) ⟨.wait .listing, ⟨∅, (), []⟩, d⟩ (.ended (.ok state) s' d') ∧
      Leads out (Routing.job default) ⟨.wait ⟨state⟩, s', d'⟩ (.ended outcome t' e') ∧
      (∀ node, node ∈ state.workers.nodesOf m ↔ node = ⟨"a"⟩) ∧
      (⟨"b"⟩ : NodeId) ∈ state.failed ∧
      outcome.undeployed.get? ⟨"a"⟩ = some (.ofList [m]) ∧
      outcome.undeployed.get? ⟨"c"⟩ = none := by
  intro m impostor ask out d
  obtain ⟨⟨answers, state, s', d', rfl, -, hl, -, ha⟩, hr⟩ :=
    out.rounds_isolate default ⟨∅, (), []⟩ d rfl
  obtain ⟨told, receipts, outcome, t', e', hreceipts, hl', -, ho⟩ := hr state s' d'
  have hgathered : (out.askAll (.gather default) [⟨"d"⟩, ⟨"a"⟩, ⟨"b"⟩, ⟨"c"⟩] ()).2 =
      [(⟨"d"⟩, .error (.unreachable ⟨"d"⟩ "down")), (⟨"a"⟩, .ok (.report impostor)),
        (⟨"b"⟩, .ok (.applied ⟨"a"⟩ (.ofList [m]))), (⟨"c"⟩, .error (.timedOut ⟨"c"⟩ 5))] := rfl
  have hresponded (node : NodeId) : node ∈ state.responded ↔ node = ⟨"a"⟩ := by
    rw [ha.responded, hgathered]
    simp
  refine ⟨state, s', d', outcome, t', e', hl, hl', fun node => ?_, ?_, ?_, ?_⟩
  · rw [ha.workers, hgathered]
    simp [impostor]
  · rw [ha.failed, hresponded]
    decide
  · rw [ho.undeployed, hreceipts, askAll_unit]
    refine ⟨rfl, ⟨"c"⟩, List.mem_map.2 ⟨⟨"a"⟩, ?_, rfl⟩⟩
    exact (ho.addressed _).2 (.inl ((hresponded _).2 rfl))
  · rw [Option.eq_none_iff_forall_ne_some]
    intro models hn
    rw [ho.undeployed, hreceipts, askAll_unit] at hn
    obtain ⟨-, named, hm⟩ := hn
    obtain ⟨node, -, hnode⟩ := List.mem_map.1 hm
    obtain rfl := congrArg Prod.fst hnode
    cases hnode

end Outside

end ModelFleet
