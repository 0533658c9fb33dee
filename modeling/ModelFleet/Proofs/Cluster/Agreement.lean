import ModelFleet.Proofs.Cycle.Repetition

/-!
# The nodes agree with what a cycle has seen

After the two rounds of a cycle the nodes hold what the cycle believes them to hold: the placement
with which it decides is the routing table that it has pushed, every node that has acknowledged the
push has that table, and a look at the nodes shows it again (`LocalCluster.rounds_agree`).
-/

namespace ModelFleet

open Outside

namespace Aggregate

variable {state : Aggregate}

theorem occupied_afterRouting (h : state.workers.Occupied) (outcome : RoutingOutcome) :
    (state.afterRouting outcome).workers.Occupied := by
  unfold afterRouting
  induction outcome.undeployed.entries generalizing state with
  | nil => exact h
  | cons entry rest ih => exact ih (Placement.occupied_remove h entry.1 entry.2)

theorem occupied_routingTable (h : state.workers.Occupied) : state.routingTable.Occupied :=
  Placement.occupied_filter h _

theorem mem_routingTable {n : NodeId} {model : ModelId} :
    n ∈ state.routingTable.nodesOf model ↔
      n ∈ state.workers.nodesOf model ∧ model ∉ state.fullyExpired := by
  refine Placement.mem_nodesOf_filter.trans (and_congr_right fun _ => ?_)
  exact decide_eq_true_iff

end Aggregate

theorem Gather.occupied_workers (answers : List Answer) : (state answers).workers.Occupied := by
  rw [(gathered_state answers).workers]
  exact Placement.occupied_ofReports _

theorem Gather.occupied_deploying (answers : List Answer) :
    (state answers).deploying.Occupied := by
  rw [(gathered_state answers).deploying]
  exact Placement.occupied_ofReports _

/-! ### The rounds as jobs -/

namespace Outside

variable {γ : Type} {out : Outside γ}

/-- A gathering that ends in `rounds.state`, and then a push of that state that ends in
`rounds.outcome`: they begin in `s` and end in `s'`. -/
def HasRounds (out : Outside γ) (cycle : CycleId) (s : State γ) (d : Daemon) (rounds : Rounds γ)
    (s' : State γ) (d' : Daemon) : Prop :=
  s'.cluster = rounds.cluster ∧
    ∃ s₁ d₁, Leads out (Gather.job cycle) ⟨.wait .listing, s, d⟩ (.ended (.ok rounds.state) s₁ d₁) ∧
      Leads out (Routing.job cycle) ⟨.wait ⟨rounds.state⟩, s₁, d₁⟩ (.ended rounds.outcome s' d')

theorem occupied_workers_rounds (out : Outside γ) (cycle : CycleId) (nodes : List NodeId)
    (cluster : γ) : (out.rounds cycle nodes cluster).state.workers.Occupied :=
  Gather.occupied_workers (out.askAll (.gather cycle) nodes cluster).2

theorem occupied_deploying_rounds (out : Outside γ) (cycle : CycleId) (nodes : List NodeId)
    (cluster : γ) : (out.rounds cycle nodes cluster).state.deploying.Occupied :=
  Gather.occupied_deploying (out.askAll (.gather cycle) nodes cluster).2

/-- Both rounds end if the nodes can be listed. -/
theorem exists_hasRounds (hq : out.Quiet) (cycle : CycleId) {s : State γ} (d : Daemon)
    {nodes : List NodeId} (hm : out.members s.cluster = .ok nodes) :
    ∃ s' d', out.HasRounds cycle s d (out.rounds cycle nodes s.cluster) s' d' := by
  have hmembers : out.answer .members s = (s.note .members, .ok nodes) := by
    rw [answer_members hq, hm]
  have hfirst := answer_broadcast hq nodes (.gather cycle) (s.note .members)
  let s₁ := out.tell nodes (.gather cycle) (s.note .members)
  let state := (out.rounds cycle nodes s.cluster).state
  have hsecond := answer_broadcast hq state.nodes.toList (.applyRouting cycle state.push) s₁
  exact ⟨_, _, rfl, s₁, _, .next hmembers rfl (.next hfirst rfl (.refl _)),
    .next hsecond rfl (.refl _)⟩

/-- The first round fails if the nodes cannot be listed, and leaves them as they are. -/
theorem exists_gather_error (hq : out.Quiet) (cycle : CycleId) {s : State γ} (d : Daemon)
    {e : ClusterError} (hm : out.members s.cluster = .error e) :
    ∃ s' d', s'.cluster = s.cluster ∧ Leads out (Gather.job cycle) ⟨.wait .listing, s, d⟩
      (.ended (.error (.cluster e)) s' d') := by
  have hmembers : out.answer .members s = (s.note .members, .error e) := by
    rw [answer_members hq, hm]
  exact ⟨s.note .members, _, rfl, .next hmembers rfl (.refl _)⟩

end Outside

/-! ### What the nodes have and what the cycle believes -/

namespace LocalCluster

variable {cluster : LocalCluster} {timeout : Nat} {rounds rounds' : Outside.Rounds LocalCluster}

/-- **The cycle and the nodes agree after the rounds**: what the cycle goes on with is what it has
pushed and what every node has that has acknowledged it, which are those that take part and answer
in time. -/
structure Agreed (cluster : LocalCluster) (timeout : Nat) (rounds : Outside.Rounds LocalCluster) :
    Prop where
  pushed : (rounds.state.afterRouting rounds.outcome).workers = rounds.state.push.routing
  acknowledged : ∀ node, node ∈ rounds.outcome.acknowledged ↔
    ∃ runtime, cluster.answering timeout node = some runtime
  held : ∀ node ∈ rounds.outcome.acknowledged, ∃ runtime,
    rounds.cluster.nodes.get? node = some runtime ∧
      runtime.routing = (rounds.state.afterRouting rounds.outcome).workers

/-- **The rounds of a second cycle find what the first one has left**, and have nothing to do. -/
structure Repeated (rounds rounds' : Outside.Rounds LocalCluster) : Prop where
  workers : rounds'.state.workers = (rounds.state.afterRouting rounds.outcome).workers
  deploying : rounds'.state.deploying = rounds.state.deploying
  fullyExpired : rounds'.state.fullyExpired = ∅
  pushed : rounds'.state.push.routing = rounds.state.push.routing
  undeployed : rounds'.outcome.undeployed = ∅
  deployed : ∀ node, (rounds'.cluster.nodes.get? node).map (·.deployed) =
    (rounds.cluster.nodes.get? node).map (·.deployed)

/-- What the cycle goes on with is what it has pushed. -/
theorem RoundsSpec.workers_eq_pushed (h : RoundsSpec cluster timeout rounds)
    (hw : rounds.state.workers.Occupied) :
    (rounds.state.afterRouting rounds.outcome).workers = rounds.state.push.routing := by
  refine Placement.ext_of_occupied (Aggregate.occupied_afterRouting hw _)
    (Aggregate.occupied_routingTable hw) fun model node => ?_
  refine h.mem_workers.trans (Iff.trans ?_ Aggregate.mem_routingTable.symm)
  rw [h.seen.workers]
  constructor
  · rintro ⟨runtime, ha, hm, he⟩
    exact ⟨⟨runtime, ha, hm⟩, he⟩
  · rintro ⟨⟨runtime, ha, hm⟩, he⟩
    exact ⟨runtime, ha, hm, he⟩

theorem RoundsSpec.agreed (h : RoundsSpec cluster timeout rounds)
    (hw : rounds.state.workers.Occupied) : Agreed cluster timeout rounds where
  pushed := h.workers_eq_pushed hw
  acknowledged := h.acknowledged
  held node hn := by
    obtain ⟨runtime, ha⟩ := (h.acknowledged node).1 hn
    refine ⟨runtime.apply rounds.state.push, ?_, (h.workers_eq_pushed hw).symm⟩
    rw [h.served, ha]

theorem RoundsSpec.repeated (h : RoundsSpec cluster timeout rounds)
    (h' : RoundsSpec rounds.cluster timeout rounds') (hw : rounds.state.workers.Occupied)
    (hw' : rounds'.state.workers.Occupied) (hd : rounds.state.deploying.Occupied)
    (hd' : rounds'.state.deploying.Occupied) : Repeated rounds rounds' := by
  have hworkers : rounds'.state.workers = (rounds.state.afterRouting rounds.outcome).workers :=
    Placement.ext_of_occupied hw' (Aggregate.occupied_afterRouting hw _) fun _ _ =>
      h.workers_again h'.seen
  have hundeployed := h.undeployed_again h'
  exact {
    workers := hworkers
    deploying := Placement.ext_of_occupied hd' hd fun _ _ => h.deploying_again h'.seen
    fullyExpired := SortedSet.ext_mem fun model =>
      iff_of_false (h.not_mem_fullyExpired h'.seen model) (SortedSet.not_mem_empty model)
    pushed := by
      rw [← h'.workers_eq_pushed hw', ← h.workers_eq_pushed hw, ← hworkers,
        afterRouting_of_empty hundeployed]
    undeployed := hundeployed
    deployed := h.deployed_again h' }

/-- **After the two rounds of a cycle the nodes agree with it**, in every cluster that nothing else
changes: the placement with which it goes on is the table it has pushed and the one that every
acknowledged node has.  Two rounds of any cycle that come after them find that placement again and
the same models being deployed, nothing that is fully expired, and so push the same table and take
nothing from a node. -/
theorem rounds_agree (timeout : Nat) (bulk : Nat → Fate) (time : Nat → Instant) (cycle : CycleId)
    (s : State LocalCluster) (d : Daemon) :
    (s.cluster.membershipDown = true ∧ ∃ e s' d', s'.cluster = s.cluster ∧
      Leads (outside timeout bulk time) (Gather.job cycle) ⟨.wait .listing, s, d⟩
        (.ended (.error e) s' d')) ∨
    ∃ rounds s' d', (outside timeout bulk time).HasRounds cycle s d rounds s' d' ∧
      Agreed s.cluster timeout rounds ∧
      ∀ (again : CycleId) (t : State LocalCluster) (e : Daemon), t.cluster = s'.cluster →
        ∃ rounds' t' e', (outside timeout bulk time).HasRounds again t e rounds' t' e' ∧
          Repeated rounds rounds' := by
  have hq := quiet_outside timeout bulk time
  cases hup : s.cluster.membershipDown with
  | true =>
    obtain ⟨e, hm⟩ := members_of_down hup
    obtain ⟨s', d', hc, hl⟩ := exists_gather_error hq cycle d hm
    exact .inl ⟨rfl, _, s', d', hc, hl⟩
  | false =>
    obtain ⟨s', d', hrounds⟩ := exists_hasRounds hq cycle d (members_of_up hup)
    have hspec := rounds_spec s.cluster timeout bulk time cycle
    have hw :=
      occupied_workers_rounds (outside timeout bulk time) cycle s.cluster.eligible s.cluster
    have hd :=
      occupied_deploying_rounds (outside timeout bulk time) cycle s.cluster.eligible s.cluster
    generalize (outside timeout bulk time).rounds cycle s.cluster.eligible s.cluster = rounds at *
    refine .inr ⟨rounds, s', d', hrounds, hspec.agreed hw, fun again t e ht => ?_⟩
    rw [hrounds.1] at ht
    have hup' : t.cluster.membershipDown = false := by rw [ht, hspec.membershipDown, hup]
    obtain ⟨t', e', hrounds'⟩ := exists_hasRounds hq again e (members_of_up hup')
    have hspec' := rounds_spec t.cluster timeout bulk time again
    have hw' :=
      occupied_workers_rounds (outside timeout bulk time) again t.cluster.eligible t.cluster
    have hd' :=
      occupied_deploying_rounds (outside timeout bulk time) again t.cluster.eligible t.cluster
    generalize (outside timeout bulk time).rounds again t.cluster.eligible t.cluster = rounds' at *
    rw [ht] at hspec'
    exact ⟨rounds', t', e', hrounds', hspec.repeated hspec' hw hw' hd hd'⟩

end LocalCluster

end ModelFleet
