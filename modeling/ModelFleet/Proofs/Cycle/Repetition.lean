import ModelFleet.Proofs.Cluster.Rounds
import ModelFleet.Proofs.Cycle.Corrections
import ModelFleet.Proofs.Run.Cycle

/-!
# A cycle and the next one

Two cycles run one after the other, and nothing else changes the documents or the nodes.  A document
that was corrected needs none in the second cycle (`Reconciler.Agree.correction_amend`), and a
record that was left as it is needs one only if it has come out of the grace period in between
(`Reconciler.Agree.decide_later`).  `LocalCluster.next_cycle` says what the second cycle does.
-/

namespace ModelFleet

namespace Reconciler

variable {r r' : Reconciler} {record : ModelRecord} {c : Correction}

/-- Two reconcilers that see the same nodes and have the same patience. -/
structure Agree (r r' : Reconciler) : Prop where
  grace : r'.graceMillis = r.graceMillis
  workerCount : ∀ model, r'.state.workerCount model = r.state.workerCount model
  isDeploying : ∀ model, r'.state.isDeploying model = r.state.isDeploying model

/-- The state of a model whose nodes are too few. -/
def expected (r : Reconciler) (model : ModelId) : ModelState :=
  if r.state.isDeploying model then .deploying
  else if r.state.workerCount model = 0 then .deployFailed
  else .partiallyDeployed

theorem eq_expected_of_target {state : ModelState} (h : r.target record = some state) :
    state = r.expected record.id := by
  unfold target at h
  unfold expected
  simp only at h
  split at h
  · next hd =>
    cases h
    rw [if_pos hd]
  · next hd =>
    rw [if_neg hd]
    split at h
    · cases h
    · split at h
      · next h0 =>
        cases h
        rw [if_pos h0]
      · next h0 =>
        rw [if_neg h0]
        split at h
        · cases h
          rfl
        · cases h

/-- A record that says what is expected of its model needs no correction. -/
theorem decide_eq_none_of_expected (hs : record.state = r.expected record.id)
    (hc : record.current = r.state.workerCount record.id) : r.decide record = none := by
  cases hd : r.decide record with
  | none => rfl
  | some c =>
    obtain ⟨-, ht, hne, -⟩ := decide_eq_some hd
    exact absurd ⟨hs.trans (eq_expected_of_target ht).symm, hc⟩ hne

theorem Agree.expected_eq (h : Agree r r') (model : ModelId) :
    r'.expected model = r.expected model := by
  rw [expected, expected, h.isDeploying, h.workerCount]

/-- What is decided on a record depends on the nodes and on whether the record is left alone. -/
theorem Agree.decide_eq (h : Agree r r')
    (hg : r.state.isDeploying record.id = true ∨ r'.withinGrace record = r.withinGrace record) :
    r'.decide record = r.decide record := by
  have ht : r'.target record = r.target record := by
    unfold target
    simp only [h.isDeploying, h.workerCount]
    rcases hg with hd | hg
    · rw [if_pos hd, if_pos hd]
    · rw [hg]
  unfold decide
  simp only [ht, h.workerCount]

/-- A record that is left alone later was left alone before. -/
theorem Agree.withinGrace_of_later (h : Agree r r') (ht : r.now.nanos ≤ r'.now.nanos)
    (hg : r'.withinGrace record = true) : r.withinGrace record = true := by
  unfold withinGrace at hg ⊢
  cases hu : record.updated with
  | none =>
    rw [hu] at hg
    cases hg
  | some t =>
    rw [hu] at hg
    simp only [h.grace, Bool.or_eq_true, decide_eq_true_eq] at hg ⊢
    omega

/-- **What is decided on an unchanged record later** is what was decided before, or the record has
come out of the grace period. -/
theorem Agree.decide_later (h : Agree r r') (ht : r.now.nanos ≤ r'.now.nanos) :
    r'.decide record = some c ↔
      r.decide record = some c ∨
        r.withinGrace record = true ∧ r'.withinGrace record = false ∧
          r'.decide record = some c := by
  constructor
  · intro hd
    by_cases hg : r'.withinGrace record = r.withinGrace record
    · rw [h.decide_eq (.inr hg)] at hd
      exact .inl hd
    · cases hw : r.withinGrace record with
      | true =>
        rw [hw, Bool.not_eq_true] at hg
        exact .inr ⟨rfl, hg, hd⟩
      | false =>
        rw [hw, Bool.not_eq_false] at hg
        have := h.withinGrace_of_later ht hg
        rw [hw] at this
        cases this
  · rintro (hd | ⟨-, -, hd⟩)
    · have heq : r'.decide record = r.decide record := by
        refine h.decide_eq ?_
        rcases withinGrace_of_decide hd with hdep | hw
        · exact .inl hdep
        · right
          rw [hw]
          cases hw' : r'.withinGrace record with
          | false => rfl
          | true =>
            have := h.withinGrace_of_later ht hw'
            rw [hw] at this
            cases this
      rw [heq]
      exact hd
    · exact hd

/-- **A record that says what it was corrected to needs no correction.** -/
theorem Agree.decide_corrected (h : Agree r r') (hd : r.decide record = some c)
    (updated : Option Instant) :
    r'.decide { record with state := c.toState, current := c.toCount, updated } = none := by
  obtain ⟨-, ht, -, hc⟩ := decide_eq_some hd
  have hstate : c.toState = r'.expected record.id := by
    rw [h.expected_eq]
    exact eq_expected_of_target ht
  have hcount : c.toCount = r'.state.workerCount record.id := by
    rw [h.workerCount, hc]
  exact decide_eq_none_of_expected hstate hcount

/-- A document that was corrected needs no correction. -/
theorem Agree.correction_amend (h : Agree r r') {id : String} {source : Json}
    (hc : r.correction id source = some c) (time : Instant) :
    r'.correction id (r.amend time id source) = none := by
  obtain ⟨record, hr, hd, -, -⟩ := correction_eq_some hc
  have hdoc := (Scan.recordIn_eq_some_iff.1 hr).2
  have hamend : r.amend time id source = Document.rewrite c.toState c.toCount time source := by
    rw [amend, hc]
  unfold correction Scan.recordIn Scan.recordOf
  rw [hamend]
  split
  · rw [ModelRecord.ofDocument_rewrite hdoc]
    cases Instant.ofMillis? time.millis with
    | none => rfl
    | some t => exact h.decide_corrected hd (some t)
  · rfl

/-! ### All documents -/

/-- A correction of a document that is the same twice, whose record has come out of the grace period
in between. -/
def Crosses (r r' : Reconciler) (documents documents' : Collection) (c : Correction) : Prop :=
  ∃ id source record, documents.get? id = some source ∧ documents'.get? id = some source ∧
    Scan.recordIn id source = some record ∧ r.withinGrace record = true ∧
    r'.withinGrace record = false ∧ r'.decide record = some c

theorem mem_corrections_of_crosses {documents documents' : Collection}
    (h : Crosses r r' documents documents' c) : c ∈ r'.corrections documents' := by
  obtain ⟨id, source, record, -, hs, hr, -, -, hd⟩ := h
  exact mem_corrections.2 ⟨id, source, hs, Option.bind_eq_some_iff.2 ⟨record, hr, hd⟩⟩

/-- **The corrections of documents that nobody has changed.** -/
theorem Agree.mem_corrections_same (h : Agree r r') (ht : r.now.nanos ≤ r'.now.nanos)
    (documents : Collection) :
    c ∈ r'.corrections documents ↔
      c ∈ r.corrections documents ∨ Crosses r r' documents documents c := by
  constructor
  · intro hc
    obtain ⟨id, source, hs, hd⟩ := mem_corrections.1 hc
    obtain ⟨record, hr, hd⟩ := Option.bind_eq_some_iff.1 hd
    rcases (h.decide_later ht).1 hd with hd | ⟨hw, hw', hd⟩
    · exact .inl (mem_corrections.2 ⟨id, source, hs, Option.bind_eq_some_iff.2 ⟨record, hr, hd⟩⟩)
    · exact .inr ⟨id, source, record, hs, hs, hr, hw, hw', hd⟩
  · rintro (hc | hc)
    · obtain ⟨id, source, hs, hd⟩ := mem_corrections.1 hc
      obtain ⟨record, hr, hd⟩ := Option.bind_eq_some_iff.1 hd
      exact mem_corrections.2 ⟨id, source, hs,
        Option.bind_eq_some_iff.2 ⟨record, hr, (h.decide_later ht).2 (.inl hd)⟩⟩
    · exact mem_corrections_of_crosses hc

/-- **The corrections of documents that were corrected.** -/
theorem Agree.mem_corrections_amended (h : Agree r r') (ht : r.now.nanos ≤ r'.now.nanos)
    {documents documents' : Collection} {time : Instant}
    (hd : ∀ id, documents'.get? id = (documents.get? id).map (r.amend time id)) :
    c ∈ r'.corrections documents' ↔ Crosses r r' documents documents' c := by
  refine ⟨fun hc => ?_, mem_corrections_of_crosses⟩
  obtain ⟨id, source', hs', hcorr⟩ := mem_corrections.1 hc
  rw [hd] at hs'
  obtain ⟨source, hs, rfl⟩ := Option.map_eq_some_iff.1 hs'
  cases hfirst : r.correction id source with
  | some c₁ =>
    rw [h.correction_amend hfirst] at hcorr
    cases hcorr
  | none =>
    -- the document was left as it is
    have hsame : r.amend time id source = source := by
      rw [amend, hfirst]
    rw [hsame] at hcorr
    obtain ⟨record, hr, hdec⟩ := Option.bind_eq_some_iff.1 hcorr
    rcases (h.decide_later ht).1 hdec with hdec | ⟨hw, hw', hdec⟩
    · rw [correction, hr, Option.bind_some, hdec] at hfirst
      cases hfirst
    · refine ⟨id, source, record, hs, ?_, hr, hw, hw', hdec⟩
      rw [hd, hs, Option.map_some, hsame]

end Reconciler

open Outside

namespace LocalCluster

variable {cluster : LocalCluster} {timeout : Nat} {rounds rounds' : Outside.Rounds LocalCluster}
  {settings : SyncSettings} {now now' : Instant}

/-- Two states in which the same nodes hold and deploy the same models. -/
theorem agree_of_mem {state state' : Aggregate} {grace : Nat}
    (hw : ∀ node model, node ∈ state'.workers.nodesOf model ↔ node ∈ state.workers.nodesOf model)
    (hd : ∀ node model,
      node ∈ state'.deploying.nodesOf model ↔ node ∈ state.deploying.nodesOf model) :
    Reconciler.Agree ⟨grace, state, now⟩ ⟨grace, state', now'⟩ where
  grace := rfl
  workerCount model := by
    have : state'.workers.nodesOf model = state.workers.nodesOf model :=
      SortedSet.ext_mem fun node => hw node model
    rw [Aggregate.workerCount, Aggregate.workerCount, this]
  isDeploying model := by
    have : state'.deploying.nodesOf model = state.deploying.nodesOf model :=
      SortedSet.ext_mem fun node => hd node model
    rw [Aggregate.isDeploying, Aggregate.isDeploying, this]

/-- A look at the nodes after a cycle shows what the cycle has seen. -/
theorem RoundsSpec.agree_of_seen (h : RoundsSpec cluster timeout rounds) {state : Aggregate}
    (hs : Seen rounds.cluster timeout state) (grace : Nat) :
    Reconciler.Agree ⟨grace, rounds.state.afterRouting rounds.outcome, now⟩ ⟨grace, state, now'⟩ :=
  agree_of_mem (fun _ _ => h.workers_again hs) fun _ _ => by
    rw [h.deploying_again hs, Aggregate.deploying_afterRouting]

theorem afterRouting_of_empty {state : Aggregate} {outcome : RoutingOutcome}
    (h : outcome.undeployed = ∅) : state.afterRouting outcome = state := by
  rw [Aggregate.afterRouting, h]
  rfl

/-- **The second cycle decides with what the first one has seen**, and with what a look at the nodes
in between shows. -/
theorem RoundsSpec.agree_again (h : RoundsSpec cluster timeout rounds)
    (h' : RoundsSpec rounds.cluster timeout rounds') :
    Reconciler.Agree (rounds.reconciler settings now) (rounds'.reconciler settings now') := by
  rw [Outside.Rounds.reconciler, Outside.Rounds.reconciler,
    afterRouting_of_empty (h.undeployed_again h')]
  exact h.agree_of_seen h'.seen settings.graceMillis

theorem RoundsSpec.decide_again (h : RoundsSpec cluster timeout rounds)
    (h' : RoundsSpec rounds.cluster timeout rounds') (record : ModelRecord) :
    (rounds'.reconciler settings now').decide record =
      (⟨settings.graceMillis, rounds.cluster.view timeout, now'⟩ : Reconciler).decide record := by
  have hview := seen_view rounds.cluster timeout
  rw [Outside.Rounds.reconciler, afterRouting_of_empty (h.undeployed_again h')]
  refine Reconciler.Agree.decide_eq (agree_of_mem ?_ ?_) (.inr rfl)
  · intro node model
    rw [hview.workers, h'.seen.workers]
  · intro node model
    rw [hview.deploying, h'.seen.deploying]

/-- The second cycle takes no model from a node. -/
theorem RoundsSpec.deployed_again (h : RoundsSpec cluster timeout rounds)
    (h' : RoundsSpec rounds.cluster timeout rounds') (node : NodeId) :
    (rounds'.cluster.nodes.get? node).map (·.deployed) =
      (rounds.cluster.nodes.get? node).map (·.deployed) := by
  rw [h'.served]
  cases ha : rounds.cluster.answering timeout node with
  | none => rfl
  | some runtime =>
    rw [get?_of_inTime (answering_eq_some_iff.1 ha).2]
    simp only [Option.map_some, Option.some.injEq]
    refine SortedSet.ext_mem fun model => SortedSet.mem_filter.trans ?_
    exact and_iff_left (decide_eq_true (h.not_mem_fullyExpired h'.seen model))

/-- A correction of a record that has come out of the grace period between two cycles, of which the
first began in the state `s` and the second in the state `t`. -/
def OutOfGrace (settings : SyncSettings) (timeout : Nat) (now now' : Instant)
    (s t : State LocalCluster) (c : Correction) : Prop :=
  t.cluster.membershipDown = false ∧
    Reconciler.Crosses ⟨settings.graceMillis, s.cluster.view timeout, now⟩
      ⟨settings.graceMillis, t.cluster.view timeout, now'⟩
      (s.store.documents settings.modelCollection) (t.store.documents settings.modelCollection) c

/-- **How a cycle relates to the one before it**, which began in the state `s` and whose report is
`report`, when nothing else has changed the documents or the nodes: it begins in `t` and ends in
`t'` with the report `report'`.  The times are those at which the two cycles decided. -/
structure Follows (settings : SyncSettings) (timeout : Nat) (now now' : Instant)
    (s t t' : State LocalCluster) (report report' : CycleReport) : Prop where
  /-- No model is undeployed. -/
  undeployed : ∀ outcome ∈ report'.routing, outcome.undeployed = ∅
  deployed : ∀ node, (t'.cluster.nodes.get? node).map (·.deployed) =
    (t.cluster.nodes.get? node).map (·.deployed)
  /-- The corrections are those that were not stored, and those of records that have come out of the
  grace period, each once. -/
  corrections : ∀ c, c ∈ report'.corrections ↔
    c ∈ report.corrections ∧ Cycle.Refused report.bulk ∨ OutOfGrace settings timeout now now' s t c
  ordered : report'.corrections.Pairwise fun a b => a.model.text < b.model.text
  /-- Where there are none, nothing is written. -/
  settled : ¬ Cycle.Refused report.bulk → (∀ c, ¬ OutOfGrace settings timeout now now' s t c) →
    report'.corrections = [] ∧ report'.bulk = none ∧ t'.updates = t.updates ∧
      t'.store.collections.get? settings.modelCollection =
        t.store.collections.get? settings.modelCollection

/-- Two cycles in which the nodes cannot be listed. -/
theorem follows_of_down {s t t' : State LocalCluster} {report report' : CycleReport}
    (hdown : t.cluster.membershipDown = true) (hc : report.corrections = [])
    (h : Cycle.GivenUp settings.modelCollection t t' report') :
    Follows settings timeout now now' s t t' report report' where
  undeployed outcome ho := by
    rw [h.routing] at ho
    cases ho
  deployed node := by rw [h.cluster]
  corrections c := by
    rw [h.corrections, hc]
    constructor
    · intro hm
      cases hm
    · rintro (⟨hm, -⟩ | ⟨hup, -⟩)
      · cases hm
      · rw [hdown] at hup
        cases hup
  ordered := by
    rw [h.corrections]
    exact .nil
  settled _ _ := ⟨h.corrections, h.bulk, h.untouched.updates, h.untouched.documents⟩

/-- What is stored before the second of two cycles that have done all their work. -/
theorem follows_of_up {bulk bulk' : Nat → Fate} {time time' : Nat → Instant}
    {s s' t t' : State LocalCluster} {report report' : CycleReport}
    {documents documents' : Collection} {written written' : Instant} (ht : now.nanos ≤ now'.nanos)
    (hup : t.cluster.membershipDown = false)
    (hs : s.store.collections.get? settings.modelCollection = some documents)
    (hdocs : t.store.collections.get? settings.modelCollection = some documents')
    (hcluster : t.cluster = s'.cluster)
    (h : Cycle.Completed (outside timeout bulk time) settings s.cluster.eligible documents now
      written s s' report)
    (h' : Cycle.Completed (outside timeout bulk' time') settings t.cluster.eligible documents' now'
      written' t t' report')
    (hstored : Cycle.Refused report.bulk ∧ documents' = documents ∨
      ¬ Cycle.Refused report.bulk ∧ ∀ id, documents'.get? id = (documents.get? id).map
        ((((outside timeout bulk time).rounds report.cycle s.cluster.eligible s.cluster).reconciler
          settings now).amend written id)) :
    Follows settings timeout now now' s t t' report report' := by
  have hspec := rounds_spec s.cluster timeout bulk time report.cycle
  have hspec' := rounds_spec t.cluster timeout bulk' time' report'.cycle
  have hcorr := h.corrections
  have hcorr' := h'.corrections
  have hrouting' := h'.routing
  have hafter := h.cluster
  have hafter' := h'.cluster
  have hending' := h'.ending
  generalize (outside timeout bulk time).rounds report.cycle s.cluster.eligible s.cluster = rounds
    at *
  generalize (outside timeout bulk' time').rounds report'.cycle t.cluster.eligible t.cluster =
    rounds' at *
  rw [hcluster, hafter] at hspec'
  have hagree : Reconciler.Agree (rounds.reconciler settings now)
      (rounds'.reconciler settings now') := hspec.agree_again hspec'
  have hcross : ∀ c, Reconciler.Crosses (rounds.reconciler settings now)
      (rounds'.reconciler settings now') documents documents' c ↔
        OutOfGrace settings timeout now now' s t c := by
    intro c
    have hdecide : ∀ record, (rounds'.reconciler settings now').decide record =
        (⟨settings.graceMillis, t.cluster.view timeout, now'⟩ : Reconciler).decide record := by
      rw [hcluster, hafter]
      exact hspec.decide_again hspec'
    rw [OutOfGrace, MemoryStore.documents, hs, MemoryStore.documents, hdocs]
    simp only [Reconciler.Crosses, hdecide, hup, true_and]
    rfl
  have hmem : ∀ c, c ∈ report'.corrections ↔
      c ∈ report.corrections ∧ Cycle.Refused report.bulk ∨
        OutOfGrace settings timeout now now' s t c := by
    intro c
    rw [hcorr', hcorr, ← hcross]
    rcases hstored with ⟨hr, rfl⟩ | ⟨hr, hamended⟩
    · rw [hagree.mem_corrections_same ht]
      simp [hr]
    · rw [hagree.mem_corrections_amended ht hamended]
      simp [hr]
  exact {
    undeployed := by
      intro outcome ho
      rw [hrouting'] at ho
      cases ho
      exact hspec.undeployed_again hspec'
    deployed := by
      intro node
      rw [hafter', hcluster, hafter]
      exact hspec.deployed_again hspec' node
    corrections := hmem
    ordered := by
      rw [hcorr']
      exact Reconciler.corrections_sorted _ _
    settled := by
      intro hr hc
      have hnil : report'.corrections = [] := by
        rw [List.eq_nil_iff_forall_not_mem]
        intro c hm
        rcases (hmem c).1 hm with ⟨-, hrefused⟩ | hout
        · exact hr hrefused
        · exact hc c hout
      rw [hnil] at hending'
      generalize hb : report'.bulk = bulk at hending'
      cases hending' with
      | idle hu => exact ⟨hnil, rfl, hu.updates, hu.documents⟩
      | refused hne => exact absurd rfl hne
      | written hne => exact absurd rfl hne }

/-- **Two cycles one after the other**, between which nothing changes the documents or the nodes:
the second one begins in any state `t` that has the documents and the nodes that the first one has
left, at any later time, and in any daemon that can run it. -/
theorem next_cycle (settings : SyncSettings) (timeout : Nat) (bulk bulk' : Nat → Fate)
    (time time' : Nat → Instant) (htime : ∀ i j, (time i).nanos ≤ (time' j).nanos)
    (s : State LocalCluster) (d : Daemon)
    (hc : settings.configCollection ≠ settings.modelCollection)
    (hs : s.store.hasCollection settings.modelCollection = true)
    (hk : Bootstrap.Healthy settings.configCollection settings.masterKeyId s.store d)
    (hg : d.gate.isOpen = true) :
    ∃ report s' d' i,
      Leads (outside timeout bulk time) (Cycle.job settings) (.after (Cycle.start.run d) s)
        (.ended report s' d') ∧
      s.asked.length ≤ i ∧ i < s'.asked.length ∧
      ∀ (t : State LocalCluster) (e : Daemon),
        t.store.collections.get? settings.modelCollection =
          s'.store.collections.get? settings.modelCollection →
        t.cluster = s'.cluster →
        Bootstrap.Healthy settings.configCollection settings.masterKeyId t.store e →
        e.gate.isOpen = true →
        ∃ report' t' e' j,
          Leads (outside timeout bulk' time') (Cycle.job settings) (.after (Cycle.start.run e) t)
            (.ended report' t' e') ∧
          t.asked.length ≤ j ∧ j < t'.asked.length ∧
          Follows settings timeout (time i) (time' j) s t t' report report' := by
  obtain ⟨documents, hdocs⟩ := Option.isSome_iff_exists.1 hs
  have hq := quiet_outside timeout bulk time
  have hq' := quiet_outside timeout bulk' time'
  cases hup : s.cluster.membershipDown with
  | true =>
    obtain ⟨error, hm⟩ := members_of_down hup
    obtain ⟨report, s', d', hl, hgiven⟩ := Cycle.leads_of_start_of_error settings hq hc hk hdocs hm
    refine ⟨report, s', d', s.asked.length, hl, Nat.le_refl _, hgiven.later, ?_⟩
    intro t e hdocs' hcluster hk' _
    have hup' : t.cluster.membershipDown = true := by
      rw [hcluster, hgiven.cluster, hup]
    rw [hgiven.untouched.documents, hdocs] at hdocs'
    obtain ⟨error', hm'⟩ := members_of_down hup'
    obtain ⟨report', t', e', hl', hgiven'⟩ :=
      Cycle.leads_of_start_of_error settings hq' hc hk' hdocs' hm'
    exact ⟨report', t', e', t.asked.length, hl', Nat.le_refl _, hgiven'.later,
      follows_of_down hup' hgiven.corrections hgiven'⟩
  | false =>
    obtain ⟨i, j, report, s', d', hl, hcompleted, hi, hij, hj⟩ :=
      Cycle.leads_of_start settings hq hc hk hdocs (members_of_up hup) hg
    refine ⟨report, s', d', i, hl, hi, by omega, ?_⟩
    intro t e hdocs' hcluster hk' hg'
    have hending := hcompleted.ending
    rw [hcompleted.corrections] at hending
    obtain ⟨documents', hs', hstored⟩ := hending.stored hdocs
    have hup' : t.cluster.membershipDown = false := by
      rw [hcluster, hcompleted.cluster, (rounds_spec ..).membershipDown, hup]
    rw [hs'] at hdocs'
    obtain ⟨i', j', report', t', e', hl', hcompleted', hi', hij', hj'⟩ :=
      Cycle.leads_of_start settings hq' hc hk' hdocs' (members_of_up hup') hg'
    refine ⟨report', t', e', i', hl', hi', by omega, ?_⟩
    refine follows_of_up (htime i i') hup' hdocs hdocs' hcluster hcompleted hcompleted' ?_
    rcases hstored with ⟨hr, -, hsame⟩ | ⟨hr, hamended⟩
    · exact .inl ⟨hr, hsame⟩
    · exact .inr ⟨hr, hamended⟩

/-- A cluster of one node without models, a record of a lost model, and a second cycle by another
daemon that finds no key. -/
theorem next_cycle_of_lost_model :
    let settings : SyncSettings := default
    let source : Json := .object [(Document.stateField, .str "DEPLOYED"),
      (Document.plannedField, .int 2), (Document.currentField, .int 1)]
    let s : State LocalCluster :=
      ⟨(∅ : MemoryStore).put settings.modelCollection "m" source, .ofNodes [⟨"n"⟩], []⟩
    let d := Daemon.fresh (.ofMillis 0) default default
    ∃ report s' d' t report' t' e',
      Leads (outside 5000 (fun _ => .served) fun _ => .ofMillis 1000) (Cycle.job settings)
        (.after (Cycle.start.run d) s) (.ended report s' d') ∧
      t.cluster = s'.cluster ∧
      Leads (outside 5000 (fun _ => .served) fun _ => .ofMillis 2000) (Cycle.job settings)
        (.after (Cycle.start.run d) t) (.ended report' t' e') ∧
      Follows settings 5000 (.ofMillis 1000) (.ofMillis 2000) s t t' report report' := by
  intro settings source s d
  obtain ⟨report, s', d', i, hl, -, -, hnext⟩ := next_cycle settings 5000 (fun _ => .served)
    (fun _ => .served) (fun _ => .ofMillis 1000) (fun _ => .ofMillis 2000) (fun _ _ => by decide)
    s d (by decide) (by decide) ⟨rfl, by intro source hs; cases hs⟩ rfl
  -- the store of the second cycle has no key
  let t : State LocalCluster :=
    { s' with store := ⟨s'.store.collections.erase settings.configCollection⟩ }
  have hnone : t.store.get? settings.configCollection settings.masterKeyId = none := by
    rw [MemoryStore.get?, MemoryStore.documents, SortedMap.get?_erase, if_pos rfl]
    rfl
  obtain ⟨report', t', e', j, hl', -, -, hf⟩ := hnext t d
    ((SortedMap.get?_erase ..).trans (if_neg (by decide))) rfl
    ⟨rfl, by intro source hs; rw [hnone] at hs; cases hs⟩ rfl
  exact ⟨report, s', d', t, report', t', e', hl, rfl, hl', hf⟩

end LocalCluster

end ModelFleet
