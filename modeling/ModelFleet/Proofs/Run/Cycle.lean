import ModelFleet.Proofs.Run.Stages

/-!
# A whole cycle

`leads_of_start` puts the stages together: a cycle that nothing disturbs ends, and `Completed` says
what it has done.  Where the nodes cannot be listed, it is given up and changes nothing
(`leads_of_start_of_error`).
-/

namespace ModelFleet

open Outside

namespace Cycle

open MemoryStore

variable {γ : Type} {out : Outside γ} (settings : SyncSettings) {report : CycleReport}
  {documents : Collection}

theorem Ending.of_untouched {collection : String} {time : Instant} {s₁ s₂ s₃ : State γ}
    {corrections : List Correction} {bulk : Option BulkOutcome}
    (h : Ending out collection documents time s₂ s₃ corrections bulk)
    (hu : Untouched collection s₁ s₂) :
    Ending out collection documents time s₁ s₃ corrections bulk := by
  cases h with
  | idle h => exact .idle (hu.trans h)
  | refused hne hf hd => exact .refused hne hf hd
  | written hne hu hd => exact .written hne hu hd

/-- What a cycle has done that reads these documents with these nodes, decides at one time and
writes at another. -/
structure Completed (out : Outside γ) (settings : SyncSettings) (nodes : List NodeId)
    (documents : Collection) (decided written : Instant) (s s' : State γ) (report : CycleReport) :
    Prop where
  outcome : report.outcome = .completed
  routing : report.routing = some (out.rounds report.cycle nodes s.cluster).outcome
  scanned : report.scanned = (Scan.records (matchesAfter documents Scan.query none)).length
  corrections : report.corrections =
    ((out.rounds report.cycle nodes s.cluster).reconciler settings decided).corrections documents
  ending : Ending out settings.modelCollection documents written s s' report.corrections report.bulk
  cluster : s'.cluster = (out.rounds report.cycle nodes s.cluster).cluster

theorem leads_of_probing (hq : out.Quiet) (report : CycleReport) {s : State γ}
    (hs : s.store.collections.get? settings.modelCollection = some documents) (d : Daemon) :
    Leads out (job settings) ⟨.wait ⟨report, .probing⟩, s, d⟩
      ⟨.wait ⟨report, .gathering .listing⟩, s.note (.probe settings.modelCollection),
        { d with clock := out.time s.asked.length }⟩ := by
  have hc : s.store.hasCollection settings.modelCollection = true := by
    simp [hasCollection, SortedMap.contains, hs]
  have ha := answer_probe hq settings.modelCollection s
  rw [hc] at ha
  exact .next ha rfl (.refl _)

/-- What a cycle does from its rounds on. -/
theorem leads_of_listed (hq : out.Quiet) (report : CycleReport) {s : State γ} {d : Daemon}
    {nodes : List NodeId}
    (hs : s.store.collections.get? settings.modelCollection = some documents)
    (hm : out.members s.cluster = .ok nodes) (hg : d.gate.isOpen = true) :
    ∃ i j report' s' d',
      Leads out (job settings) ⟨.wait ⟨report, .gathering .listing⟩, s, d⟩ (.ended report' s' d') ∧
      Completed out settings nodes documents (out.time i) (out.time j) s s' report' ∧
      s.asked.length ≤ i ∧ i ≤ j ∧ j < s'.asked.length := by
  let rounds := out.rounds report.cycle nodes s.cluster
  obtain ⟨i, s₁, d₁, hrounds, hu₁, hc₁, hi, hi'⟩ :=
    leads_of_listing settings hq report hm hg
  have hs₁ := hu₁.documents.trans hs
  obtain ⟨j, s₂, d₂, hj, hj', ht, hscan, hu₂, hc₂⟩ :=
    leads_of_scanning settings (report.routed rounds)
      (rounds.reconciler settings (out.time i)) hq hs₁ .start .empty d₁
  have hs₂ := hu₂.documents.trans hs₁
  obtain ⟨bulk, s₃, d₃, t, hend, he, hc₃, hlater⟩ :=
    leads_of_afterScan settings (report.routed rounds) hq _ d₂ hs₂
  refine ⟨i, j, _, s₃, d₃, hrounds.trans (hscan.trans hend), ?_, hi, by omega, by omega⟩
  rw [ht] at he
  exact {
    outcome := rfl
    routing := rfl
    scanned := Nat.zero_add _
    corrections := List.nil_append _
    ending := he.of_untouched (hu₁.trans hu₂)
    cluster := hc₃.trans (hc₂.trans hc₁) }

theorem Completed.of_untouched {nodes : List NodeId} {decided written : Instant}
    {s₁ s₂ s₃ : State γ} (hc : Completed out settings nodes documents decided written s₂ s₃ report)
    (hu : Untouched settings.modelCollection s₁ s₂) (h : s₂.cluster = s₁.cluster) :
    Completed out settings nodes documents decided written s₁ s₃ report where
  outcome := hc.outcome
  routing := h ▸ hc.routing
  scanned := hc.scanned
  corrections := h ▸ hc.corrections
  ending := hc.ending.of_untouched hu
  cluster := h ▸ hc.cluster

/-- **A cycle that nothing disturbs does all its work.** -/
theorem leads_of_start (hq : out.Quiet) {s : State γ} {d : Daemon} {nodes : List NodeId}
    (hc : settings.configCollection ≠ settings.modelCollection)
    (hk : Bootstrap.Healthy settings.configCollection settings.masterKeyId s.store d)
    (hs : s.store.collections.get? settings.modelCollection = some documents)
    (hm : out.members s.cluster = .ok nodes) (hg : d.gate.isOpen = true) :
    ∃ i j report s' d', Leads out (job settings) (.after (start.run d) s) (.ended report s' d') ∧
      Completed out settings nodes documents (out.time i) (out.time j) s s' report ∧
      s.asked.length ≤ i ∧ i ≤ j ∧ j < s'.asked.length := by
  let report := CycleReport.fresh (.ofNat (d.begun + 1)) d.clock
  obtain ⟨status, s₁, d₁, hkey, hu₁, hc₁, hg₁⟩ := Bootstrap.leads_of_healthy
    (d := (start.run d).2) hq ⟨hk.accepts, hk.readable⟩
  have hs₁ := (hu₁ _ hc).documents.trans hs
  let s₂ := s₁.note (.probe settings.modelCollection)
  have hm₂ : out.members s₂.cluster = .ok nodes := hc₁ ▸ hm
  have hg₂ : ({ d₁ with clock := out.time s₁.asked.length } : Daemon).gate.isOpen = true :=
    hg₁ ▸ hg
  obtain ⟨i, j, report', s', d', hl, hcompleted, hi, hij, hj⟩ :=
    leads_of_listed settings (s := s₂) hq report hs₁ hm₂ hg₂
  have hlater := (hu₁ _ hc).later
  rw [State.length_asked_note] at hi
  refine ⟨i, j, report', s', d', (leads_inCycle settings report hkey).trans
    ((leads_of_probing settings hq report hs₁ d₁).trans hl), ?_, by omega, hij, hj⟩
  exact hcompleted.of_untouched settings ((hu₁ _ hc).trans (untouched_note rfl)) hc₁

/-! ### When the nodes cannot be listed -/

/-- What a cycle has done that was given up before it wrote anything. -/
structure GivenUp (collection : String) (s s' : State γ) (report : CycleReport) : Prop where
  outcome : ∃ cause, report.outcome = .aborted cause
  routing : report.routing = none
  corrections : report.corrections = []
  bulk : report.bulk = none
  untouched : Untouched collection s s'
  cluster : s'.cluster = s.cluster
  later : s.asked.length < s'.asked.length

theorem leads_of_listing_error (hq : out.Quiet) (id : CycleId) (now : Instant) {s : State γ}
    {e : ClusterError} (hm : out.members s.cluster = .error e) (d : Daemon) :
    ∃ report s' d', Leads out (job settings)
        ⟨.wait ⟨.fresh id now, .gathering .listing⟩, s, d⟩ (.ended report s' d') ∧
      GivenUp settings.modelCollection s s' report := by
  have ha : out.answer .members s = (s.note .members, .error e) := by
    rw [answer_members hq, hm]
  refine ⟨_, _, _, .next ha rfl (leads_of_filing settings _ hq _ _), ?_⟩
  exact {
    outcome := ⟨_, rfl⟩
    routing := rfl
    corrections := rfl
    bulk := rfl
    untouched := (untouched_note rfl).trans (untouched_note rfl)
    cluster := rfl
    later := by simp [State.note] }

/-- A cycle that cannot list the nodes is given up. -/
theorem leads_of_start_of_error (hq : out.Quiet) {s : State γ} {d : Daemon} {e : ClusterError}
    (hc : settings.configCollection ≠ settings.modelCollection)
    (hk : Bootstrap.Healthy settings.configCollection settings.masterKeyId s.store d)
    (hs : s.store.collections.get? settings.modelCollection = some documents)
    (hm : out.members s.cluster = .error e) :
    ∃ report s' d', Leads out (job settings) (.after (start.run d) s) (.ended report s' d') ∧
      GivenUp settings.modelCollection s s' report := by
  obtain ⟨status, s₁, d₁, hkey, hu₁, hc₁, -⟩ := Bootstrap.leads_of_healthy
    (d := (start.run d).2) hq ⟨hk.accepts, hk.readable⟩
  have hs₁ := (hu₁ _ hc).documents.trans hs
  have hm₁ : out.members (s₁.note (.probe settings.modelCollection)).cluster = .error e :=
    hc₁ ▸ hm
  obtain ⟨report, s', d', hl, hg⟩ := leads_of_listing_error settings hq
    (.ofNat (d.begun + 1)) d.clock hm₁ { d₁ with clock := out.time s₁.asked.length }
  refine ⟨report, s', d', (leads_inCycle settings _ hkey).trans
    ((leads_of_probing settings hq _ hs₁ d₁).trans hl), ?_⟩
  exact { hg with
    untouched := ((hu₁ _ hc).trans (untouched_note rfl)).trans hg.untouched
    cluster := hg.cluster.trans hc₁
    later := Nat.lt_of_le_of_lt ((hu₁ _ hc).trans (untouched_note rfl)).later hg.later }

end Cycle

end ModelFleet
