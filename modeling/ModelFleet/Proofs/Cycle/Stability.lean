import ModelFleet.Proofs.Cycle.Repetition

/-!
# A correction, once stored, is stable

A correction that is not written stays the one that its record needs, at every later time
(`Reconciler.decide_of_le`).  Written, by merging its members into the document, it leaves a document
that is a record again and needs no correction, with whatever patience one looks at it
(`Reconciler.decide_corrected`).  `Reconciler.correction_stable` says both of a document.
-/

namespace ModelFleet

namespace Document

/-- The members that a correction changes. -/
def correctedFields : List String := [stateField, currentField, updatedField]

/-- Rewriting a document keeps the members that no correction is about. -/
theorem get?_rewrite_of_not_mem {field : String} (h : field ∉ correctedFields) (state : ModelState)
    (count : UInt32) (time : Instant) (source : Json) :
    (rewrite state count time source).get? field = source.get? field := by
  simp only [correctedFields, List.mem_cons, List.not_mem_nil, or_false, not_or] at h
  obtain ⟨hs, hc, hu⟩ := h
  cases source with
  | obj members =>
    refine (get?_rewriteMembers state count time members field).trans ?_
    rw [if_neg hs, if_neg hu, if_neg hc]
    rfl
  | _ => rfl

end Document

namespace Reconciler

variable {grace : Nat} {state : Aggregate} {now later time : Instant} {record : ModelRecord}
  {c : Correction} {id : ModelId} {source : Json}

/-- A record with the state, the count and the time of a correction. -/
def corrected (c : Correction) (time : Instant) (record : ModelRecord) : ModelRecord :=
  { record with
    state := c.toState, current := c.toCount, updated := some (.ofMillis time.millis) }

/-- A reconciler agrees with itself at another time. -/
theorem agree_at (grace : Nat) (state : Aggregate) (now later : Instant) :
    Agree ⟨grace, state, now⟩ ⟨grace, state, later⟩ :=
  ⟨rfl, fun _ => rfl, fun _ => rfl⟩

/-- **A record that is left as it is needs later the correction that it needed before.** -/
theorem decide_of_le (hd : (⟨grace, state, now⟩ : Reconciler).decide record = some c)
    (ht : now.nanos ≤ later.nanos) :
    (⟨grace, state, later⟩ : Reconciler).decide record = some c :=
  ((agree_at grace state now later).decide_later ht).2 (.inl hd)

/-- **A corrected record needs no correction**, at any time and with any grace period. -/
theorem decide_corrected (hd : (⟨grace, state, now⟩ : Reconciler).decide record = some c)
    (time later : Instant) (patience : Nat) :
    (⟨patience, state, later⟩ : Reconciler).decide (corrected c time record) = none := by
  obtain ⟨-, ht, -, hc⟩ := decide_eq_some hd
  have hstate : c.toState = (⟨grace, state, now⟩ : Reconciler).expected record.id :=
    eq_expected_of_target ht
  have hcount : c.toCount = state.workerCount record.id := by rw [hc]
  -- what is expected of a model depends neither on the time nor on the grace period
  exact decide_eq_none_of_expected hstate hcount

/-- **A document into which a correction has been merged**: it is the record it was but for the
state, the count and the time, keeps all other members and needs no correction. -/
structure Stored (state : Aggregate) (c : Correction) (time later : Instant) (record : ModelRecord)
    (source written : Json) : Prop where
  merged : MemoryStore.merge source (c.changes time) = .ok written
  read : ModelRecord.ofDocument record.id written = .ok (corrected c time record)
  kept : ∀ field, field ∉ Document.correctedFields → written.get? field = source.get? field
  quiet : ∀ patience, (⟨patience, state, later⟩ : Reconciler).decide (corrected c time record) = none

/-- **A correction is stable.**  As long as it is not stored, its record needs the same one later;
and storing it in the document, with any moment that a clock shows as its time, leaves nothing to
correct. -/
theorem correction_stable (hr : ModelRecord.ofDocument id source = .ok record)
    (hd : (⟨grace, state, now⟩ : Reconciler).decide record = some c)
    (ht : now.nanos ≤ later.nanos) (hdated : time.Dated) :
    (⟨grace, state, later⟩ : Reconciler).decide record = some c ∧
      ∃ written, Stored state c time later record source written := by
  refine ⟨decide_of_le hd ht, Document.rewrite c.toState c.toCount time source, ?_⟩
  exact {
    merged := ModelRecord.merge_changes hr c time
    read := by
      rw [ModelRecord.id_of_ofDocument hr]
      exact ModelRecord.ofDocument_rewrite_of_dated hr c.toState c.toCount hdated
    kept := fun _ hf => Document.get?_rewrite_of_not_mem hf c.toState c.toCount time source
    quiet := decide_corrected hd time later }

/-- A model planned for two nodes that one node holds, with a member that no record has. -/
theorem correction_stable_of_lost_copy :
    let source : Json := .object [(Document.stateField, .str "DEPLOYED"),
      (Document.plannedField, .int 2), (Document.currentField, .int 2),
      (Document.updatedField, .int 500), ("algorithm", .str "KMEANS")]
    let state : Aggregate := .ofReports [(NodeReport.empty ⟨"n"⟩).withDeployed [⟨"m"⟩]]
    let record : ModelRecord := ⟨⟨"m"⟩, none, .deployed, 2, 2, some (.ofMillis 500)⟩
    let c : Correction := ⟨⟨"m"⟩, none, .deployed, .partiallyDeployed, 2, 1⟩
    (⟨1000, state, .ofMillis 9000⟩ : Reconciler).decide record = some c ∧
      ∃ written, Stored state c ⟨5000700000⟩ (.ofMillis 9000) record source written := by
  intro source state record c
  have hr : ModelRecord.ofDocument ⟨"m"⟩ source = .ok record := by decide +kernel
  have hd : (⟨1000, state, ⟨5000700000⟩⟩ : Reconciler).decide record = some c := by decide +kernel
  exact correction_stable hr hd (by decide) (by decide)

end Reconciler

end ModelFleet
