import ModelFleet.Proofs.Model.Rewrite
import ModelFleet.Proofs.Run.Stages
import ModelFleet.Proofs.Store.Updates

/-!
# What corrections do to the documents

A reading finds the documents whose state is reconcilable and that are records (`mem_records`), so
every correction comes from the record under one identifier (`mem_corrections`), and no two are
about the same document.  `get?_updateAll_corrections` says what a collection holds when all
corrections were written.
-/

namespace ModelFleet

namespace Scan

/-- A document is read if its state is one of the reconcilable ones. -/
theorem matches_iff {source : Json} :
    query.matches source = true ↔
      ∃ state ∈ ModelState.reconcilable, source.get? Document.stateField = some state.toJson := by
  unfold Query.matches query
  cases source.get? Document.stateField with
  | none => simp
  | some value =>
    simp only [List.any_map, List.any_eq_true, Function.comp_apply, ModelState.toJson,
      Json.sameAs_str, Option.some.injEq]

/-- The record that a reading finds in a document. -/
def recordIn (id : String) (source : Json) : Option ModelRecord :=
  if query.matches source then recordOf ⟨id, source⟩ else none

/-- The record that a reading finds under an identifier. -/
def found (documents : Collection) (id : String) : Option ModelRecord :=
  (documents.get? id).bind (recordIn id)

theorem recordOf_eq_some_iff {document : StoredDocument} {record : ModelRecord} :
    recordOf document = some record ↔
      ModelRecord.ofDocument ⟨document.id⟩ document.source = .ok record := by
  unfold recordOf
  cases ModelRecord.ofDocument ⟨document.id⟩ document.source <;> simp [Except.toOption]

theorem recordIn_eq_some_iff {id : String} {source : Json} {record : ModelRecord} :
    recordIn id source = some record ↔
      query.matches source = true ∧ ModelRecord.ofDocument ⟨id⟩ source = .ok record := by
  unfold recordIn
  split
  · next h => simp [h, recordOf_eq_some_iff]
  · next h => simp [h]

/-- A record that is read has a reconcilable state. -/
theorem isReconcilable_of_matches {id : ModelId} {source : Json} {record : ModelRecord}
    (hq : query.matches source = true) (h : ModelRecord.ofDocument id source = .ok record) :
    record.state.isReconcilable = true := by
  obtain ⟨state, hs, hg⟩ := matches_iff.1 hq
  cases source with
  | obj members =>
    obtain ⟨_, _, hr⟩ := ModelRecord.reads_of_ofDocument h
    have hp : Json.present? Document.stateField members = some state.toJson := by
      rw [Json.present?, show Entries.get? Document.stateField members = some state.toJson from hg]
      rfl
    have hread := hr.state
    rw [Document.readState, hp] at hread
    simp only [Document.ofJson_toJson] at hread
    obtain rfl : state = record.state := by
      cases hread
      rfl
    exact decide_eq_true hs
  | _ => cases h

theorem id_of_recordIn {id : String} {source : Json} {record : ModelRecord}
    (h : recordIn id source = some record) : record.id = ⟨id⟩ :=
  ModelRecord.id_of_ofDocument (recordIn_eq_some_iff.1 h).2

theorem found_eq_some_iff {documents : Collection} {id : String} {record : ModelRecord} :
    found documents id = some record ↔
      ∃ source, documents.get? id = some source ∧ recordIn id source = some record :=
  Option.bind_eq_some_iff

/-- **What a reading of a collection finds.** -/
theorem mem_records {documents : Collection} {record : ModelRecord} :
    record ∈ records (MemoryStore.matchesAfter documents query none) ↔
      ∃ id, found documents id = some record := by
  simp only [records, List.mem_filterMap, MemoryStore.mem_matchesAfter, recordOf_eq_some_iff,
    found_eq_some_iff, recordIn_eq_some_iff]
  constructor
  · rintro ⟨⟨id, source⟩, ⟨hs, -, hq⟩, hr⟩
    exact ⟨id, source, hs, hq, hr⟩
  · rintro ⟨id, source, hs, hq, hr⟩
    exact ⟨⟨id, source⟩, ⟨hs, rfl, hq⟩, hr⟩

/-- Records stand in the order of their identifiers if their documents do. -/
theorem records_pairwise {documents : List StoredDocument}
    (h : documents.Pairwise fun a b => a.id < b.id) :
    (records documents).Pairwise fun a b => a.id.text < b.id.text := by
  refine List.Pairwise.filterMap _ ?_ h
  intro a b hab record hr record' hr'
  rw [ModelRecord.id_of_ofDocument (recordOf_eq_some_iff.1 hr),
    ModelRecord.id_of_ofDocument (recordOf_eq_some_iff.1 hr')]
  exact hab

end Scan

namespace Reconciler

variable {r : Reconciler}

theorem decide_eq_some {record : ModelRecord} {c : Correction} (h : r.decide record = some c) :
    record.state.isReconcilable = true ∧ r.target record = some c.toState ∧
      ¬ (record.state = c.toState ∧ record.current = r.state.workerCount record.id) ∧
      c = ⟨record.id, record.tenant, record.state, c.toState, record.current,
        r.state.workerCount record.id⟩ := by
  unfold decide at h
  split at h
  · next hr =>
    split at h
    · cases h
    · next toState ht =>
      simp only at h
      split at h
      · cases h
      · next hne =>
        cases h
        exact ⟨hr, ht, hne, rfl⟩
  · cases h

theorem withinGrace_of_decide {record : ModelRecord} {c : Correction}
    (h : r.decide record = some c) :
    r.state.isDeploying record.id = true ∨ r.withinGrace record = false := by
  obtain ⟨-, ht, -⟩ := decide_eq_some h
  by_cases hd : r.state.isDeploying record.id = true
  · exact .inl hd
  · right
    cases hg : r.withinGrace record with
    | false => rfl
    | true =>
      unfold target at ht
      simp only at ht
      rw [if_neg hd, if_pos hg] at ht
      cases ht

/-- The correction of the record under an identifier. -/
def correction (r : Reconciler) (id : String) (source : Json) : Option Correction :=
  (Scan.recordIn id source).bind r.decide

theorem mem_corrections {documents : Collection} {c : Correction} :
    c ∈ r.corrections documents ↔
      ∃ id source, documents.get? id = some source ∧ r.correction id source = some c := by
  simp only [corrections, List.mem_filterMap, Scan.mem_records, Scan.found_eq_some_iff, correction,
    Option.bind_eq_some_iff]
  constructor
  · rintro ⟨record, ⟨id, source, hs, hr⟩, hd⟩
    exact ⟨id, source, hs, record, hr, hd⟩
  · rintro ⟨id, source, hs, record, hr, hd⟩
    exact ⟨record, ⟨id, source, hs, hr⟩, hd⟩

theorem correction_eq_some {id : String} {source : Json} {c : Correction}
    (h : r.correction id source = some c) :
    ∃ record, Scan.recordIn id source = some record ∧ r.decide record = some c ∧
      c.model = ⟨id⟩ ∧ c.tenant = record.tenant := by
  obtain ⟨record, hr, hd⟩ := Option.bind_eq_some_iff.1 h
  obtain ⟨-, -, -, hc⟩ := decide_eq_some hd
  refine ⟨record, hr, hd, ?_, ?_⟩
  · rw [hc]
    exact Scan.id_of_recordIn hr
  · rw [hc]

/-- The correction of a document is the only one about it. -/
theorem correction_of_mem {documents : Collection} {c : Correction}
    (h : c ∈ r.corrections documents) {id : String} (hc : c.model.text = id) :
    ∃ source, documents.get? id = some source ∧ r.correction id source = some c := by
  obtain ⟨id', source, hs, hd⟩ := mem_corrections.1 h
  obtain ⟨-, -, -, hm, -⟩ := correction_eq_some hd
  obtain rfl : id' = id := by
    rw [← hc, hm]
  exact ⟨source, hs, hd⟩

/-- Corrections stand in the order of their models. -/
theorem corrections_sorted (r : Reconciler) (documents : Collection) :
    (r.corrections documents).Pairwise fun a b => a.model.text < b.model.text := by
  refine List.Pairwise.filterMap _ ?_
    (Scan.records_pairwise (MemoryStore.matchesAfter_sorted documents Scan.query none))
  intro a b hab c hc c' hc'
  obtain ⟨-, -, -, he⟩ := decide_eq_some hc
  obtain ⟨-, -, -, he'⟩ := decide_eq_some hc'
  rw [he, he']
  exact hab

/-! ### When they are written -/

/-- What becomes of a document when its correction is written. -/
def amend (r : Reconciler) (time : Instant) (id : String) (source : Json) : Json :=
  match r.correction id source with
  | none => source
  | some c => Document.rewrite c.toState c.toCount time source

theorem items_nodup (r : Reconciler) (documents : Collection) (time : Instant) :
    (((r.corrections documents).map (Write.itemOf time)).map (·.id)).Nodup := by
  rw [List.map_map]
  refine List.pairwise_map.2 ((r.corrections_sorted documents).imp ?_)
  intro a b hab he
  have hid : a.model.text = b.model.text := he
  rw [hid] at hab
  exact String.lt_irrefl _ hab

/-- **What a collection holds when all corrections were written.** -/
theorem get?_updateAll_corrections (r : Reconciler) (collection : String) (documents : Collection)
    (time : Instant) (id : String) :
    (MemoryStore.updateAll collection documents
        ((r.corrections documents).map (Write.itemOf time))).1.get? id =
      (documents.get? id).map (r.amend time id) := by
  by_cases hmem : ∃ c ∈ r.corrections documents, c.model.text = id
  · obtain ⟨c, hc, hid⟩ := hmem
    obtain ⟨source, hs, hd⟩ := correction_of_mem hc hid
    obtain ⟨record, hr, -, -, ht⟩ := correction_eq_some hd
    have hdoc := (Scan.recordIn_eq_some_iff.1 hr).2
    have hitem : Write.itemOf time c ∈ (r.corrections documents).map (Write.itemOf time) :=
      List.mem_map_of_mem hc
    have hagrees : MemoryStore.tenantAgrees source c.tenant = true := by
      rw [ht]
      exact ModelRecord.tenantAgrees_of_ofDocument hdoc
    have hwritten := MemoryStore.get?_updateAll_of_mem collection
      (items_nodup r documents time) hitem (by rw [← hs, ← hid]; rfl) hagrees
      (ModelRecord.merge_changes hdoc c time)
    rw [hs, Option.map_some, amend, hd, ← hid]
    exact hwritten
  · rw [MemoryStore.get?_updateAll_of_not_mem]
    · cases hs : documents.get? id with
      | none => rfl
      | some source =>
        have hd : r.correction id source = none := by
          rw [Option.eq_none_iff_forall_ne_some]
          intro c hd
          obtain ⟨-, -, -, hm, -⟩ := correction_eq_some hd
          exact hmem ⟨c, mem_corrections.2 ⟨id, source, hs, hd⟩, by rw [hm]⟩
        rw [Option.map_some, amend, hd]
    · rw [List.map_map, List.mem_map]
      rintro ⟨c, hc, hid⟩
      exact hmem ⟨c, hc, hid⟩

/-- Where there are no corrections, no document is amended. -/
theorem map_amend_of_nil {documents : Collection} (h : r.corrections documents = [])
    (time : Instant) (id : String) :
    (documents.get? id).map (r.amend time id) = documents.get? id := by
  rw [← r.get?_updateAll_corrections "" documents time id, h]
  rfl

end Reconciler

namespace Cycle

open Outside

variable {γ : Type} {out : Outside γ} {collection : String} {documents : Collection}
  {time : Instant} {s s' : State γ} {r : Reconciler} {bulk : Option BulkOutcome}

/-- The bulk request of a cycle was refused as a whole. -/
def Refused (bulk : Option BulkOutcome) : Prop := ∃ outcome ∈ bulk, outcome.requestError.isSome

/-- **At the end of a cycle either its bulk request was refused and no document has changed, or each
document is amended.** -/
theorem Ending.stored
    (h : Ending out collection documents time s s' (r.corrections documents) bulk)
    (hs : s.store.collections.get? collection = some documents) :
    ∃ documents', s'.store.collections.get? collection = some documents' ∧
      (Refused bulk ∧ (∃ n q e, out.fate n q = .failed e) ∧ documents' = documents ∨
        ¬ Refused bulk ∧ ∀ id, documents'.get? id = (documents.get? id).map (r.amend time id)) := by
  generalize hc : r.corrections documents = corrections at h
  cases h with
  | idle hu =>
    refine ⟨documents, hu.documents.trans hs, .inr ⟨?_, fun id => ?_⟩⟩
    · rintro ⟨outcome, ho, -⟩
      cases ho
    · exact (Reconciler.map_amend_of_nil hc time id).symm
  | refused hne hf hd => exact ⟨documents, hd, .inl ⟨⟨_, rfl, rfl⟩, ⟨_, _, _, hf⟩, rfl⟩⟩
  | written hne hu hd =>
    refine ⟨_, hd, .inr ⟨?_, fun id => ?_⟩⟩
    · rintro ⟨outcome, ho, he⟩
      cases ho
      cases he
    · rw [← r.get?_updateAll_corrections collection documents time id, hc, hu]

end Cycle

end ModelFleet
