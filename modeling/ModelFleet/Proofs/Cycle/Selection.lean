import ModelFleet.Proofs.Cycle.Corrections
import ModelFleet.Proofs.Model.Document

/-!
# What a search selects and what a record says

The state of a document is looked at twice: the search compares it with the names of the
reconcilable states, and the record is read from it.  The record can also be read from a state that
is the key of an object (`ModelState.ofJson_eq_ok_iff`), and such a state no search selects
(`Scan.Enclosed`).  That is all they differ in (`matches_iff_of_ofDocument`): what a search selects
is always reconcilable (`isReconcilable_of_mem_read`), but `{"model_state": {"DEPLOYED": null}}` is
the state of a deployed model that no reading finds (`not_selects_every_reconcilable`).
-/

namespace ModelFleet.Scan

open MemoryStore

/-- The state of a document is an object, where a search looks for a name. -/
def Enclosed (source : Json) : Prop :=
  ∃ members, source.get? Document.stateField = some (.obj members)

/-- **The search and the record agree**, unless the state is an object. -/
theorem matches_iff_of_ofDocument {id : ModelId} {source : Json} {record : ModelRecord}
    (h : ModelRecord.ofDocument id source = .ok record) :
    query.matches source = true ↔ record.state.isReconcilable = true ∧ ¬ Enclosed source := by
  constructor
  · intro hq
    refine ⟨isReconcilable_of_matches hq h, ?_⟩
    rintro ⟨members, hobj⟩
    obtain ⟨state, -, hname⟩ := matches_iff.1 hq
    cases hobj.symm.trans hname
  · rintro ⟨hr, he⟩
    rcases (ModelRecord.founded_of_ofDocument h).state with hname | hobj
    · exact matches_iff.2 ⟨record.state, of_decide_eq_true hr, hname⟩
    · exact absurd ⟨_, hobj⟩ he

/-- What a reading of a collection finds, told by what the documents say. -/
theorem mem_records_iff {documents : Collection} {record : ModelRecord} :
    record ∈ records (matchesAfter documents query none) ↔
      ∃ source, documents.get? record.id.text = some source ∧
        ModelRecord.ofDocument record.id source = .ok record ∧
        record.state.isReconcilable = true ∧ ¬ Enclosed source := by
  simp only [mem_records, found_eq_some_iff, recordIn_eq_some_iff]
  constructor
  · rintro ⟨id, source, hs, hq, hr⟩
    have hid : record.id = ⟨id⟩ := ModelRecord.id_of_ofDocument hr
    rw [hid]
    exact ⟨source, hs, hr, (matches_iff_of_ofDocument hr).1 hq⟩
  · rintro ⟨source, hs, hr, hsel⟩
    exact ⟨record.id.text, source, hs, (matches_iff_of_ofDocument hr).2 hsel, hr⟩

/-- A page holds records with reconcilable states only. -/
theorem isReconcilable_of_mem_read {store : MemoryStore} {collection : String} {page : PageRequest}
    {record : ModelRecord} (h : .ok record ∈ (read (store.search collection query page)).1) :
    record.state.isReconcilable = true := by
  unfold search at h
  split at h
  · cases h
  · obtain ⟨_, hr, ⟨⟩⟩ := List.mem_map.1 h
    obtain ⟨document, hd, hr⟩ := List.mem_filterMap.1 hr
    obtain ⟨-, -, hq⟩ := mem_matchesAfter.1 (List.mem_of_mem_take hd)
    exact isReconcilable_of_matches hq (recordOf_eq_some_iff.1 hr)

/-- **A search selects a record if its state is reconcilable and no object.**  So a reading of the
collection in which it is stored finds it exactly then, and no page of any search brings a record
with another state. -/
theorem selects_reconcilable {id : ModelId} {source : Json} {record : ModelRecord}
    (h : ModelRecord.ofDocument id source = .ok record) :
    (query.matches source = true ↔ record.state.isReconcilable = true ∧ ¬ Enclosed source) ∧
    (∀ documents : Collection, documents.get? id.text = some source →
      (record ∈ records (matchesAfter documents query none) ↔
        record.state.isReconcilable = true ∧ ¬ Enclosed source)) ∧
    ∀ (store : MemoryStore) (collection : String) (page : PageRequest) (found : ModelRecord),
      .ok found ∈ (read (store.search collection query page)).1 →
      found.state.isReconcilable = true := by
  refine ⟨matches_iff_of_ofDocument h, fun documents hs => ?_,
    fun _ _ _ _ hr => isReconcilable_of_mem_read hr⟩
  obtain rfl : record.id = id := ModelRecord.id_of_ofDocument h
  rw [mem_records_iff]
  constructor
  · rintro ⟨source', hs', -, hsel⟩
    obtain rfl := Option.some.inj (hs.symm.trans hs')
    exact hsel
  · intro hsel
    exact ⟨source, hs, h, hsel⟩

/-- A deployed model, stored as a name, and a page that holds it. -/
theorem selects_reconcilable_of_name :
    let source : Json :=
      .obj [("model_state", .str "DEPLOYED"), ("planning_worker_node_count", .int 2)]
    let record : ModelRecord := ⟨⟨"m"⟩, none, .deployed, 2, 0, none⟩
    let store := (∅ : MemoryStore).put "models" "m" source
    (ModelRecord.ofDocument ⟨"m"⟩ source = .ok record ∧ store.get? "models" "m" = some source ∧
      .ok record ∈ (read (store.search "models" query ⟨none, 1⟩)).1) ∧
    (query.matches source = true ↔ record.state.isReconcilable = true ∧ ¬ Enclosed source) ∧
    (record ∈ records (matchesAfter (store.documents "models") query none) ↔
      record.state.isReconcilable = true ∧ ¬ Enclosed source) ∧
    record.state.isReconcilable = true := by
  intro source record store
  have hread : ModelRecord.ofDocument ⟨"m"⟩ source = .ok record := rfl
  have hstored : store.get? "models" "m" = some source := rfl
  have hpage : .ok record ∈ (read (store.search "models" query ⟨none, 1⟩)).1 := by
    have he : (read (store.search "models" query ⟨none, 1⟩)).1 = [.ok record] := rfl
    rw [he]
    exact List.mem_singleton.2 rfl
  obtain ⟨hmatches, hfound, hreads⟩ := selects_reconcilable hread
  exact ⟨⟨hread, hstored, hpage⟩, hmatches, hfound _ hstored, hreads store _ _ record hpage⟩

/-- A record with a reconcilable state that no search selects: its state is an object. -/
theorem not_selects_every_reconcilable :
    ¬ ∀ id source record, ModelRecord.ofDocument id source = .ok record →
      (query.matches source = true ↔ record.state.isReconcilable = true) := by
  intro h
  let source : Json :=
    .obj [("model_state", .obj [("DEPLOYED", .null)]), ("planning_worker_node_count", .int 2)]
  have hread : ModelRecord.ofDocument ⟨"m"⟩ source =
      .ok ⟨⟨"m"⟩, none, .deployed, 2, 0, none⟩ := rfl
  have hleft : query.matches source = false := rfl
  exact Bool.false_ne_true (hleft.symm.trans ((h _ source _ hread).2 (by decide)))

end ModelFleet.Scan
