import ModelFleet.Store.Memory

/-!
# Bulk updates

The items of a bulk update are carried out one after another, and each of them looks at its own
document only (`updateOne_eq`).  A document that none of them is about stays as it is
(`get?_updateAll_of_not_mem`), and where no two items are about the same document, each finds its
document as it was before the update.  So what is stored (`get?_updateAll`) and what is answered
(`results_updateAll_eq`) is said item by item, whether the others succeed or fail.
-/

namespace ModelFleet.MemoryStore

variable {collection : String}

theorem updateAll_cons (documents : Collection) (item : BulkItem) (rest : List BulkItem) :
    (updateAll collection documents (item :: rest)).1 =
      (updateAll collection ((updateOne collection documents item).toOption.getD documents)
        rest).1 := by
  rw [updateAll]
  cases updateOne collection documents item <;> rfl

/-! ### One item -/

/-- What takes the place of a document that an item is about, or why the item is refused. -/
def patch (collection : String) (item : BulkItem) : Option Json → Except StoreError Json
  | none => .error (.noDocument collection item.id)
  | some source =>
    if tenantAgrees source item.tenant then merge source item.changes
    else .error (.noDocument collection item.id)

theorem patch_of_agrees {item : BulkItem} {source : Json}
    (h : tenantAgrees source item.tenant = true) :
    patch collection item (some source) = merge source item.changes := if_pos h

theorem patch_of_not_agrees {item : BulkItem} {source : Json}
    (h : tenantAgrees source item.tenant = false) :
    patch collection item (some source) = .error (.noDocument collection item.id) :=
  if_neg (by rw [h]; exact Bool.false_ne_true)

/-- Why an item is refused, if it is. -/
def refusal (collection : String) (item : BulkItem) (found : Option Json) : Option StoreError :=
  match patch collection item found with
  | .ok _ => none
  | .error e => some e

theorem updateOne_eq (documents : Collection) (item : BulkItem) :
    updateOne collection documents item =
      (patch collection item (documents.get? item.id)).map (documents.insert item.id) := by
  unfold updateOne patch
  cases documents.get? item.id with
  | none => rfl
  | some source =>
    simp only
    split <;> rfl

/-- The update of one document touches no other one. -/
theorem get?_update_of_ne (documents : Collection) {item : BulkItem} {id : String}
    (hne : id ≠ item.id) :
    ((updateOne collection documents item).toOption.getD documents).get? id =
      documents.get? id := by
  rw [updateOne_eq]
  cases patch collection item (documents.get? item.id) with
  | error e => rfl
  | ok merged => exact (SortedMap.get?_insert ..).trans (if_neg hne)

theorem get?_update_self (documents : Collection) (item : BulkItem) :
    ((updateOne collection documents item).toOption.getD documents).get? item.id =
      match patch collection item (documents.get? item.id) with
      | .ok merged => some merged
      | .error _ => documents.get? item.id := by
  rw [updateOne_eq]
  cases patch collection item (documents.get? item.id) with
  | error e => rfl
  | ok merged => exact SortedMap.get?_insert_self ..

theorem results_cons (documents : Collection) (item : BulkItem) (rest : List BulkItem) :
    (updateAll collection documents (item :: rest)).2 =
      ⟨item.id, refusal collection item (documents.get? item.id)⟩ ::
        (updateAll collection ((updateOne collection documents item).toOption.getD documents)
          rest).2 := by
  rw [updateAll, updateOne_eq, refusal]
  cases patch collection item (documents.get? item.id) <;> rfl

/-! ### All items -/

theorem get?_updateAll_of_not_mem {items : List BulkItem} {documents : Collection} {id : String}
    (h : id ∉ items.map (·.id)) :
    (updateAll collection documents items).1.get? id = documents.get? id := by
  induction items generalizing documents with
  | nil => rfl
  | cons item rest ih =>
    rw [List.map_cons, List.mem_cons, not_or] at h
    rw [updateAll_cons, ih h.2, get?_update_of_ne documents h.1]

/-- **What is stored where an item is the only one about its document.** -/
theorem get?_updateAll (collection : String) {items : List BulkItem} {documents : Collection}
    {item : BulkItem} (hn : (items.map (·.id)).Nodup) (hmem : item ∈ items) :
    (updateAll collection documents items).1.get? item.id =
      match patch collection item (documents.get? item.id) with
      | .ok merged => some merged
      | .error _ => documents.get? item.id := by
  induction items generalizing documents with
  | nil => cases hmem
  | cons head rest ih =>
    rw [List.map_cons, List.nodup_cons] at hn
    rw [updateAll_cons]
    rcases List.mem_cons.1 hmem with rfl | hrest
    · rw [get?_updateAll_of_not_mem hn.1, get?_update_self]
    · have hne : item.id ≠ head.id := fun he => hn.1 (he ▸ List.mem_map_of_mem hrest)
      rw [ih hn.2 hrest, get?_update_of_ne documents hne]

/-- **What is answered about items no two of which are about the same document.** -/
theorem results_updateAll_eq (collection : String) {items : List BulkItem} {documents : Collection}
    (hn : (items.map (·.id)).Nodup) :
    (updateAll collection documents items).2 =
      items.map fun item => ⟨item.id, refusal collection item (documents.get? item.id)⟩ := by
  induction items generalizing documents with
  | nil => rfl
  | cons head rest ih =>
    rw [List.map_cons, List.nodup_cons] at hn
    rw [results_cons, ih hn.2, List.map_cons]
    refine congrArg _ (List.map_congr_left fun item hi => ?_)
    have hne : item.id ≠ head.id := fun he => hn.1 (he ▸ List.mem_map_of_mem hi)
    rw [get?_update_of_ne documents hne]

/-! ### Items that succeed -/

/-- **An item that is the only one about its document puts its members there.** -/
theorem get?_updateAll_of_mem (collection : String) {items : List BulkItem}
    {documents : Collection} {item : BulkItem} {source merged : Json}
    (hn : (items.map (·.id)).Nodup) (hmem : item ∈ items)
    (hs : documents.get? item.id = some source) (ht : tenantAgrees source item.tenant = true)
    (hm : merge source item.changes = .ok merged) :
    (updateAll collection documents items).1.get? item.id = some merged := by
  rw [get?_updateAll collection hn hmem, hs, patch_of_agrees ht, hm]

/-- **All items succeed** that are about different documents, each of which is there, belongs to the
tenant and takes the changes. -/
theorem results_updateAll (collection : String) {items : List BulkItem} {documents : Collection}
    (hn : (items.map (·.id)).Nodup)
    (h : ∀ item ∈ items, ∃ source merged, documents.get? item.id = some source ∧
      tenantAgrees source item.tenant = true ∧ merge source item.changes = .ok merged) :
    (updateAll collection documents items).2 = items.map fun item => ⟨item.id, none⟩ := by
  rw [results_updateAll_eq collection hn]
  refine List.map_congr_left fun item hi => ?_
  obtain ⟨source, merged, hs, ht, hm⟩ := h item hi
  rw [hs, refusal, patch_of_agrees ht, hm]

/-! ### A store -/

variable {store : MemoryStore} {documents : Collection} {items : List BulkItem}

theorem get?_of_some (hc : store.collections.get? collection = some documents) (id : String) :
    store.get? collection id = documents.get? id := by
  rw [get?, MemoryStore.documents, hc]
  rfl

theorem bulkUpdate_of_some (hc : store.collections.get? collection = some documents) :
    store.bulkUpdate collection items =
      (store.setDocuments collection (updateAll collection documents items).1,
        .ok ⟨(updateAll collection documents items).2⟩) := by
  rw [bulkUpdate, hc]

theorem bulkUpdate_of_none (hc : store.collections.get? collection = none) :
    store.bulkUpdate collection items = (store, .error (.noCollection collection)) := by
  rw [bulkUpdate, hc]

/-- Other collections are left alone. -/
theorem collections_bulkUpdate_of_ne (store : MemoryStore) (items : List BulkItem) {other : String}
    (hne : other ≠ collection) :
    (store.bulkUpdate collection items).1.collections.get? other =
      store.collections.get? other := by
  cases hc : store.collections.get? collection with
  | none => rw [bulkUpdate_of_none hc]
  | some documents =>
    rw [bulkUpdate_of_some hc, setDocuments]
    exact (SortedMap.get?_insert ..).trans (if_neg hne)

theorem get?_bulkUpdate_of_some (hc : store.collections.get? collection = some documents)
    (id : String) :
    (store.bulkUpdate collection items).1.get? collection id =
      (updateAll collection documents items).1.get? id := by
  rw [bulkUpdate_of_some hc]
  exact get?_of_some (SortedMap.get?_insert_self ..) id

end ModelFleet.MemoryStore
