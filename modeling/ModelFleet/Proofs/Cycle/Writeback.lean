import ModelFleet.Proofs.Cycle.Response
import ModelFleet.Proofs.Model.Rewrite
import ModelFleet.Proofs.Run.Outside
import ModelFleet.Proofs.Store.Updates

/-!
# Writing corrections to a store in memory

A store in memory answers each correction for itself.  `Write.refusal` says when it refuses one and
why, by the document that it holds for the model; `patch_cases` shows that there are no other
reasons.  When no two corrections are about the same model,

* `reports_bulkUpdate`: exactly the refused ones are reported, in their order, with their reasons;
* `writesBack_bulkUpdate`: the documents of the others hold the new state, count and time beside
  what they held before, and nothing else in the store changes.

`written_back` says this of the whole job, which asks for one bulk update, or for nothing.
-/

namespace ModelFleet

open Outside

namespace Write

/-! ## Refusals -/

/-- Why a correction is refused, if it is, by the document that is there for its model: there is
none, or it belongs to another tenant than the one for which the correction is, or it is no
object. -/
def refusal (collection : String) (c : Correction) : Option Json → Option StoreError
  | none => some (.noDocument collection c.model.text)
  | some (.obj members) =>
    if ∀ t ∈ c.tenant, Entries.get? Document.tenantField members = some (.str t.text) then none
    else some (.noDocument collection c.model.text)
  | some _ =>
    some (if c.tenant = none then .invalidData "partial update requires object documents"
      else .noDocument collection c.model.text)

variable {collection : String} {c : Correction}

theorem tenantAgrees_obj_iff {members : List (String × Json)} {tenant : Option TenantId} :
    MemoryStore.tenantAgrees (.obj members) tenant = true ↔
      ∀ t ∈ tenant, Entries.get? Document.tenantField members = some (.str t.text) := by
  cases tenant with
  | none => simp [MemoryStore.tenantAgrees]
  | some t =>
    simp only [MemoryStore.tenantAgrees, Json.get?, beq_iff_eq, Option.mem_some_iff, forall_eq']
    cases Entries.get? Document.tenantField members with
    | none => simp
    | some value => cases value <;> simp [Json.text?]

/-- **A correction is refused, or it puts its members into an object.** -/
theorem patch_cases (collection : String) (c : Correction) (time : Instant) (found : Option Json) :
    (∃ e, refusal collection c found = some e ∧
      MemoryStore.patch collection (itemOf time c) found = .error e) ∨
    (refusal collection c found = none ∧ ∃ members, found = some (.obj members) ∧
      MemoryStore.patch collection (itemOf time c) found =
        .ok (.obj (Document.rewriteMembers c.toState c.toCount time members))) := by
  cases found with
  | none => exact .inl ⟨_, rfl, rfl⟩
  | some source =>
    cases source with
    | obj members =>
      rw [refusal]
      by_cases ht : ∀ t ∈ c.tenant, Entries.get? Document.tenantField members = some (.str t.text)
      · rw [if_pos ht, MemoryStore.patch_of_agrees (tenantAgrees_obj_iff.2 ht)]
        exact .inr ⟨rfl, members, rfl, ModelRecord.merge_changes_of_obj members c time⟩
      · rw [if_neg ht, MemoryStore.patch_of_not_agrees]
        · exact .inl ⟨_, rfl, rfl⟩
        · exact Bool.eq_false_iff.2 fun h => ht (tenantAgrees_obj_iff.1 h)
    | _ =>
      -- what is no object has no tenant, and takes no members
      obtain ⟨model, tenant, _⟩ := c
      cases tenant with
      | none => exact .inl ⟨_, rfl, rfl⟩
      | some t => exact .inl ⟨_, rfl, rfl⟩

theorem refusal_itemOf (collection : String) (c : Correction) (time : Instant)
    (found : Option Json) :
    MemoryStore.refusal collection (itemOf time c) found = refusal collection c found := by
  rw [MemoryStore.refusal]
  rcases patch_cases collection c time found with ⟨e, hr, hp⟩ | ⟨hr, members, -, hp⟩
  · rw [hr, hp]
  · rw [hr, hp]

/-! ## What is reported -/

variable {corrections : List Correction}

theorem nodup_itemOf (hn : (corrections.map (·.model)).Nodup) (time : Instant) :
    ((corrections.map (itemOf time)).map (·.id)).Nodup := by
  have htext : Function.Injective (Name.text : ModelId → String) := by
    rintro ⟨a⟩ ⟨b⟩ rfl
    rfl
  have htexts := hn.map htext
  rw [List.map_map] at htexts ⊢
  exact htexts

variable {store : MemoryStore} {documents : Collection}

/-- **The store refuses exactly the refused corrections.** -/
theorem reports_bulkUpdate (hn : (corrections.map (·.model)).Nodup)
    (hc : store.collections.get? collection = some documents) (time : Instant) :
    let reply := (store.bulkUpdate collection (corrections.map (itemOf time))).2
    Reports (fun c => refusal collection c (store.get? collection c.model.text)) corrections
      (outcome corrections reply) (events corrections reply) := by
  intro reply
  have hids := nodup_itemOf hn time
  let answer (item : BulkItem) : BulkResult :=
    ⟨item.id, MemoryStore.refusal collection item (documents.get? item.id)⟩
  have hreply : reply = .ok ⟨(corrections.map (itemOf time)).map answer⟩ := by
    show (store.bulkUpdate collection _).2 = _
    rw [MemoryStore.bulkUpdate_of_some hc, MemoryStore.results_updateAll_eq collection hids]
  rw [hreply]
  refine (reports_outcome corrections _).congr fun c hm => ?_
  have hitem : answer (itemOf time c) ∈ (corrections.map (itemOf time)).map answer :=
    List.mem_map_of_mem (List.mem_map_of_mem hm)
  rw [MemoryStore.get?_of_some hc, ← refusal_itemOf collection c time]
  refine errorOf_of_mem ?_ hitem rfl
  rw [List.map_map]
  exact hids

/-! ## What is stored -/

/-- **What a store becomes when corrections are written to one of its collections.** -/
structure WritesBack (collection : String) (corrections : List Correction) (time : Instant)
    (before after : MemoryStore) : Prop where
  /-- A document has a new state, count and time, and all else that it had before. -/
  written : ∀ c ∈ corrections,
    refusal collection c (before.get? collection c.model.text) = none →
    ∃ members, before.get? collection c.model.text = some (.obj members) ∧
      after.get? collection c.model.text =
        some (.obj (Document.rewriteMembers c.toState c.toCount time members))
  refused : ∀ c ∈ corrections,
    refusal collection c (before.get? collection c.model.text) ≠ none →
    after.get? collection c.model.text = before.get? collection c.model.text
  unnamed : ∀ id, (∀ c ∈ corrections, c.model.text ≠ id) →
    after.get? collection id = before.get? collection id
  elsewhere : ∀ other, other ≠ collection →
    after.collections.get? other = before.collections.get? other
  /-- No collection is made. -/
  collections : ∀ other, after.hasCollection other = before.hasCollection other

theorem writesBack_bulkUpdate (hn : (corrections.map (·.model)).Nodup)
    (hc : store.collections.get? collection = some documents) (time : Instant) :
    WritesBack collection corrections time store
      (store.bulkUpdate collection (corrections.map (itemOf time))).1 := by
  have hids := nodup_itemOf hn time
  have hafter : store.bulkUpdate collection (corrections.map (itemOf time)) = _ :=
    MemoryStore.bulkUpdate_of_some hc
  have hfound (c : Correction) (hm : c ∈ corrections) :=
    (MemoryStore.get?_bulkUpdate_of_some hc c.model.text).trans
      (MemoryStore.get?_updateAll collection hids (List.mem_map_of_mem hm))
  refine ⟨fun c hm hr => ?_, fun c hm hr => ?_, fun id hid => ?_, fun other hne => ?_,
    fun other => ?_⟩
  · rw [hfound c hm]
    rw [MemoryStore.get?_of_some hc] at hr ⊢
    rcases patch_cases collection c time (documents.get? c.model.text) with
      ⟨e, he, -⟩ | ⟨-, members, hs, hp⟩
    · rw [hr] at he
      cases he
    · exact ⟨members, hs, by rw [show (itemOf time c).id = c.model.text from rfl, hp]⟩
  · rw [hfound c hm]
    rw [MemoryStore.get?_of_some hc] at hr ⊢
    rcases patch_cases collection c time (documents.get? c.model.text) with
      ⟨e, -, hp⟩ | ⟨hnone, -⟩
    · rw [show (itemOf time c).id = c.model.text from rfl, hp]
    · exact absurd hnone hr
  · rw [MemoryStore.get?_bulkUpdate_of_some hc, MemoryStore.get?_of_some hc]
    apply MemoryStore.get?_updateAll_of_not_mem
    rw [List.map_map, List.mem_map]
    rintro ⟨c, hm, he⟩
    exact hid c hm he
  · exact MemoryStore.collections_bulkUpdate_of_ne store _ hne
  · rw [hafter, MemoryStore.hasCollection, MemoryStore.hasCollection, SortedMap.contains,
      SortedMap.contains, MemoryStore.setDocuments, SortedMap.get?_insert]
    split
    · next he => rw [he, hc]; rfl
    · rfl

theorem WritesBack.isSome_get? {time : Instant} {before after : MemoryStore}
    (h : WritesBack collection corrections time before after) (other id : String) :
    (after.get? other id).isSome = (before.get? other id).isSome := by
  by_cases ho : other = collection
  · subst ho
    by_cases hid : ∃ c ∈ corrections, c.model.text = id
    · obtain ⟨c, hm, rfl⟩ := hid
      by_cases hr : refusal other c (before.get? other c.model.text) = none
      · obtain ⟨members, hb, ha⟩ := h.written c hm hr
        rw [hb, ha]
        rfl
      · rw [h.refused c hm hr]
    · rw [h.unnamed id fun c hm he => hid ⟨c, hm, he⟩]
  · rw [MemoryStore.get?, MemoryStore.get?, MemoryStore.documents, MemoryStore.documents,
      h.elsewhere other ho]

/-! ## The whole job -/

section Job

variable {γ : Type} {out : Outside γ}

theorem run_start (hne : corrections ≠ []) (d : Daemon) :
    (start corrections).run d = (.wait ⟨corrections, d.clock⟩, d) := by
  have hempty : corrections.isEmpty = false := by simpa using hne
  unfold start
  rw [hempty]
  rfl

theorem leads_of_start (hf : ∀ n q, out.fate n q = .served)
    (ha : ∀ n store, out.meanwhile n store = store) (collection : String) (cycle : CycleId)
    (hne : corrections ≠ []) (s : State γ) (d : Daemon) :
    let items := corrections.map (itemOf d.clock)
    let reply := (s.store.bulkUpdate collection items).2
    Leads out (job collection cycle) (.after ((start corrections).run d) s)
      (.ended (outcome corrections reply)
        { s.note (.update collection items) with store := (s.store.bulkUpdate collection items).1 }
        (({ d with clock := out.time s.asked.length } : Daemon).announce cycle
          (events corrections reply))) := by
  intro items reply
  have hanswer := answer_update ⟨fun n q _ => hf n q, ha⟩ collection items s
  rw [hf] at hanswer
  rw [run_start hne]
  exact .next hanswer (run_resume collection cycle ⟨corrections, d.clock⟩ reply _) (.refl _)

/-- **Writing corrections to a store in memory** that serves everything, no two of them for the same
model: each document is amended or its correction is refused, and all else stays as it is. -/
theorem written_back (hf : ∀ n q, out.fate n q = .served)
    (ha : ∀ n store, out.meanwhile n store = store) (collection : String) (cycle : CycleId)
    {corrections : List Correction} (hn : (corrections.map (·.model)).Nodup) (s : State γ)
    (d : Daemon) :
    ∃ outcome events s' d', Leads out (job collection cycle)
        (.after ((start corrections).run d) s) (.ended outcome s' d') ∧
      (corrections = [] → outcome = .empty ∧ s' = s ∧ d' = d) ∧
      (corrections ≠ [] →
        s'.asked = s.asked ++ [.update collection (corrections.map (itemOf d.clock))] ∧
        d' = ({ d with clock := out.time s.asked.length } : Daemon).announce cycle events ∧
        (s.store.hasCollection collection = false →
          outcome = ⟨corrections.length, 0, [], some (.noCollection collection)⟩ ∧
          events = [.bulkWriteFailed none (StoreError.noCollection collection).message] ∧
          s'.store = s.store) ∧
        (s.store.hasCollection collection = true →
          Reports (fun c => refusal collection c (s.store.get? collection c.model.text))
            corrections outcome events ∧
          WritesBack collection corrections d.clock s.store s'.store ∧
          ∀ other id, (s'.store.get? other id).isSome = (s.store.get? other id).isSome)) := by
  by_cases hne : corrections = []
  · subst hne
    exact ⟨.empty, [], s, d, .refl _, fun _ => ⟨rfl, rfl, rfl⟩, fun h => absurd rfl h⟩
  · refine ⟨_, _, _, _, leads_of_start hf ha collection cycle hne s d, fun h => absurd h hne,
      fun _ => ⟨rfl, rfl, fun hc => ?_, fun hc => ?_⟩⟩
    · have hnone : s.store.collections.get? collection = none := by
        simpa [MemoryStore.hasCollection, SortedMap.contains] using hc
      rw [MemoryStore.bulkUpdate_of_none hnone]
      exact ⟨rfl, rfl, rfl⟩
    · obtain ⟨documents, hdocs⟩ := Option.isSome_iff_exists.1 hc
      have hback := writesBack_bulkUpdate hn hdocs d.clock
      exact ⟨reports_bulkUpdate hn hdocs d.clock, hback, hback.isSome_get?⟩

/-- One document of another tenant, one that takes its correction, none at all, and one that is no
object. -/
theorem written_back_to_one_of_four :
    let out : Outside Unit := ⟨fun _ => .ok [], fun _ cluster node =>
      (cluster, .error (.unreachable node "gone")), fun _ _ => .served, fun _ store => store,
      fun _ => .ofMillis 7000⟩
    let source (tenant : String) : Json := .object [(Document.stateField, .str "DEPLOYED"),
      (Document.tenantField, .str tenant), ("name", .str "bert")]
    let store := (((∅ : MemoryStore).put "models" "a" (source "t2")).put "models" "b"
      (source "t1")).put "models" "d" (.str "DEPLOYED")
    let correction (id : String) (tenant : Option TenantId) : Correction :=
      ⟨⟨id⟩, tenant, .deployed, .partiallyDeployed, 2, 1⟩
    let corrections := [correction "d" none, correction "b" (some ⟨"t1"⟩), correction "c" none,
      correction "a" (some ⟨"t1"⟩)]
    ((∀ n q, out.fate n q = .served) ∧ (∀ n store, out.meanwhile n store = store) ∧
      (corrections.map (·.model)).Nodup) ∧
    ∃ outcome, ∃ events : List SyncEvent, ∃ s' d', Leads out (job "models" (.ofNat 1))
        (.after ((start corrections).run (.fresh (.ofMillis 6000) default default))
          (⟨store, (), []⟩ : State Unit)) (.ended outcome s' d') ∧
      outcome = ⟨4, 1, [⟨"d"⟩, ⟨"c"⟩, ⟨"a"⟩], none⟩ ∧ events.length = 4 ∧
      s'.store.get? "models" "b" = some (.object [(Document.stateField, .str "PARTIALLY_DEPLOYED"),
        (Document.tenantField, .str "t1"), ("name", .str "bert"), (Document.currentField, .int 1),
        (Document.updatedField, .int 6000)]) ∧
      s'.store.get? "models" "a" = some (source "t2") := by
  intro out source store correction corrections
  have hnodup : (corrections.map (·.model)).Nodup := by decide
  refine ⟨⟨fun _ _ => rfl, fun _ _ => rfl, hnodup⟩, ?_⟩
  obtain ⟨outcome, events, s', d', hl, -, hsome⟩ :=
    @written_back Unit out (fun _ _ => rfl) (fun _ _ => rfl) "models" (.ofNat 1) corrections hnodup
      ⟨store, (), []⟩ (.fresh (.ofMillis 6000) default default)
  obtain ⟨-, -, -, hthere⟩ := hsome (List.cons_ne_nil _ _)
  obtain ⟨hr, hback, -⟩ := hthere (by decide +kernel)
  refine ⟨outcome, events, s', d', hl, ?_, ?_, ?_, ?_⟩
  · obtain ⟨attempted, succeeded, failed, requestError⟩ := outcome
    obtain ⟨rfl, rfl, rfl, rfl, -⟩ := hr
    decide +kernel
  · rw [hr.events, List.length_map]
    rfl
  · obtain ⟨members, hb, ha⟩ := hback.written (correction "b" (some ⟨"t1"⟩)) (by decide)
      (by decide +kernel)
    have hsource : store.get? "models" "b" = some (source "t1") := by decide +kernel
    obtain rfl := Json.obj.inj (Option.some.inj (hb.symm.trans hsource))
    exact ha.trans (by decide +kernel)
  · exact hback.refused (correction "a" (some ⟨"t1"⟩)) (by decide) (by decide +kernel)

end Job

end Write

end ModelFleet
