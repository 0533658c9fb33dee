import ModelFleet.Proofs.Cycle.Currency

/-!
# What cycles may touch

Any number of cycles overlap, and nobody else writes.  `Touches` is what one move may do to a store:
it amends documents of models as corrections do, or it creates the document of the key.  `Keeps` is
what comes of any moves one after the other: no document appears or goes, and of a document of a
model only three members change, and only if it is a record whose state is reconcilable.

A correction is never stale (`Overlap.Current`), so what is written changes the state or the count
of the record as it stands.
-/

namespace ModelFleet

open Outside MemoryStore

/-! ### What corrections make of documents -/

namespace Reconciler

theorem target_cases {r : Reconciler} {record : ModelRecord} {state : ModelState}
    (h : r.target record = some state) :
    state = .deploying ∨ state = .deployFailed ∨ state = .partiallyDeployed := by
  unfold target at h
  simp only at h
  split at h
  · exact .inl (Option.some.inj h).symm
  · split at h
    · cases h
    · split at h
      · exact .inr (.inl (Option.some.inj h).symm)
      · split at h
        · exact .inr (.inr (Option.some.inj h).symm)
        · cases h

/-- **What a collection holds when the first of its corrections were written**: the document that a
correction is about is rewritten, and every other one is as it was. -/
theorem FromFirst.get?_updateAll {r : Reconciler} {documents : Collection}
    {rest : List StoredDocument} {corrections : List Correction}
    (h : r.FromFirst documents rest corrections) (collection : String) (time : Instant)
    (id : String) :
    let after := (updateAll collection documents (corrections.map (Write.itemOf time))).1
    after.get? id = documents.get? id ∨ ∃ source c, documents.get? id = some source ∧
      c ∈ corrections ∧ r.correction id source = some c ∧
      after.get? id = some (Document.rewrite c.toState c.toCount time source) := by
  intro after
  by_cases hmem : ∃ c ∈ corrections, c.model.text = id
  · obtain ⟨c, hc, hid⟩ := hmem
    obtain ⟨source, hs, hd⟩ := correction_of_mem (h.isPrefix.mem hc) hid
    obtain ⟨record, hr, -, -, ht⟩ := correction_eq_some hd
    have hdoc := (Scan.recordIn_eq_some_iff.1 hr).2
    have hnodup : ((corrections.map (Write.itemOf time)).map (·.id)).Nodup := by
      have hall := items_nodup r documents time
      rw [List.map_map] at hall ⊢
      exact hall.sublist (h.isPrefix.sublist.map _)
    have hitem : Write.itemOf time c ∈ corrections.map (Write.itemOf time) := List.mem_map_of_mem hc
    have hagrees : tenantAgrees source c.tenant = true := by
      rw [ht]
      exact ModelRecord.tenantAgrees_of_ofDocument hdoc
    have hfind : documents.get? (Write.itemOf time c).id = some source := by
      rw [← hs, ← hid]
      rfl
    have hwritten := MemoryStore.get?_updateAll_of_mem collection hnodup hitem hfind hagrees
      (ModelRecord.merge_changes hdoc c time)
    refine .inr ⟨source, c, hs, hc, hd, ?_⟩
    rw [← hid]
    exact hwritten
  · refine .inl (MemoryStore.get?_updateAll_of_not_mem ?_)
    rw [List.map_map, List.mem_map]
    rintro ⟨c, hc, hid⟩
    exact hmem ⟨c, hc, hid⟩

end Reconciler

/-- Whether a member of a document is one that corrections write. -/
def Document.IsWritten (field : String) : Prop :=
  field = stateField ∨ field = currentField ∨ field = updatedField

/-- **What a correction makes of the document of a model**, which was a record whose state is
reconcilable. -/
structure Document.Amended (id : String) (source source' : Json) (record record' : ModelRecord) :
    Prop where
  reads : Scan.recordIn id source = some record
  /-- It stays such a record. -/
  readsNow : Scan.recordIn id source' = some record'
  /-- No other member changes. -/
  fields : ∀ field, ¬ IsWritten field → source'.get? field = source.get? field
  tenant : record'.tenant = record.tenant
  planned : record'.planned = record.planned
  /-- A model never becomes deployed. -/
  state : record'.state = .deploying ∨ record'.state = .deployFailed ∨
    record'.state = .partiallyDeployed
  /-- The time changes only with the state or the count. -/
  changes : record'.state ≠ record.state ∨ record'.current ≠ record.current

theorem Reconciler.amended_of_correction {r : Reconciler} {id : String} {source : Json}
    {c : Correction} {time : Instant} (h : r.correction id source = some c) (ht : time.Dated) :
    ∃ record record', Document.Amended id source
      (Document.rewrite c.toState c.toCount time source) record record' := by
  obtain ⟨record, hr, hd, -, -⟩ := correction_eq_some h
  obtain ⟨hq, hdoc⟩ := Scan.recordIn_eq_some_iff.1 hr
  obtain ⟨-, htarget, hne, hc⟩ := decide_eq_some hd
  have hstate := target_cases htarget
  have hcount : c.toCount = r.state.workerCount record.id := by rw [hc]
  let record' : ModelRecord :=
    { record with
      state := c.toState, current := c.toCount, updated := some (.ofMillis time.millis) }
  have hdoc' : ModelRecord.ofDocument ⟨id⟩ (Document.rewrite c.toState c.toCount time source) =
      .ok record' := ModelRecord.ofDocument_rewrite_of_dated hdoc c.toState c.toCount ht
  have hfield : ∀ field, (Document.rewrite c.toState c.toCount time source).get? field =
      if field = Document.stateField then some c.toState.toJson
      else if field = Document.updatedField then some (.int time.millis)
      else if field = Document.currentField then some (.int c.toCount.toNat)
      else source.get? field := by
    intro field
    cases source with
    | obj members => exact Document.get?_rewriteMembers ..
    | _ => cases hdoc
  refine ⟨record, record', ?_⟩
  refine
    { reads := hr, readsNow := Scan.recordIn_eq_some_iff.2 ⟨?_, hdoc'⟩, fields := ?_
      tenant := rfl, planned := rfl, state := hstate, changes := ?_ }
  · refine Scan.matches_iff.2 ⟨c.toState, ?_, (hfield _).trans (if_pos rfl)⟩
    rcases hstate with hs | hs | hs <;> rw [hs] <;> decide
  · intro field hf
    rw [hfield, if_neg fun he => hf (.inl he), if_neg fun he => hf (.inr (.inr he)),
      if_neg fun he => hf (.inr (.inl he))]
  · by_cases hs : c.toState = record.state
    · refine .inr fun hcurrent => hne ⟨hs.symm, ?_⟩
      rw [← hcount]
      exact hcurrent.symm
    · exact .inl hs

/-! ### What becomes of a store -/

/-- **What a document of a model is in the end** that is amended again and again. -/
structure Document.Kept (id : String) (source source' : Json) : Prop where
  /-- A document that is no record, or whose state is not reconcilable, is left alone. -/
  unread : Scan.recordIn id source = none → source' = source
  /-- A record stays one, of the same tenant and with as many nodes planned. -/
  reads : ∀ record, Scan.recordIn id source = some record →
    ∃ record', Scan.recordIn id source' = some record' ∧ record'.tenant = record.tenant ∧
      record'.planned = record.planned ∧ (record'.state = record.state ∨
        record'.state = .deploying ∨ record'.state = .deployFailed ∨
        record'.state = .partiallyDeployed)
  /-- No other member changes. -/
  fields : ∀ field, ¬ IsWritten field → source'.get? field = source.get? field

namespace Document.Kept

variable {id : String} {a b c : Json}

theorem refl (id : String) (source : Json) : Kept id source source where
  unread _ := rfl
  reads record h := ⟨record, h, rfl, rfl, .inl rfl⟩
  fields _ _ := rfl

theorem of_amended {record record' : ModelRecord} (h : Amended id a b record record') :
    Kept id a b where
  unread hn := nomatch hn.symm.trans h.reads
  reads other ho := by
    obtain rfl : record = other := Option.some.inj (h.reads.symm.trans ho)
    exact ⟨record', h.readsNow, h.tenant, h.planned, .inr h.state⟩
  fields := h.fields

theorem trans (h : Kept id a b) (g : Kept id b c) : Kept id a c where
  unread hn := by
    obtain rfl := h.unread hn
    exact g.unread hn
  reads record hr := by
    obtain ⟨middle, hm, hmt, hmp, hms⟩ := h.reads record hr
    obtain ⟨last, hl, hlt, hlp, hls⟩ := g.reads middle hm
    refine ⟨last, hl, hlt.trans hmt, hlp.trans hmp, ?_⟩
    rcases hls with hls | hls
    · rw [hls]
      exact hms
    · exact .inr hls
  fields field hf := (g.fields field hf).trans (h.fields field hf)

end Document.Kept

/-- **Outside the documents of the models** nothing happens but that the document of the key is
created. -/
structure SparesOthers (settings : SyncSettings) (before after : MemoryStore) : Prop where
  key : ∀ id,
    after.get? settings.configCollection id = before.get? settings.configCollection id ∨
      id = settings.masterKeyId ∧ before.get? settings.configCollection id = none ∧
        ∃ record : KeyRecord, after.get? settings.configCollection id = some record.toDocument
  others : ∀ collection, collection ≠ settings.modelCollection →
    collection ≠ settings.configCollection →
    after.collections.get? collection = before.collections.get? collection

/-- **What one move may do to a store.** -/
structure Touches (settings : SyncSettings) (before after : MemoryStore) : Prop
    extends SparesOthers settings before after where
  /-- Each document of a model is left alone, or is amended. -/
  models : ∀ id,
    after.get? settings.modelCollection id = before.get? settings.modelCollection id ∨
      ∃ source source' record record', before.get? settings.modelCollection id = some source ∧
        after.get? settings.modelCollection id = some source' ∧
        Document.Amended id source source' record record'

/-- **What any moves may make of a store.** -/
structure Keeps (settings : SyncSettings) (before after : MemoryStore) : Prop
    extends SparesOthers settings before after where
  /-- No document of a model appears. -/
  ids : ∀ id, before.get? settings.modelCollection id = none →
    after.get? settings.modelCollection id = none
  /-- No document of a model goes, and what becomes of it is limited. -/
  models : ∀ id source, before.get? settings.modelCollection id = some source →
    ∃ source', after.get? settings.modelCollection id = some source' ∧
      Document.Kept id source source'

section Stores

variable {settings : SyncSettings} {a b c : MemoryStore}

theorem SparesOthers.refl (settings : SyncSettings) (store : MemoryStore) :
    SparesOthers settings store store := ⟨fun _ => .inl rfl, fun _ _ _ => rfl⟩

theorem SparesOthers.trans (h : SparesOthers settings a b) (g : SparesOthers settings b c) :
    SparesOthers settings a c where
  key id := by
    rcases h.key id with hk | ⟨hid, hn, record, hk⟩
    · rw [← hk]
      exact g.key id
    · -- a document that was created stays
      rcases g.key id with gk | ⟨-, gn, -⟩
      · exact .inr ⟨hid, hn, record, gk.trans hk⟩
      · cases gn.symm.trans hk
  others collection hm hc := (g.others collection hm hc).trans (h.others collection hm hc)

theorem Keeps.refl (settings : SyncSettings) (store : MemoryStore) : Keeps settings store store :=
  ⟨.refl settings store, fun _ => id, fun id source hs => ⟨source, hs, .refl id source⟩⟩

theorem Touches.keeps (h : Touches settings a b) : Keeps settings a b := by
  refine ⟨h.toSparesOthers, fun id hn => ?_, fun id source hs => ?_⟩
  · rcases h.models id with he | ⟨source, -, -, -, hs, -⟩
    · exact he.trans hn
    · cases hn.symm.trans hs
  · rcases h.models id with he | ⟨source', source'', record, record', hs', hs'', ha⟩
    · exact ⟨source, he.trans hs, .refl id source⟩
    · obtain rfl : source = source' := Option.some.inj (hs.symm.trans hs')
      exact ⟨source'', hs'', .of_amended ha⟩

theorem Keeps.trans (h : Keeps settings a b) (g : Keeps settings b c) : Keeps settings a c := by
  refine ⟨h.toSparesOthers.trans g.toSparesOthers, fun id hn => g.ids id (h.ids id hn),
    fun id source hs => ?_⟩
  obtain ⟨middle, hm, hk⟩ := h.models id source hs
  obtain ⟨last, hl, gk⟩ := g.models id middle hm
  exact ⟨last, hl, hk.trans gk⟩

/-! ### What is stored when a request is served -/

theorem sparesOthers_put
    (hn : a.get? settings.configCollection settings.masterKeyId = none) (record : KeyRecord) :
    SparesOthers settings a
      (a.put settings.configCollection settings.masterKeyId record.toDocument) := by
  refine ⟨fun id => ?_, fun collection _ hne => get?_put_of_ne hne.symm⟩
  rw [get?_put]
  by_cases hid : id = settings.masterKeyId
  · rw [hid, if_pos ⟨rfl, rfl⟩]
    exact .inr ⟨rfl, hn, record, rfl⟩
  · rw [if_neg fun h => hid h.2]
    exact .inl rfl

theorem sparesOthers_bulkUpdate (hc : settings.configCollection ≠ settings.modelCollection)
    (items : List BulkItem) :
    SparesOthers settings a (a.bulkUpdate settings.modelCollection items).1 := by
  refine ⟨fun id => .inl ?_, fun collection hne _ => collections_bulkUpdate_of_ne a items hne⟩
  rw [MemoryStore.get?, MemoryStore.get?,
    Overlap.documents_of_get? (collections_bulkUpdate_of_ne a items hc)]

/-- **What a bulk update of the first corrections stores.** -/
theorem get?_bulkUpdate {r : Reconciler} {rest : List StoredDocument}
    {corrections : List Correction} {collection : String}
    (h : r.FromFirst (a.documents collection) rest corrections) (time : Instant) (id : String) :
    let after := (a.bulkUpdate collection (corrections.map (Write.itemOf time))).1
    after.get? collection id = a.get? collection id ∨ ∃ source c,
      a.get? collection id = some source ∧ c ∈ corrections ∧ r.correction id source = some c ∧
      after.get? collection id = some (Document.rewrite c.toState c.toCount time source) := by
  intro after
  cases hd : a.collections.get? collection with
  | none =>
    have hafter : after = a := by
      show (a.bulkUpdate collection _).1 = a
      rw [bulkUpdate_of_none hd]
    exact .inl (by rw [hafter])
  | some documents =>
    rw [MemoryStore.documents, hd] at h
    rw [get?_bulkUpdate_of_some hd, get?_of_some hd]
    exact h.get?_updateAll collection time id

end Stores

namespace Overlap

variable {settings : SyncSettings} {κ γ : Type} {w w' : Overlap settings κ γ} {peers : Peers γ}
  {call : κ}

/-- **What is stored when a request of a cycle is served**: nothing, or the document of the key is
created, or corrections are written. -/
inductive Served (w : Overlap settings κ γ) (call : κ) (store : MemoryStore) : Prop
  | nothing (hs : store = w.store)
  | creates (record : KeyRecord)
      (hn : w.store.get? settings.configCollection settings.masterKeyId = none)
      (hs : store =
        w.store.put settings.configCollection settings.masterKeyId record.toDocument)
  | updates (write : Write) (hp : (w.phases call).write? = some write)
      (hs : store = (w.store.bulkUpdate settings.modelCollection
        (write.corrections.map (Write.itemOf write.time))).1)

theorem store_of_serve? {fate : Fate} {calls : List (NodeId × Call)} {q : Request}
    {store : MemoryStore} {reply : q.Reply} (h : w.serve? peers fate calls q = some (store, reply))
    (hcreate : ∀ collection id source, q ≠ .create collection id source)
    (hupdate : ∀ collection items, q ≠ .update collection items) : store = w.store := by
  rcases serve?_cases h with ⟨-, hs⟩ | ⟨hs, -⟩
  · exact hs
  · cases q with
    | create collection id source => exact absurd rfl (hcreate collection id source)
    | update collection items => exact absurd rfl (hupdate collection items)
    | _ => exact hs

theorem served {fate : Fate} {cycle : Cycle} {calls : List (NodeId × Call)}
    {trail : List Exchange} {store : MemoryStore} {reply : (cycle.request settings).Reply}
    (h : w.phases call = .asking cycle calls trail)
    (hr : w.serve? peers fate calls (cycle.request settings) = some (store, reply)) :
    Served w call store := by
  obtain ⟨report, stage⟩ := cycle
  cases stage with
  | writing refresh write =>
    rcases serve?_cases hr with ⟨⟨_, _, hq⟩, -⟩ | ⟨hs, -⟩
    · cases hq
    · let act (store : MemoryStore) :=
        store.bulkUpdate settings.modelCollection (write.corrections.map (Write.itemOf write.time))
      have hguard : store = (fate.guard act w.store).1 := hs
      rcases fate.guard_cases act w.store with ⟨e, -, hg⟩ | hg
      · rw [hg] at hguard
        exact .nothing hguard
      · rw [hg] at hguard
        exact .updates write (by rw [h]; rfl) hguard
  | bootstrapping b =>
    cases b with
    | creating key record =>
      rcases serve?_cases hr with ⟨⟨_, _, hq⟩, -⟩ | ⟨hs, -⟩
      · cases hq
      · rcases (peers.outside fate).answer_create_cases settings.configCollection
          settings.masterKeyId record.toDocument ⟨w.store, w.cluster, []⟩ with
          ⟨hn, -, hput⟩ | ⟨e, -, hsame⟩
        · exact .creates record hn (hs.trans hput)
        · exact .nothing (hs.trans hsame)
    | _ => exact .nothing (store_of_serve? hr nofun nofun)
  | gathering g => cases g <;> exact .nothing (store_of_serve? hr nofun nofun)
  | _ => exact .nothing (store_of_serve? hr nofun nofun)

theorem Served.sparesOthers (hc : settings.configCollection ≠ settings.modelCollection)
    {store : MemoryStore} (h : Served w call store) : SparesOthers settings w.store store := by
  cases h with
  | nothing hs =>
    rw [hs]
    exact .refl settings w.store
  | creates record hn hs =>
    rw [hs]
    exact sparesOthers_put hn record
  | updates write hp hs =>
    rw [hs]
    exact sparesOthers_bulkUpdate hc _

/-- A correction that a cycle has asked for is written into the document of its model. -/
structure Rewritten (w : Overlap settings κ γ) (call : κ) (id : String) (write : Write)
    (c : Correction) (source : Json) (after : Option Json) : Prop where
  asked : (w.phases call).write? = some write
  mem : c ∈ write.corrections
  stored : w.store.get? settings.modelCollection id = some source
  decided : ∃ r : Reconciler, r.correction id source = some c
  after : after = some (Document.rewrite c.toState c.toCount write.time source)

theorem Served.rewritten (hc : settings.configCollection ≠ settings.modelCollection)
    (hw : w.Current) {store : MemoryStore} (h : Served w call store) {id : String}
    (hne : store.get? settings.modelCollection id ≠ w.store.get? settings.modelCollection id) :
    ∃ write c source,
      Rewritten w call id write c source (store.get? settings.modelCollection id) := by
  cases h with
  | nothing hs => exact absurd (by rw [hs]) hne
  | creates record hn hs =>
    refine absurd ?_ hne
    rw [hs, get?_put, if_neg fun h => hc h.1.symm]
  | updates write hp hs =>
    obtain ⟨report, refresh, calls, trail, h⟩ := Phase.eq_of_write? hp
    have hcall : Phase.Current w.documents
        (.asking ⟨report, .writing refresh write⟩ calls trail : Phase settings) := h ▸ hw call
    obtain ⟨r, rest, hfirst⟩ := hcall
    rw [hs] at hne ⊢
    rcases get?_bulkUpdate hfirst write.time id with he | ⟨source, c, hsource, hmem, hd, hnow⟩
    · exact absurd he hne
    · exact ⟨write, c, source, hp, hmem, hsource, ⟨r, hd⟩, hnow⟩

end Overlap

/-! ### Any moves -/

/-- What holds of the time of a move at which a cycle acts. -/
def Move.At {κ γ : Type} (P : Instant → Prop) : Move κ γ → Prop
  | .resume _ now => P now
  | _ => True

/-- A move that others do not write by, and at which the clock shows a date. -/
structure Move.Proper {κ γ : Type} (m : Move κ γ) : Prop where
  own : ∀ act, m ≠ .write act
  dated : m.At Instant.Dated

theorem Move.proper_iff {κ γ : Type} {m : Move κ γ} :
    m.Proper ↔ (∀ act, m ≠ .write act) ∧ m.At Instant.Dated :=
  ⟨fun h => ⟨h.own, h.dated⟩, fun h => ⟨h.1, h.2⟩⟩

theorem Move.Proper.spares {κ γ : Type} {m : Move κ γ} (h : m.Proper) (collection : String) :
    m.Spares collection := by
  cases m with
  | write act => exact absurd rfl (h.own act)
  | _ => trivial

theorem Cycle.Advance.time_eq {settings : SyncSettings} {d : Daemon} {cycle : Cycle} {x : Exchange}
    {next : Next Cycle CycleReport} {gate : Gate} (h : Advance settings d cycle x next gate)
    {report : CycleReport} {refresh : Refresh} {write : Write}
    (hn : next = .wait ⟨report, .writing refresh write⟩) : write.time = d.clock := by
  cases h with
  | corrects =>
    cases hn
    rfl
  | _ => cases hn

namespace Overlap

variable {settings : SyncSettings} {κ γ : Type} [DecidableEq κ] {w w' : Overlap settings κ γ}
  {peers : Peers γ} {P : Instant → Prop}

/-- What holds of the times of all corrections that wait to be written. -/
def WritesAt (P : Instant → Prop) (w : Overlap settings κ γ) : Prop :=
  ∀ call write, (w.phases call).write? = some write → P write.time

theorem writesAt_put (hw : w.WritesAt P) {call : κ} {phase : Phase settings}
    (hp : ∀ write, phase.write? = some write → P write.time) : (w.put call phase).WritesAt P :=
  forall_put (P := fun _ phase => ∀ write, phase.write? = some write → P write.time) hw hp

theorem writesAt_proceed (hw : w.WritesAt P) (call : κ) (trail : List Exchange)
    {p : Next Cycle CycleReport × Daemon}
    (hp : ∀ report refresh write, p.1 = .wait ⟨report, .writing refresh write⟩ → P write.time) :
    (w.proceed call trail p).WritesAt P := by
  refine writesAt_put (w := { w with daemon := p.2 }) hw fun write hwrite => ?_
  obtain ⟨report, refresh, calls, trail', he⟩ := Phase.eq_of_write? hwrite
  obtain ⟨cycle | report', d⟩ := p
  · cases he
    exact hp report refresh write rfl
  · cases he

/-- **Corrections have the time at which the cycle acts that decides on them.** -/
theorem Moved.writesAt {m : Move κ γ} (hm : m.At P) (h : Moved peers w m w')
    (hw : w.WritesAt P) : w'.WritesAt P := by
  cases h with
  | still => exact hw
  | starts now h =>
    refine writesAt_proceed hw _ _ fun report refresh write hn => ?_
    cases hn
  | serves h => exact writesAt_put (w := { w with store := _ }) hw nofun
  | arrives h | delivers h | expires h =>
    refine writesAt_put (w := { w with cluster := _ }) hw fun write hwrite => ?_
    obtain ⟨report, refresh, calls', trail', he⟩ := Phase.eq_of_write? hwrite
    cases he
    exact hw _ write (by rw [h]; rfl)
  | resumes now h =>
    refine writesAt_proceed hw _ _ fun report refresh write hn => ?_
    rw [(Cycle.advance _ _ _).time_eq hn]
    exact hm
  | cancels => exact writesAt_put (w := { w with daemon := _ }) hw nofun
  | writes => exact hw
  | changes => exact hw

/-- **A document of a model changes only when a cycle's corrections are written.** -/
theorem Moved.rewritten (hc : settings.configCollection ≠ settings.modelCollection) {m : Move κ γ}
    (hm : m.Spares settings.modelCollection) (h : Moved peers w m w') (hw : w.Current) {id : String}
    (hne : w'.store.get? settings.modelCollection id ≠
      w.store.get? settings.modelCollection id) :
    ∃ call fate write c source, m = .serve call fate ∧
      Rewritten w call id write c source (w'.store.get? settings.modelCollection id) := by
  cases h with
  | @serves call _ _ _ fate _ _ h hr =>
    obtain ⟨write, c, source, hrewritten⟩ := (served h hr).rewritten hc hw hne
    exact ⟨call, fate, write, c, source, rfl, hrewritten⟩
  | writes act =>
    refine absurd ?_ hne
    rw [MemoryStore.get?, MemoryStore.get?, documents_of_get? (hm w.store)]
  | _ => exact absurd rfl hne

theorem Moved.touches (hc : settings.configCollection ≠ settings.modelCollection) {m : Move κ γ}
    (hm : m.Proper) (h : Moved peers w m w') (hw : w.Current) (ht : w.WritesAt Instant.Dated) :
    Touches settings w.store w'.store := by
  have hothers : SparesOthers settings w.store w'.store := by
    cases h with
    | serves h hr => exact (served h hr).sparesOthers hc
    | writes act => exact absurd rfl (hm.own act)
    | _ => exact .refl settings w.store
  -- a document that changes is rewritten by a correction, whose time has a date
  refine ⟨hothers, fun id => ?_⟩
  by_cases hne : w'.store.get? settings.modelCollection id =
      w.store.get? settings.modelCollection id
  · exact .inl hne
  · obtain ⟨call, -, write, c, source, -, hrewritten⟩ := h.rewritten hc (hm.spares _) hw hne
    obtain ⟨r, hd⟩ := hrewritten.decided
    obtain ⟨record, record', ha⟩ :=
      Reconciler.amended_of_correction hd (ht call write hrewritten.asked)
    exact .inr ⟨source, _, record, record', hrewritten.stored, hrewritten.after, ha⟩

/-- What holds of cycles all along. -/
structure Confined (w : Overlap settings κ γ) : Prop where
  held : Held w
  current : w.Current
  dated : w.WritesAt Instant.Dated

theorem Moved.confined (hc : settings.configCollection ≠ settings.modelCollection) {m : Move κ γ}
    (hm : m.Proper) (h : Moved peers w m w') (hw : w.Confined) : w'.Confined :=
  ⟨h.held hw.held, h.current hc (hm.spares _) hw.held hw.current, h.writesAt hm.dated hw.dated⟩

theorem confined_run (peers : Peers γ) (hc : settings.configCollection ≠ settings.modelCollection)
    {moves : List (Move κ γ)} (hm : ∀ m ∈ moves, m.Proper) (hw : w.Confined) :
    (w.run peers moves).Confined ∧ Keeps settings w.store (w.run peers moves).store := by
  refine keeps_run (P := fun w' => w'.Confined ∧ Keeps settings w.store w'.store) ?_
    ⟨hw, .refl settings w.store⟩
  rintro m hin w₁ w₂ h ⟨hw₁, hkeeps⟩
  have htouches := h.touches hc (hm m hin) hw₁.current hw₁.dated
  exact ⟨h.confined hc (hm m hin) hw₁, hkeeps.trans htouches.keeps⟩

/-- **What cycles may touch**, however they overlap and whatever fails, if nobody else writes.

Each move touches no more than `Touches` says: a document of a model is amended only if it is a
record whose state is reconcilable, and then only three of its members change, so that the state or
the count of the record changes; and the document of the key is created.  Between any two moments,
what `Keeps` says: no document of a model appears or goes, a document that is not read is not
changed, a record keeps its tenant, the number of nodes that are planned and all members that
corrections do not write, and the document of the key stays once it is there. -/
theorem cycles_touch (settings : SyncSettings) (peers : Peers γ) (store : MemoryStore) (cluster : γ)
    (daemon : Daemon) (earlier later : List (Move κ γ)) (m : Move κ γ)
    (hc : settings.configCollection ≠ settings.modelCollection)
    (hg : daemon.gate.isOpen = true) (hm : ∀ m' ∈ earlier ++ later ++ [m], m'.Proper) :
    let w : Overlap settings κ γ := (fresh settings store cluster daemon).run peers earlier
    let w' := w.run peers later
    Keeps settings w.store w'.store ∧ Touches settings w'.store (w'.move peers m).store := by
  intro w w'
  have hfresh : (fresh settings store cluster daemon : Overlap settings κ γ).Confined :=
    ⟨held_fresh store cluster hg, fun _ => trivial, nofun⟩
  simp only [List.forall_mem_append, List.forall_mem_singleton] at hm
  obtain ⟨⟨hearlier, hlater⟩, hlast⟩ := hm
  obtain ⟨hw, -⟩ := confined_run peers hc hearlier hfresh
  obtain ⟨hw', hkeeps⟩ := confined_run peers hc hlater hw
  exact ⟨hkeeps, (moved peers w' m).touches hc hlast hw'.current hw'.dated⟩

/-- A cycle that corrects the record of a lost model. -/
theorem cycles_touch_of_lost_model :
    let settings : SyncSettings := default
    let source : Json := .object [(Document.stateField, .str "DEPLOYED"),
      (Document.plannedField, .int 2), (Document.currentField, .int 1)]
    let store := (∅ : MemoryStore).put settings.modelCollection "m" source
    let daemon := Daemon.fresh (.ofMillis 0) default default
    let peers : Peers Unit :=
      ⟨fun _ => .ok [], fun _ cluster => (cluster, .waiting),
        fun _ node cluster => (cluster, .error (.unreachable node "gone")),
        fun node => .timedOut node 5000⟩
    let moves : List (Move Unit Unit) := .start () (.ofMillis 1000) ::
      (List.replicate 8 [.serve () .served, .resume () (.ofMillis 2000)]).flatten
    let w : Overlap settings Unit Unit := (fresh settings store () daemon).run peers moves
    let w' := w.move peers (.serve () .served)
    Keeps settings store w.store ∧ Touches settings w.store w'.store ∧
      (w'.store.get? settings.modelCollection "m").bind (·.get? Document.stateField) =
        some (.str "DEPLOY_FAILED") := by
  intro settings source store daemon peers moves w w'
  have hproper : ∀ m ∈ [] ++ moves ++ [.serve () .served], m.Proper := by
    have hdated : (Instant.ofMillis 2000).Dated := by decide
    simp [moves, Move.proper_iff, Move.At, List.replicate, hdated]
  obtain ⟨hkeeps, htouches⟩ := cycles_touch settings peers store () daemon [] moves
    (.serve () .served) (by decide) rfl hproper
  exact ⟨hkeeps, htouches, by decide +kernel⟩

end Overlap

end ModelFleet
