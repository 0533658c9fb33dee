import ModelFleet.Cycle.Correction
import ModelFleet.Store.Memory

/-!
# Documents that are rewritten

A correction puts three members into the document of its model (`merge_changes`), which are then
the state, the count and the time of its record (`ofDocument_rewrite`).
-/

namespace ModelFleet

/-- What comes before a result in a chain of steps that may fail. -/
theorem Except.exists_of_bind {ε α β : Type} {x : Except ε α} {f : α → Except ε β} {b : β}
    (h : x >>= f = .ok b) : ∃ a, x = .ok a ∧ f a = .ok b := by
  cases x with
  | error e => cases h
  | ok a => exact ⟨a, rfl, h⟩

/-- Whether a moment has a date, as every moment of a clock has. -/
def Instant.Dated (t : Instant) : Prop := firstMillis ≤ t.millis ∧ t.millis ≤ lastMillis

instance (t : Instant) : Decidable t.Dated := inferInstanceAs (Decidable (_ ∧ _))

theorem Instant.Dated.ofMillis? {t : Instant} (h : t.Dated) :
    Instant.ofMillis? t.millis = some (.ofMillis t.millis) := if_pos h

namespace Document

/-- The members of a document with a new state, count and time of the last change. -/
def rewriteMembers (state : ModelState) (count : UInt32) (time : Instant)
    (members : List (String × Json)) : List (String × Json) :=
  Entries.insert stateField state.toJson
    (Entries.insert updatedField (.int time.millis)
      (Entries.insert currentField (.int count.toNat) members))

/-- A document with a new state, count and time of the last change. -/
def rewrite (state : ModelState) (count : UInt32) (time : Instant) : Json → Json
  | .obj members => .obj (rewriteMembers state count time members)
  | source => source

variable (state : ModelState) (count : UInt32) (time : Instant) (members : List (String × Json))

theorem get?_rewriteMembers (field : String) :
    Entries.get? field (rewriteMembers state count time members) =
      if field = stateField then some state.toJson
      else if field = updatedField then some (.int time.millis)
      else if field = currentField then some (.int count.toNat)
      else Entries.get? field members := by
  simp only [rewriteMembers, Entries.get?_insert]

theorem present?_rewriteMembers_of_ne {field : String} (hs : field ≠ stateField)
    (hu : field ≠ updatedField) (hc : field ≠ currentField) :
    Json.present? field (rewriteMembers state count time members) =
      Json.present? field members := by
  rw [Json.present?, get?_rewriteMembers, if_neg hs, if_neg hu, if_neg hc]
  rfl

/-! ### What is read from it -/

theorem ofJson_toJson (state : ModelState) : ModelState.ofJson state.toJson = .ok state := by
  cases state <;> rfl

section Present

variable {state count members} {field : String} {ms : Int} {t : Instant}

theorem readState_of_present? (h : Json.present? stateField members = some state.toJson) :
    readState members = .ok state := by
  rw [readState, h]
  simp only [ofJson_toJson]
  rfl

theorem readCount_of_present? (h : Json.present? field members = some (.int count.toNat)) :
    readCount field members = .ok (some count) := by
  have hlt : (count.toNat : Int) < 2 ^ 32 := by
    have := count.toNat_lt
    omega
  simp only [readCount, h]
  rw [if_pos ⟨by omega, hlt⟩]
  simp

theorem readMillis_of_present? (h : Json.present? field members = some (.int ms))
    (ht : Instant.ofMillis? ms = some t) : readMillis field members = .ok (some t) := by
  simp only [readMillis, h, ht]

end Present

theorem readState_rewriteMembers :
    readState (rewriteMembers state count time members) = .ok state := by
  refine readState_of_present? ?_
  rw [Json.present?, get?_rewriteMembers, if_pos rfl]
  rfl

theorem readCount_rewriteMembers :
    readCount currentField (rewriteMembers state count time members) = .ok (some count) := by
  refine readCount_of_present? ?_
  rw [Json.present?, get?_rewriteMembers, if_neg (by decide), if_neg (by decide), if_pos rfl]

theorem present?_updated_rewriteMembers :
    Json.present? updatedField (rewriteMembers state count time members) =
      some (.int time.millis) := by
  rw [Json.present?, get?_rewriteMembers, if_neg (by decide), if_pos rfl]

variable {time} in
theorem readMillis_rewriteMembers {t : Instant} (h : Instant.ofMillis? time.millis = some t) :
    readMillis updatedField (rewriteMembers state count time members) = .ok (some t) :=
  readMillis_of_present? (present?_updated_rewriteMembers state count time members) h

variable {time} in
theorem readMillis_rewriteMembers_of_none (h : Instant.ofMillis? time.millis = none)
    (t : Option Instant) :
    readMillis updatedField (rewriteMembers state count time members) ≠ .ok t := by
  simp only [readMillis, present?_updated_rewriteMembers, h]
  intro he
  cases he

end Document

namespace ModelRecord

open Document

/-- What the fields of a document say when it is a record. -/
structure Reads (id : ModelId) (members : List (String × Json)) (record : ModelRecord)
    (tenant : Option String) (current : Option UInt32) : Prop where
  id : record.id = id
  state : readState members = .ok record.state
  readTenant : readText tenantField members = .ok tenant
  tenant : record.tenant = tenant.map .mk
  planned : readCount plannedField members = .ok (some record.planned)
  readCurrent : readCount currentField members = .ok current
  current : record.current = current.getD 0
  updated : readMillis updatedField members = .ok record.updated

theorem ofDocument_of_reads {id : ModelId} {members : List (String × Json)} {record : ModelRecord}
    {tenant : Option String} {current : Option UInt32}
    (h : Reads id members record tenant current) :
    ofDocument id (.obj members) = .ok record := by
  obtain ⟨_, t, state, planned, c, updated⟩ := record
  obtain ⟨rfl, hs, ht, rfl, hp, hc, rfl, hu⟩ := h
  simp only [ofDocument, hs, ht, hp, hc, hu, demand]
  rfl

theorem reads_of_ofDocument {id : ModelId} {members : List (String × Json)} {record : ModelRecord}
    (h : ofDocument id (.obj members) = .ok record) :
    ∃ tenant current, Reads id members record tenant current := by
  obtain ⟨state, hs, h₁⟩ := Except.exists_of_bind h
  obtain ⟨tenant, ht, h₂⟩ := Except.exists_of_bind h₁
  obtain ⟨read, hp, h₃⟩ := Except.exists_of_bind h₂
  obtain ⟨planned, hd, h₄⟩ := Except.exists_of_bind h₃
  obtain ⟨current, hc, h₅⟩ := Except.exists_of_bind h₄
  obtain ⟨updated, hu, h₆⟩ := Except.exists_of_bind h₅
  obtain rfl : read = some planned := by
    cases read with
    | none => cases hd
    | some p =>
      cases hd
      rfl
  cases h₆
  exact ⟨tenant, current, rfl, hs, ht, rfl, hp, hc, rfl, hu⟩

theorem id_of_ofDocument {id : ModelId} {source : Json} {record : ModelRecord}
    (h : ofDocument id source = .ok record) : record.id = id := by
  cases source with
  | obj members =>
    obtain ⟨_, _, hr⟩ := reads_of_ofDocument h
    exact hr.id
  | _ => cases h

/-- **The record of a document that was rewritten**, unless the time is none that a document can
hold. -/
theorem ofDocument_rewrite {id : ModelId} {source : Json} {record : ModelRecord}
    (h : ofDocument id source = .ok record) (state : ModelState) (count : UInt32) (time : Instant) :
    (ofDocument id (rewrite state count time source)).toOption =
      (Instant.ofMillis? time.millis).map fun t =>
        { record with state, current := count, updated := some t } := by
  cases source with
  | obj members =>
    obtain ⟨tenant, current, hr⟩ := reads_of_ofDocument h
    have hkeep : ∀ field, field ≠ stateField → field ≠ updatedField → field ≠ currentField →
        Json.present? field (rewriteMembers state count time members) =
          Json.present? field members :=
      fun field => present?_rewriteMembers_of_ne state count time members
    have ht : readText tenantField (rewriteMembers state count time members) = .ok tenant := by
      rw [← hr.readTenant, readText, hkeep tenantField (by decide) (by decide) (by decide)]
      rfl
    have hp : readCount plannedField (rewriteMembers state count time members) =
        .ok (some record.planned) := by
      rw [← hr.planned, readCount, hkeep plannedField (by decide) (by decide) (by decide)]
      rfl
    cases hm : Instant.ofMillis? time.millis with
    | some t =>
      have hu := readMillis_rewriteMembers state count members hm
      have hnew : Reads id (rewriteMembers state count time members)
          { record with state, current := count, updated := some t } tenant (some count) :=
        ⟨hr.id, readState_rewriteMembers .., ht, hr.tenant, hp, readCount_rewriteMembers .., rfl,
          hu⟩
      rw [show rewrite state count time (.obj members) =
          .obj (rewriteMembers state count time members) from rfl,
        ofDocument_of_reads hnew]
      rfl
    | none =>
      cases hd : ofDocument id (rewrite state count time (.obj members)) with
      | error e => rfl
      | ok other =>
        obtain ⟨_, _, ho⟩ := reads_of_ofDocument hd
        exact absurd ho.updated (readMillis_rewriteMembers_of_none state count members hm _)
  | _ => cases h

theorem ofDocument_rewrite_of_dated {id : ModelId} {source : Json} {record : ModelRecord}
    (h : ofDocument id source = .ok record) (state : ModelState) (count : UInt32) {time : Instant}
    (ht : time.Dated) :
    ofDocument id (rewrite state count time source) =
      .ok { record with state, current := count, updated := some (.ofMillis time.millis) } := by
  have hnow := ofDocument_rewrite h state count time
  rw [ht.ofMillis?] at hnow
  cases ho : ofDocument id (rewrite state count time source) with
  | error e =>
    rw [ho] at hnow
    cases hnow
  | ok other =>
    rw [ho] at hnow
    exact congrArg Except.ok (Option.some.inj hnow)

/-- The document of a record belongs to the tenant of the record. -/
theorem tenantAgrees_of_ofDocument {id : ModelId} {source : Json} {record : ModelRecord}
    (h : ofDocument id source = .ok record) :
    MemoryStore.tenantAgrees source record.tenant = true := by
  cases source with
  | obj members =>
    obtain ⟨tenant, _, hr⟩ := reads_of_ofDocument h
    cases tenant with
    | none =>
      rw [hr.tenant]
      rfl
    | some t =>
      have hp : Json.present? tenantField members = some (.str t) := by
        have ht := hr.readTenant
        unfold readText at ht
        split at ht
        · cases ht
        · next s hs =>
          cases ht
          exact hs
        · cases ht
      have hg : Entries.get? tenantField members = some (.str t) := by
        unfold Json.present? at hp
        split at hp
        · cases hp
        · cases hp
        · next hv => rw [hv, hp]
      rw [hr.tenant]
      simp [MemoryStore.tenantAgrees, Json.get?, hg, Json.text?]
  | _ => cases h

/-- The members that a correction puts into the document of its model. -/
theorem merge_changes_of_obj (members : List (String × Json)) (c : Correction) (time : Instant) :
    MemoryStore.merge (.obj members) (c.changes time) =
      .ok (.obj (rewriteMembers c.toState c.toCount time members)) := by
  have hchanges : c.changes time = .obj [(currentField, .int c.toCount.toNat),
      (updatedField, .int time.millis), (stateField, c.toState.toJson)] := by
    simp only [Correction.changes, Json.object, Entries.ofList, List.foldl_cons, List.foldl_nil,
      Entries.insert]
    rw [if_neg (by decide), if_pos (by decide), Entries.insert, if_neg (by decide),
      if_neg (by decide), Entries.insert, if_neg (by decide), if_pos (by decide)]
  rw [hchanges]
  rfl

theorem merge_changes {id : ModelId} {source : Json} {record : ModelRecord}
    (h : ofDocument id source = .ok record) (c : Correction) (time : Instant) :
    MemoryStore.merge source (c.changes time) =
      .ok (Document.rewrite c.toState c.toCount time source) := by
  cases source with
  | obj members => exact merge_changes_of_obj members c time
  | _ => cases h

end ModelRecord

end ModelFleet
