import ModelFleet.Model.KeyRecord
import ModelFleet.Proofs.Json.Reading
import ModelFleet.Proofs.Model.Rewrite

/-!
# Records are read back from their documents

A record is read back from its document as it was, if the document can hold its time of the last
change (`ModelRecord.ofDocument_toDocument`); the time of a record that was read can be held, since
documents hold whole milliseconds (`Instant.Exact`).  What is read depends on five members only, of
which `null` is as good as none (`ModelRecord.ofDocument_congr`), and it is never read where the
state or the planned count is missing (`ModelRecord.Founded`).  The record of the master key is read
back likewise (`KeyRecord.ofDocument_toDocument`).
-/

namespace ModelFleet

/-- A moment that a document can hold: a whole millisecond that has a date. -/
def Instant.Exact (t : Instant) : Prop := t.Dated ∧ .ofMillis t.millis = t

instance (t : Instant) : Decidable t.Exact := inferInstanceAs (Decidable (_ ∧ _))

namespace Instant

variable {t : Instant} {ms : Int}

theorem Exact.ofMillis? (h : t.Exact) : Instant.ofMillis? t.millis = some t := by
  rw [h.1.ofMillis?, h.2]

theorem exact_of_ofMillis? (h : Instant.ofMillis? ms = some t) : t.Exact := by
  obtain ⟨hdated, rfl⟩ := ofMillis?_eq_some_iff.1 h
  refine ⟨?_, by rw [millis_ofMillis]⟩
  rw [Dated, millis_ofMillis]
  exact hdated

end Instant

namespace Json

variable {members : List (String × Json)} {key : String} {value : Json}

theorem present?_eq_some_iff :
    present? key members = some value ↔ Entries.get? key members = some value ∧ value ≠ .null := by
  unfold present?
  split
  · next h => simp [h]
  · next h =>
    rw [h]
    constructor
    · intro h'
      cases h'
    · rintro ⟨⟨⟩, hv⟩
      exact absurd rfl hv
  · next found hf h =>
    rw [h]
    constructor
    · rintro ⟨⟩
      refine ⟨rfl, ?_⟩
      rintro rfl
      exact hf rfl
    · rintro ⟨⟨⟩, -⟩
      rfl

/-- What an object was made of is present in it. -/
theorem present?_ofList_of_mem (hn : (members.map (·.1)).Nodup) (hm : (key, value) ∈ members)
    (hv : value ≠ .null) : present? key (Entries.ofList members) = some value := by
  rw [present?_eq_some_iff, Entries.get?_ofList hn]
  exact ⟨Entries.get?_of_mem hn hm, hv⟩

theorem present?_ofList_of_not_mem (hn : (members.map (·.1)).Nodup)
    (hk : key ∉ members.map (·.1)) : present? key (Entries.ofList members) = none := by
  rw [present?, Entries.get?_ofList hn, Entries.get?_eq_none hk]

end Json

/-! ### What the fields say -/

namespace ModelState

open Decode (Variant)

/-- The alternative with a name is that of the state with this name. -/
theorem exists_of_find {name : String} {variant : Variant ModelState}
    (h : Variant.find (all.map fun s => .bare s.name s) name = .ok variant) :
    ∃ s : ModelState, s.name = name ∧ variant = .bare s.name s := by
  unfold Variant.find at h
  split at h
  · next found hf =>
    obtain rfl := Except.ok.inj h
    obtain ⟨s, -, rfl⟩ := List.mem_map.1 (List.mem_of_find?_eq_some hf)
    have hname := List.find?_some hf
    exact ⟨s, of_decide_eq_true hname, rfl⟩
  · cases h

/-- Under its name a state that stands alone has nothing. -/
theorem ofValue_bare_eq_ok {name : String} {s state : ModelState} {value : Json}
    (h : (Variant.bare name s).ofValue value = .ok state) : value = .null ∧ s = state := by
  cases value with
  | null => exact ⟨rfl, Except.ok.inj h⟩
  | _ => cases h

/-- **A state is read from its name**, or from an object with its name for a key and nothing in
it. -/
theorem ofJson_eq_ok_iff {value : Json} {state : ModelState} :
    ofJson value = .ok state ↔
      value = .str state.name ∨ value = .obj [(state.name, .null)] := by
  constructor
  · intro h
    cases value with
    | str name =>
      obtain ⟨variant, hv, hs⟩ := Except.exists_of_bind h
      obtain ⟨s, rfl, rfl⟩ := exists_of_find hv
      obtain rfl := Except.ok.inj hs
      exact .inl rfl
    | obj members =>
      match members with
      | [] => cases h
      | [(name, value)] =>
        obtain ⟨variant, hv, hs⟩ := Except.exists_of_bind h
        obtain ⟨s, rfl, rfl⟩ := exists_of_find hv
        obtain ⟨rfl, rfl⟩ := ofValue_bare_eq_ok hs
        exact .inr rfl
      | _ :: _ :: _ => cases h
    | _ => cases h
  · rintro (rfl | rfl)
    · exact Document.ofJson_toJson state
    · cases state <;> rfl

end ModelState

namespace Document

variable {members : List (String × Json)} {field : String}

theorem exists_of_readState {state : ModelState} (h : readState members = .ok state) :
    ∃ value, Json.present? stateField members = some value ∧
      ModelState.ofJson value = .ok state := by
  unfold readState at h
  split at h
  · cases h
  · next value hv =>
    refine ⟨value, hv, ?_⟩
    cases hr : ModelState.ofJson value with
    | error e =>
      rw [hr] at h
      cases h
    | ok s =>
      rw [hr] at h
      exact congrArg Except.ok (Except.ok.inj h)

theorem exists_of_readCount {count : UInt32} (h : readCount field members = .ok (some count)) :
    ∃ n : Int, Json.present? field members = some (.int n) ∧ 0 ≤ n ∧ n < 2 ^ 32 ∧
      count.toNat = n := by
  unfold readCount at h
  split at h
  · cases h
  · next n hn =>
    split at h
    · next hrange =>
      obtain rfl := Option.some.inj (Except.ok.inj h)
      have hlt : n.toNat < 2 ^ 32 := by omega
      refine ⟨n, hn, hrange.1, hrange.2, ?_⟩
      rw [UInt32.toNat_ofNat_of_lt' hlt, Int.toNat_of_nonneg hrange.1]
    · cases h
  · cases h
  · cases h

theorem exact_of_readMillis {t : Instant} (h : readMillis field members = .ok (some t)) :
    t.Exact := by
  unfold readMillis at h
  split at h
  · cases h
  · split at h
    · next t' ht =>
      obtain rfl := Option.some.inj (Except.ok.inj h)
      exact Instant.exact_of_ofMillis? ht
    · cases h
  · cases h
  · cases h

theorem readMillis_of_absent (h : Json.present? field members = none) :
    readMillis field members = .ok none := by
  rw [readMillis, h]

theorem readText_of_present? {s : String} (h : Json.present? field members = some (.str s)) :
    readText field members = .ok (some s) := by
  rw [readText, h]

theorem readText_of_absent (h : Json.present? field members = none) :
    readText field members = .ok none := by
  rw [readText, h]

end Document

/-! ### Records of models -/

namespace ModelRecord

open Document

theorem nodup_members (record : ModelRecord) : (record.members.map (·.1)).Nodup := by
  unfold members
  cases record.tenant with
  | none => cases record.updated <;> simp [stateField, plannedField, currentField, updatedField]
  | some tenant =>
    cases record.updated <;>
      simp [stateField, plannedField, currentField, tenantField, updatedField]

/-- What the document of a record says is the record. -/
theorem reads_members {record : ModelRecord} (h : ∀ t ∈ record.updated, t.Exact) :
    Reads record.id (Entries.ofList record.members) record (record.tenant.map (·.text))
      (some record.current) := by
  have hn := record.nodup_members
  refine ⟨rfl, ?_, ?_, ?_, ?_, ?_, rfl, ?_⟩
  · exact readState_of_present? (Json.present?_ofList_of_mem hn (by simp [members]) nofun)
  · cases ht : record.tenant with
    | none =>
      refine readText_of_absent (Json.present?_ofList_of_not_mem hn ?_)
      cases hu : record.updated <;> simp [members, ht, hu, stateField, plannedField, currentField,
        tenantField, updatedField]
    | some tenant =>
      refine readText_of_present? (Json.present?_ofList_of_mem hn ?_ nofun)
      simp [members, ht]
  · cases record.tenant <;> rfl
  · exact readCount_of_present? (Json.present?_ofList_of_mem hn (by simp [members]) nofun)
  · exact readCount_of_present? (Json.present?_ofList_of_mem hn (by simp [members]) nofun)
  · cases hu : record.updated with
    | none =>
      refine readMillis_of_absent (Json.present?_ofList_of_not_mem hn ?_)
      cases ht : record.tenant <;> simp [members, ht, hu, stateField, plannedField, currentField,
        tenantField, updatedField]
    | some t =>
      refine readMillis_of_present? (Json.present?_ofList_of_mem hn ?_ nofun)
        (h t hu).ofMillis?
      simp [members, hu]

/-- A record is read back from its document. -/
theorem ofDocument_toDocument {record : ModelRecord} (h : ∀ t ∈ record.updated, t.Exact) :
    ofDocument record.id record.toDocument = .ok record :=
  ofDocument_of_reads (reads_members h)

/-- The time of a record that was read is one that a document can hold. -/
theorem exact_of_ofDocument {id : ModelId} {source : Json} {record : ModelRecord}
    (h : ofDocument id source = .ok record) : ∀ t ∈ record.updated, t.Exact := by
  intro t ht
  cases source with
  | obj members =>
    obtain ⟨_, _, hr⟩ := reads_of_ofDocument h
    have hread := hr.updated
    rw [ht] at hread
    exact exact_of_readMillis hread
  | _ => cases h

/-- The members that records are read from. -/
def fieldNames : List String := [stateField, tenantField, plannedField, currentField, updatedField]

/-- What is read, record or error, depends on five members only. -/
theorem ofDocument_congr (id : ModelId) {left right : List (String × Json)}
    (h : ∀ field ∈ fieldNames, Json.present? field left = Json.present? field right) :
    ofDocument id (.obj left) = ofDocument id (.obj right) := by
  simp only [fieldNames, List.forall_mem_cons] at h
  obtain ⟨hs, ht, hp, hc, hu, -⟩ := h
  simp only [ofDocument, readState, readText, readCount, readMillis, hs, ht, hp, hc, hu]

/-- A record rests on a state and on a planned count, an integer of four bytes, that its document
holds. -/
structure Founded (source : Json) (record : ModelRecord) : Prop where
  state : source.get? stateField = some (.str record.state.name) ∨
    source.get? stateField = some (.obj [(record.state.name, .null)])
  planned : ∃ n : Int, source.get? plannedField = some (.int n) ∧ 0 ≤ n ∧ n < 2 ^ 32 ∧
    record.planned.toNat = n

theorem founded_of_ofDocument {id : ModelId} {source : Json} {record : ModelRecord}
    (h : ofDocument id source = .ok record) : Founded source record := by
  cases source with
  | obj members =>
    obtain ⟨_, _, hr⟩ := reads_of_ofDocument h
    obtain ⟨value, hv, hstate⟩ := exists_of_readState hr.state
    obtain ⟨n, hn, hrange⟩ := exists_of_readCount hr.planned
    have hget : Entries.get? stateField members = some value := (Json.present?_eq_some_iff.1 hv).1
    refine ⟨?_, n, (Json.present?_eq_some_iff.1 hn).1, hrange⟩
    rcases ModelState.ofJson_eq_ok_iff.1 hstate with rfl | rfl
    · exact .inl hget
    · exact .inr hget
  | _ => cases h

/-- **Records and their documents say the same.**  A record is read back from its document, if the
document can hold the time of its last change; a record that was read from any document is read
again from its own; two objects are read alike, as a record or with the same error, if they agree on
five members, of which `null` is as good as none; and nothing is read without a state and a planned
count. -/
theorem documents_faithful (id : ModelId) :
    (∀ record : ModelRecord, (∀ t ∈ record.updated, t.Exact) →
      ofDocument record.id record.toDocument = .ok record) ∧
    (∀ source record, ofDocument id source = .ok record →
      ofDocument id record.toDocument = .ok record) ∧
    (∀ left right : List (String × Json),
      (∀ field ∈ fieldNames, Json.present? field left = Json.present? field right) →
      ofDocument id (.obj left) = ofDocument id (.obj right)) ∧
    ∀ source record, ofDocument id source = .ok record → Founded source record := by
  refine ⟨fun record h => ofDocument_toDocument h, fun source record h => ?_,
    fun left right h => ofDocument_congr id h, fun source record h => founded_of_ofDocument h⟩
  rw [← id_of_ofDocument h]
  exact ofDocument_toDocument (exact_of_ofDocument h)

/-- The last change was before the epoch, the state stands in an object, and the tenant is
`null`. -/
theorem documents_faithful_of_state_in_object :
    let id : ModelId := ⟨"m"⟩
    let record : ModelRecord := ⟨id, none, .deployed, 2, 0, some (.ofMillis (-1))⟩
    let state : Json := .obj [("DEPLOYED", .null)]
    let left : List (String × Json) := [("last_updated_time", .int (-1)), ("model_state", state),
      ("name", .str "x"), ("planning_worker_node_count", .int 2), ("tenant_id", .null)]
    let right : List (String × Json) := [("current_worker_node_count", .null),
      ("last_updated_time", .int (-1)), ("model_state", state),
      ("planning_worker_node_count", .int 2)]
    ((∀ t ∈ record.updated, t.Exact) ∧ ofDocument id (.obj left) = .ok record ∧
      ∀ field ∈ fieldNames, Json.present? field left = Json.present? field right) ∧
    ofDocument record.id record.toDocument = .ok record ∧
    ofDocument id record.toDocument = .ok record ∧
    ofDocument id (.obj left) = ofDocument id (.obj right) ∧ Founded (.obj left) record := by
  intro id record state left right
  have hexact : ∀ t ∈ record.updated, t.Exact := by
    rintro t ⟨⟩
    decide
  have hread : ofDocument id (.obj left) = .ok record := rfl
  have hsame : ∀ field ∈ fieldNames, Json.present? field left = Json.present? field right := by
    simp only [fieldNames, List.forall_mem_cons]
    exact ⟨rfl, rfl, rfl, rfl, rfl, nofun⟩
  obtain ⟨hback, hagain, halike, hfounded⟩ := documents_faithful id
  exact ⟨⟨hexact, hread, hsame⟩, hback record hexact, hagain _ record hread,
    halike left right hsame, hfounded _ record hread⟩

end ModelRecord

/-! ### The record of the master key -/

namespace KeyRecord

open Document

/-- The record of the key is read back from its document, to the millisecond. -/
theorem ofDocument_toDocument {record : KeyRecord} (hk : record.masterKey ≠ "")
    (hd : record.created.Dated) :
    ofDocument record.toDocument =
      .ok { record with created := .ofMillis record.created.millis } := by
  let members : List (String × Json) :=
    [(keyField, .str record.masterKey), (createdField, .int record.created.millis)]
  have hn : (members.map (·.1)).Nodup := by simp [members, keyField, createdField]
  have hkey : readText keyField (Entries.ofList members) = .ok (some record.masterKey) :=
    readText_of_present? (Json.present?_ofList_of_mem hn (by simp [members]) nofun)
  have hcreated : readMillis createdField (Entries.ofList members) =
      .ok (some (.ofMillis record.created.millis)) :=
    readMillis_of_present? (Json.present?_ofList_of_mem hn (by simp [members]) nofun) hd.ofMillis?
  show ofDocument (.obj (Entries.ofList members)) = _
  simp only [ofDocument, hkey, hcreated]
  simp [hk, demand, bind, Except.bind, pure, Except.pure, Option.filter]

end KeyRecord

end ModelFleet
