import Mathlib.Data.List.Forall2
import ModelFleet.Proofs.Json.Reading
import ModelFleet.Proofs.Model.Rewrite

/-!
# What was read

`Proofs/Json/Reading.lean` says what readers make of documents that were written; here it is turned
round.  A record that was read tells what its fields were read from, whether they were named
(`Fields.named_seq_eq_ok_iff`) or listed (`Fields.exists_of_listed_seq`), and whether a record can
be read is a matter of each member for itself (`Fields.Tests`).
-/

namespace ModelFleet

/-! ### Results -/

theorem Except.mapError_eq_ok_iff {α δ ε : Type} {f : δ → ε} {x : Except δ α} {a : α} :
    x.mapError f = .ok a ↔ x = .ok a := by
  cases x <;> simp [Except.mapError]

theorem Except.map_eq_ok_iff {α β ε : Type} {f : α → β} {x : Except ε α} {b : β} :
    x.map f = .ok b ↔ ∃ a, x = .ok a ∧ f a = b := by
  cases x <;> simp [Except.map]

theorem Except.eq_ok_of_toOption {α ε : Type} {x : Except ε α} {a : α} (h : x.toOption = some a) :
    x = .ok a := by
  cases x with
  | ok => exact congrArg Except.ok (Option.some.inj h)
  | error => cases h

theorem forall₂_of_mapM {α β ε : Type} {f : α → Except ε β} {l : List α} {out : List β}
    (h : l.mapM f = .ok out) : List.Forall₂ (fun a b => f a = .ok b) l out := by
  induction l generalizing out with
  | nil =>
    cases h
    exact .nil
  | cons a rest ih =>
    rw [List.mapM_cons] at h
    obtain ⟨b, hb, h⟩ := Except.exists_of_bind h
    obtain ⟨bs, hbs, h⟩ := Except.exists_of_bind h
    cases h
    exact .cons hb (ih hbs)

/-- The items of two lists that are related item by item are related in every place. -/
theorem getElem?_of_forall₂ {α β : Type} {r : α → β → Prop} {l : List α} {out : List β}
    (h : List.Forall₂ r l out) (i : Nat) :
    (l[i]? = none ∧ out[i]? = none) ∨ ∃ a b, l[i]? = some a ∧ out[i]? = some b ∧ r a b := by
  induction h generalizing i with
  | nil => exact .inl ⟨rfl, rfl⟩
  | cons hr _ ih =>
    cases i with
    | zero => exact .inr ⟨_, _, rfl, rfl, hr⟩
    | succ i => exact ih i

section Keyed

variable {ι β ε : Type} {key : ι → String} {item : ι → Except ε (Option β)} {l : List ι}

/-- Results under their keys are found under them. -/
theorem get?_of_filterMapM {out : List (String × β)} (hn : (l.map key).Nodup)
    (h : l.filterMapM (fun i => (item i).map (·.map (key i, ·))) = .ok out) :
    (out.map (·.1)).Sublist (l.map key) ∧ ∀ i ∈ l, item i = .ok (Entries.get? (key i) out) := by
  induction l generalizing out with
  | nil =>
    cases h
    exact ⟨.refl _, nofun⟩
  | cons i rest ih =>
    obtain ⟨hi, hrest⟩ := List.nodup_cons.1 hn
    rw [List.filterMapM_cons] at h
    obtain ⟨found, hfound, h⟩ := Except.exists_of_bind h
    cases hitem : item i with
    | error e =>
      rw [hitem] at hfound
      cases hfound
    | ok value =>
      rw [hitem] at hfound
      cases hfound
      cases value with
      | none =>
        obtain ⟨hsub, hget⟩ := ih hrest h
        refine ⟨hsub.cons _, List.forall_mem_cons.2 ⟨?_, hget⟩⟩
        rw [hitem, Entries.get?_eq_none fun hm => hi (hsub.subset hm)]
      | some b =>
        obtain ⟨out', h', h⟩ := Except.exists_of_bind h
        cases h
        obtain ⟨hsub, hget⟩ := ih hrest h'
        refine ⟨hsub.cons_cons _, List.forall_mem_cons.2 ⟨?_, fun j hj => ?_⟩⟩
        · rw [hitem, Entries.get?_cons, if_pos rfl]
        · have hne : key j ≠ key i := fun he => hi (he ▸ List.mem_map_of_mem hj)
          rw [hget j hj, Entries.get?_cons, if_neg hne]

/-- Where each result can be had, all can. -/
theorem exists_of_forall_filterMapM (h : ∀ i ∈ l, ∃ found, item i = .ok found) :
    ∃ out, l.filterMapM (fun i => (item i).map (·.map (key i, ·))) = .ok out := by
  induction l with
  | nil => exact ⟨[], rfl⟩
  | cons i rest ih =>
    obtain ⟨⟨found, hfound⟩, hrest⟩ := List.forall_mem_cons.1 h
    obtain ⟨out, hout⟩ := ih hrest
    rw [List.filterMapM_cons, hfound]
    cases found with
    | none => exact ⟨out, hout⟩
    | some b =>
      refine ⟨(key i, b) :: out, ?_⟩
      show (rest.filterMapM (fun i => (item i).map (·.map (key i, ·))) >>= fun out =>
        .ok ((key i, b) :: out)) = _
      rw [hout]
      rfl

end Keyed

/-! ### Records -/

namespace Fields

variable {α β : Type} {members : List (String × Json)}

/-- A field with a default says what it is read from, or it is the default. -/
def Told (item : Decoder α) (fallback : α) : Option Json → α → Prop
  | .none, a => a = fallback
  | some value, a => item value = .ok a

theorem named_map_eq_ok_iff {fields : Fields α} {f : α → β} {b : β} :
    (f <$> fields).named members = .ok b ↔ ∃ a, fields.named members = .ok a ∧ f a = b := by
  show f <$> fields.named members = .ok b ↔ _
  cases fields.named members with
  | error e => exact ⟨nofun, nofun⟩
  | ok a => exact ⟨fun h => ⟨a, rfl, Except.ok.inj h⟩, fun ⟨_, ha, h⟩ => by cases ha; rw [← h]; rfl⟩

theorem named_seq_eq_ok_iff {left : Fields (α → β)} {right : Fields α} {b : β} :
    (left <*> right).named members = .ok b ↔
      ∃ f a, left.named members = .ok f ∧ right.named members = .ok a ∧ f a = b := by
  show (left.seq right).named members = .ok b ↔ _
  rw [seq]
  dsimp only
  cases left.named members <;> cases right.named members <;> simp

theorem named_withDefault_eq_ok_iff {key : String} {item : Decoder α} {fallback a : α} :
    (withDefault key item fallback).named members = .ok a ↔
      Told item fallback (Entries.get? key members) a := by
  rw [withDefault, one]
  dsimp only
  cases Entries.get? key members with
  | none => simp [Told, eq_comm]
  | some value =>
    simp only [Told]
    exact Except.mapError_eq_ok_iff

theorem exists_of_listed_map {fields : Fields α} {f : α → β} {expected : String} {position : Nat}
    {items rest : List Json} {b : β}
    (h : (f <$> fields).listed expected position items = .ok (b, rest)) :
    ∃ a, fields.listed expected position items = .ok (a, rest) ∧ f a = b := by
  obtain ⟨⟨a, mid⟩, ha, h⟩ := Except.exists_of_bind h
  cases h
  exact ⟨a, ha, rfl⟩

theorem exists_of_listed_seq {left : Fields (α → β)} {right : Fields α} {expected : String}
    {position : Nat} {items rest : List Json} {b : β}
    (h : (left <*> right).listed expected position items = .ok (b, rest)) :
    ∃ f a mid next, left.listed expected position items = .ok (f, mid) ∧
      right.listed expected next mid = .ok (a, rest) ∧ f a = b := by
  obtain ⟨⟨f, mid⟩, hf, h⟩ := Except.exists_of_bind h
  obtain ⟨⟨a, rest'⟩, ha, h⟩ := Except.exists_of_bind h
  cases h
  exact ⟨f, a, mid, _, hf, ha, rfl⟩

/-- A listed field with a default is read from the first item, if there is one. -/
theorem told_of_listed_withDefault {key : String} {item : Decoder α} {fallback a : α}
    {expected : String} {position : Nat} {items rest : List Json}
    (h : (withDefault key item fallback).listed expected position items = .ok (a, rest)) :
    Told item fallback items.head? a ∧ rest = items.tail := by
  cases items with
  | nil =>
    cases h
    exact ⟨rfl, rfl⟩
  | cons value items =>
    obtain ⟨a', ha, h⟩ := Except.exists_of_bind h
    cases h
    exact ⟨ha, rfl⟩

theorem ofMembers_eq_ok_iff {fields : Fields α} {a : α} :
    fields.ofMembers members = .ok a ↔ fields.named members = .ok a := by
  rw [ofMembers, Except.mapError_eq_ok_iff]

end Fields

namespace Decode

variable {α β : Type}

theorem exists_of_record_arr {title : String} {fields : Fields α} {items : List Json} {a : α}
    (h : record title fields (.arr items) = .ok a) :
    ∃ expected rest, fields.listed expected 0 items = .ok (a, rest) := by
  obtain ⟨⟨a', rest⟩, ha, h⟩ := Except.exists_of_bind h
  dsimp only at h
  split at h
  · cases h
    exact ⟨_, rest, ha⟩
  · cases h

/-- Whether an object can be read is decided by tests of single members. -/
def Tests (decoder : Decoder α) (tests : List (String × (Json → Prop))) : Prop :=
  ∀ members, (∃ a, decoder (.obj members) = .ok a) ↔
    ∀ test ∈ tests, ∀ value, Entries.get? test.1 members = some value → test.2 value

end Decode

namespace Fields

variable {α β : Type}

/-- Whether members can be read as fields is decided by tests of single members. -/
def Tests (fields : Fields α) (tests : List (String × (Json → Prop))) : Prop :=
  ∀ members, (∃ a, fields.named members = .ok a) ↔
    ∀ test ∈ tests, ∀ value, Entries.get? test.1 members = some value → test.2 value

theorem tests_withDefault (key : String) (item : Decoder α) (fallback : α) :
    Tests (withDefault key item fallback) [(key, fun value => ∃ a, item value = .ok a)] := by
  intro members
  simp only [named_withDefault_eq_ok_iff, List.mem_singleton, forall_eq]
  cases Entries.get? key members with
  | none =>
    refine iff_of_true ⟨fallback, rfl⟩ fun value h => ?_
    cases h
  | some value => simp [Told]

theorem Tests.map {fields : Fields α} {tests : List (String × (Json → Prop))} (f : α → β)
    (h : Tests fields tests) : Tests (f <$> fields) tests := by
  intro members
  rw [← h members]
  simp only [named_map_eq_ok_iff]
  constructor
  · rintro ⟨_, a, ha, -⟩
    exact ⟨a, ha⟩
  · rintro ⟨a, ha⟩
    exact ⟨f a, a, ha, rfl⟩

theorem Tests.seq {left : Fields (α → β)} {right : Fields α}
    {first second : List (String × (Json → Prop))} (hl : Tests left first)
    (hr : Tests right second) : Tests (left <*> right) (first ++ second) := by
  intro members
  simp only [named_seq_eq_ok_iff, List.forall_mem_append]
  rw [← hl members, ← hr members]
  constructor
  · rintro ⟨_, f, a, hf, ha, -⟩
    exact ⟨⟨f, hf⟩, a, ha⟩
  · rintro ⟨⟨f, hf⟩, a, ha⟩
    exact ⟨f a, f, a, hf, ha, rfl⟩

theorem Tests.record {fields : Fields α} {tests : List (String × (Json → Prop))}
    (h : Tests fields tests) (title : String) :
    Decode.Tests (Decode.record title fields) tests := by
  intro members
  rw [← h members]
  exact exists_congr fun _ => ofMembers_eq_ok_iff

end Fields

end ModelFleet
