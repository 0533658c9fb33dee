import Mathlib.Data.List.Induction
import ModelFleet.Json.Decode

/-!
# Reading back what was written

What the readers of `Json/Decode.lean` make of documents that were written member by member: lists
and sets (`Decode.set_of_items`), maps (`Decode.map_of_object`), records field by field
(`Fields.named_seq`), and values under a tag (`Decode.tagged_of_object`).
-/

namespace ModelFleet

/-! ### Entries -/

namespace Entries

variable {κ ν : Type} [DecidableEq κ]

theorem get?_eq_none {key : κ} {entries : List (κ × ν)} (h : key ∉ entries.map (·.1)) :
    get? key entries = none := by
  cases hg : get? key entries with
  | none => rfl
  | some value => exact absurd (List.mem_map_of_mem (mem_of_get? hg)) h

/-- Where no key stands twice, membership is a lookup. -/
theorem get?_of_mem {key : κ} {value : ν} {entries : List (κ × ν)}
    (h : (entries.map (·.1)).Nodup) (hm : (key, value) ∈ entries) :
    get? key entries = some value := by
  induction entries with
  | nil => cases hm
  | cons entry rest ih =>
    obtain ⟨hne, hrest⟩ := List.nodup_cons.1 h
    rw [get?_cons]
    rcases List.mem_cons.1 hm with rfl | hm
    · exact if_pos rfl
    · have hk : key ≠ entry.1 := by
        rintro rfl
        exact hne (List.mem_map.2 ⟨_, hm, rfl⟩)
      rw [if_neg hk, ih hrest hm]

theorem get?_append_singleton (key : κ) (entries : List (κ × ν)) (last : κ × ν) :
    get? key (entries ++ [last]) =
      (get? key entries).or (if key = last.1 then some last.2 else none) := by
  induction entries with
  | nil => rfl
  | cons entry rest ih =>
    rw [List.cons_append, get?_cons, get?_cons, ih]
    by_cases h : key = entry.1
    · rw [if_pos h, if_pos h, Option.some_or]
    · rw [if_neg h, if_neg h]

variable [Ord κ]

/-- Entries of which no two have the same key are all found. -/
theorem get?_ofList {entries : List (κ × ν)} (h : (entries.map (·.1)).Nodup) (key : κ) :
    get? key (ofList entries) = get? key entries := by
  induction entries using List.reverseRecOn with
  | nil => rfl
  | append_singleton entries last ih =>
    rw [List.map_append, List.nodup_append] at h
    obtain ⟨hn, -, hd⟩ := h
    have hlast : get? last.1 entries = none := get?_eq_none fun hm => hd _ hm last.1 (by simp) rfl
    rw [ofList, List.foldl_append]
    show get? key (insert last.1 last.2 (ofList entries)) = _
    rw [get?_insert, ih hn, get?_append_singleton]
    by_cases hk : key = last.1
    · rw [if_pos hk, if_pos hk, hk, hlast, Option.none_or]
    · rw [if_neg hk, if_neg hk, Option.or_none]

theorem mem_of_mem_ofList {entry : κ × ν} {entries : List (κ × ν)} (h : entry ∈ ofList entries) :
    entry ∈ entries := by
  induction entries using List.reverseRecOn with
  | nil => exact h
  | append_singleton entries last ih =>
    rw [ofList, List.foldl_append] at h
    rcases mem_insert (show entry ∈ insert last.1 last.2 (ofList entries) from h) with rfl | h
    · exact List.mem_append_right _ (List.mem_singleton_self _)
    · exact List.mem_append_left _ (ih h)

variable [Std.TransOrd κ] [Std.LawfulEqOrd κ]

omit [Std.LawfulEqOrd κ] [DecidableEq κ] in
theorem nodup_keys_of_sorted {entries : List (κ × ν)} (h : Sorted entries) :
    (entries.map (·.1)).Nodup :=
  List.pairwise_map.2 (h.imp fun hlt => ne_of_compare_lt hlt)

/-- Entries in order are what they are put together to. -/
theorem ofList_of_sorted {entries : List (κ × ν)} (h : Sorted entries) : ofList entries = entries :=
  eq_of_get? (ofList_sorted entries) h (get?_ofList (nodup_keys_of_sorted h))

/-- The first of some entries can be taken away again. -/
theorem erase_ofList_cons {entry : κ × ν} {rest : List (κ × ν)}
    (h : ((entry :: rest).map (·.1)).Nodup) :
    erase entry.1 (ofList (entry :: rest)) = ofList rest := by
  have hrest := List.nodup_cons.1 h
  refine eq_of_get? (erase_sorted _ (ofList_sorted _)) (ofList_sorted _) fun key => ?_
  rw [get?_ofList hrest.2]
  by_cases hk : key = entry.1
  · rw [hk, get?_erase_self, get?_eq_none hrest.1]
  · rw [get?_erase_of_ne hk, get?_ofList h, get?_cons, if_neg hk]

end Entries

namespace SortedMap

variable {κ ν : Type} [Ord κ] [DecidableEq κ] [Std.TransOrd κ] [Std.LawfulEqOrd κ]

theorem ofList_entries (m : SortedMap κ ν) : ofList m.entries = m := by
  obtain ⟨entries, sorted⟩ := m
  simp only [ofList, Entries.ofList_of_sorted sorted]

end SortedMap

namespace SortedSet

variable {α : Type} [Ord α] [DecidableEq α] [Std.TransOrd α] [Std.LawfulEqOrd α]

theorem ofList_toList (s : SortedSet α) : ofList s.toList = s :=
  ext_mem fun _ => mem_ofList

end SortedSet

/-! ### Lists, sets and maps -/

/-- What is read item by item as it was written. -/
theorem mapM_map_eq_ok {α β ε : Type} (write : α → β) (read : β → Except ε α)
    (h : ∀ a, read (write a) = .ok a) (l : List α) : (l.map write).mapM read = .ok l := by
  induction l with
  | nil => rfl
  | cons a rest ih =>
    rw [List.map_cons, List.mapM_cons, h, ih]
    rfl

namespace Decode

variable {α ν : Type} {item : Decoder α} {write : α → Json}

theorem list_of_items (h : ∀ a, item (write a) = .ok a) (l : List α) :
    list item (.arr (l.map write)) = .ok l := mapM_map_eq_ok write item h l

theorem set_of_items [Ord α] [DecidableEq α] [Std.TransOrd α] [Std.LawfulEqOrd α]
    (h : ∀ a, item (write a) = .ok a) (s : SortedSet α) :
    set item (.arr (s.toList.map write)) = .ok s := by
  rw [set, list_of_items h]
  exact congrArg Except.ok s.ofList_toList

theorem text_of_str (s : String) : text (.str s) = .ok s := rfl

theorem size_of_toNat (n : UInt64) : size (.int n.toNat) = .ok n := by
  have hn : n.toNat < 2 ^ 64 := n.toNat_lt
  simp [size, natural, hn]

theorem count64_of_toNat (n : UInt64) : count64 (.int n.toNat) = .ok n := by
  have hn : n.toNat < 2 ^ 64 := n.toNat_lt
  simp [count64, natural, hn]

theorem count32_of_toNat (n : UInt32) : count32 (.int n.toNat) = .ok n := by
  have hn : n.toNat < 2 ^ 32 := n.toNat_lt
  simp [count32, natural, hn]

theorem uuid_of_toString (u : Uuid) : uuid (.str u.toString) = .ok u := by
  rw [uuid, Uuid.parse_toString]
  rfl

end Decode

/-! ### Records -/

namespace Fields

variable {α β : Type} {members : List (String × Json)}

theorem named_map {fields : Fields α} {a : α} (f : α → β) (h : fields.named members = .ok a) :
    (f <$> fields).named members = .ok (f a) := congrArg (f <$> ·) h

theorem named_seq {left : Fields (α → β)} {right : Fields α} {f : α → β} {a : α}
    (hf : left.named members = .ok f) (ha : right.named members = .ok a) :
    (left <*> right).named members = .ok (f a) := by
  show (left.seq right).named members = _
  simp only [seq, hf, ha]

/-- A field that is among members of which no two have the same key. -/
theorem named_one {key : String} {item : Decoder α} {fallback filler : Option α} {value : Json}
    {a : α} (hn : (members.map (·.1)).Nodup) (hm : (key, value) ∈ members)
    (hi : item value = .ok a) :
    (one key item fallback filler).named (Entries.ofList members) = .ok a := by
  simp only [one, Entries.get?_ofList hn, Entries.get?_of_mem hn hm, hi]
  rfl

section One

variable {key : String} {item : Decoder α} {value : Json} {a : α}

theorem named_required (hn : (members.map (·.1)).Nodup) (hm : (key, value) ∈ members)
    (hi : item value = .ok a) : (required key item).named (Entries.ofList members) = .ok a :=
  named_one hn hm hi

theorem named_withDefault {default : α} (hn : (members.map (·.1)).Nodup)
    (hm : (key, value) ∈ members) (hi : item value = .ok a) :
    (withDefault key item default).named (Entries.ofList members) = .ok a :=
  named_one hn hm hi

theorem named_nullable {a : Option α} (hn : (members.map (·.1)).Nodup)
    (hm : (key, value) ∈ members) (hi : Decode.nullable item value = .ok a) :
    (nullable key item).named (Entries.ofList members) = .ok a :=
  named_one hn hm hi

end One

theorem ofMembers_of_named {fields : Fields α} {a : α} (h : fields.named members = .ok a) :
    fields.ofMembers members = .ok a := by
  rw [ofMembers, h]
  rfl

end Fields

namespace Decode

variable {α : Type}

/-- A value that is written with its tag beside its fields. -/
theorem tagged_of_object {title tag name : String} {variants : List (Variant α)}
    {variant : Variant α} {fields : Fields α} {members : List (String × Json)} {a : α}
    (hn : (((tag, Json.str name) :: members).map (·.1)).Nodup)
    (hv : variants.find? (·.name = name) = some variant) (hb : variant.body = .inr fields)
    (hf : fields.named (Entries.ofList members) = .ok a) :
    tagged title tag variants (.object ((tag, .str name) :: members)) = .ok a := by
  have htag : Entries.get? tag (Entries.ofList ((tag, Json.str name) :: members)) =
      some (.str name) := by
    rw [Entries.get?_ofList hn, Entries.get?_cons, if_pos rfl]
  have herase := Entries.erase_ofList_cons hn
  simp only [Json.object, tagged, htag, findTag, Variant.find, hv, herase]
  show variant.ofMembers _ = _
  rw [Variant.ofMembers, hb]
  exact Fields.ofMembers_of_named hf

/-- A value with fields that is written under its name. -/
theorem choice_of_object {name : String} {variants : List (Variant α)} {variant : Variant α}
    {fields : Fields α} {members : List (String × Json)} {a : α}
    (hv : variants.find? (·.name = name) = some variant) (hb : variant.body = .inr fields)
    (hf : fields.named (Entries.ofList members) = .ok a) :
    choice variants (.object [(name, .object members)]) = .ok a := by
  show (do (← Variant.find variants name).ofValue (.object members)) = _
  simp only [Variant.find, hv]
  show variant.ofValue (.object members) = _
  simp only [Variant.ofValue, hb, Json.object]
  exact Fields.ofMembers_of_named hf

/-- A value without fields that is written as its name. -/
theorem choice_of_name {name : String} {variants : List (Variant α)} {variant : Variant α} {a : α}
    (hv : variants.find? (·.name = name) = some variant) (hb : variant.body = .inl a) :
    choice variants (.str name) = .ok a := by
  simp only [choice, Variant.find, hv]
  show variant.ofName = _
  rw [Variant.ofName, hb]

end Decode

end ModelFleet
