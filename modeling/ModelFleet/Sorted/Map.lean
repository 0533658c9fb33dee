import ModelFleet.Sorted.Entries

/-!
# Maps in the order of their keys

`SortedMap κ ν` is a finite map together with the proof that its entries stand in increasing order
of their keys.  Two maps with the same lookups are therefore equal (`ext_get?`), and the order in
which entries are shown is part of the type.
-/

namespace ModelFleet

/-- A finite map, kept as its list of entries in increasing order of the keys. -/
structure SortedMap (κ ν : Type) [Ord κ] where
  entries : List (κ × ν)
  sorted : Entries.Sorted entries

namespace SortedMap

variable {κ ν : Type} [Ord κ]

instance [DecidableEq κ] [DecidableEq ν] : DecidableEq (SortedMap κ ν) := fun a b =>
  if h : a.entries = b.entries then
    isTrue (by cases a; cases b; simp_all)
  else isFalse fun e => h (e ▸ rfl)

def empty : SortedMap κ ν := ⟨[], .nil⟩

instance : EmptyCollection (SortedMap κ ν) := ⟨empty⟩
instance : Inhabited (SortedMap κ ν) := ⟨empty⟩

/-- The keys, in increasing order. -/
def keys (m : SortedMap κ ν) : List κ := m.entries.map (·.1)

def size (m : SortedMap κ ν) : Nat := m.entries.length

def filter (p : κ → ν → Bool) (m : SortedMap κ ν) : SortedMap κ ν :=
  ⟨m.entries.filter fun e => p e.1 e.2, m.sorted.filter _⟩

variable [DecidableEq κ]

def get? (m : SortedMap κ ν) (key : κ) : Option ν := Entries.get? key m.entries

def contains (m : SortedMap κ ν) (key : κ) : Bool := (m.get? key).isSome

def erase (m : SortedMap κ ν) (key : κ) : SortedMap κ ν :=
  ⟨Entries.erase key m.entries, Entries.erase_sorted key m.sorted⟩

variable [Std.TransOrd κ] [Std.LawfulEqOrd κ]

/-- Puts a value under a key, in place of an earlier one. -/
def insert (m : SortedMap κ ν) (key : κ) (value : ν) : SortedMap κ ν :=
  ⟨Entries.insert key value m.entries, Entries.insert_sorted key value m.sorted⟩

/-- The map of a list of entries; of two entries with one key the later one counts. -/
def ofList (entries : List (κ × ν)) : SortedMap κ ν :=
  ⟨Entries.ofList entries, Entries.ofList_sorted entries⟩

/-! ### Lookups -/

omit [Std.TransOrd κ] [Std.LawfulEqOrd κ] in
@[simp] theorem get?_empty (key : κ) : (∅ : SortedMap κ ν).get? key = none := rfl

@[simp] theorem get?_insert_self (m : SortedMap κ ν) (key : κ) (value : ν) :
    (m.insert key value).get? key = some value :=
  Entries.get?_insert_self key value m.entries

theorem get?_insert (m : SortedMap κ ν) (key other : κ) (value : ν) :
    (m.insert key value).get? other = if other = key then some value else m.get? other :=
  Entries.get?_insert key other value m.entries

omit [Std.TransOrd κ] [Std.LawfulEqOrd κ] in
theorem get?_erase (m : SortedMap κ ν) (key other : κ) :
    (m.erase key).get? other = if other = key then none else m.get? other := by
  by_cases h : other = key
  · subst h; simp [get?, erase]
  · simpa [get?, erase, h] using Entries.get?_erase_of_ne h m.entries

omit [Std.LawfulEqOrd κ] in
theorem get?_eq_some_iff {m : SortedMap κ ν} {key : κ} {value : ν} :
    m.get? key = some value ↔ (key, value) ∈ m.entries :=
  Entries.get?_eq_some_iff m.sorted

omit [Std.LawfulEqOrd κ] in
theorem get?_filter (m : SortedMap κ ν) (p : κ → ν → Bool) (key : κ) :
    (m.filter p).get? key = (m.get? key).filter (p key) := by
  refine Option.ext fun value => ?_
  simp only [Option.filter_eq_some_iff, get?_eq_some_iff]
  simp [filter]

theorem ext_get? {a b : SortedMap κ ν} (h : ∀ key, a.get? key = b.get? key) : a = b := by
  cases a; cases b
  congr
  exact Entries.eq_of_get? ‹_› ‹_› h

end SortedMap

end ModelFleet
