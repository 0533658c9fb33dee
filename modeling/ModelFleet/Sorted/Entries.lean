/-!
# Lists of entries in the order of their keys

A finite map is written as the list of its entries, each key once, in increasing order.  This file
holds the three operations on such lists, `get?`, `insert` and `erase`, and what they do to a
lookup.  `get?_insert` and `get?_erase` hold of every list of entries, in order or not; the order
matters only for `insert_sorted` (an insertion keeps it) and for `eq_of_get?` (two lists in order
with the same lookups are the same list).
-/

namespace ModelFleet.Entries

variable {κ ν : Type} [Ord κ] [DecidableEq κ]

/-- Strictly increasing keys: the order in which a map is written down. -/
abbrev Sorted (entries : List (κ × ν)) : Prop :=
  entries.Pairwise fun a b => compare a.1 b.1 = .lt

omit [Ord κ] in
def get? (key : κ) : List (κ × ν) → Option ν
  | [] => none
  | (k, v) :: rest => if key = k then some v else get? key rest

/-- Puts a value under a key, in the place where the order wants it; an entry of that key is
replaced. -/
def insert (key : κ) (value : ν) : List (κ × ν) → List (κ × ν)
  | [] => [(key, value)]
  | (k, v) :: rest =>
    if key = k then (key, value) :: rest
    else if compare key k = .lt then (key, value) :: (k, v) :: rest
    else (k, v) :: insert key value rest

omit [Ord κ] in
def erase (key : κ) (entries : List (κ × ν)) : List (κ × ν) :=
  entries.filter fun entry => entry.1 ≠ key

/-- Inserts entries one after the other, so that the last one of a key stays. -/
def ofList (entries : List (κ × ν)) : List (κ × ν) :=
  entries.foldl (fun acc entry => insert entry.1 entry.2 acc) []

/-! ### Lookups -/

omit [Ord κ] in
@[simp] theorem get?_nil (key : κ) : get? key ([] : List (κ × ν)) = none := rfl

omit [Ord κ] in
theorem get?_cons (key k : κ) (v : ν) (rest : List (κ × ν)) :
    get? key ((k, v) :: rest) = if key = k then some v else get? key rest := rfl

@[simp] theorem get?_insert_self (key : κ) (value : ν) (entries : List (κ × ν)) :
    get? key (insert key value entries) = some value := by
  induction entries with
  | nil => simp [insert, get?]
  | cons entry rest ih =>
    rw [insert]
    split
    · simp [get?]
    · split <;> simp_all [get?]

theorem get?_insert_of_ne {key other : κ} (h : other ≠ key) (value : ν)
    (entries : List (κ × ν)) : get? other (insert key value entries) = get? other entries := by
  induction entries with
  | nil => simp [insert, get?, h]
  | cons entry rest ih =>
    rw [insert]
    split
    · next hk => subst hk; simp [get?, h]
    · split <;> simp [get?, h, ih]

theorem get?_insert (key other : κ) (value : ν) (entries : List (κ × ν)) :
    get? other (insert key value entries)
      = if other = key then some value else get? other entries := by
  by_cases h : other = key
  · subst h; simp
  · simp [h, get?_insert_of_ne h]

omit [Ord κ] in
@[simp] theorem get?_erase_self (key : κ) (entries : List (κ × ν)) :
    get? key (erase key entries) = none := by
  induction entries with
  | nil => rfl
  | cons entry rest ih =>
    by_cases h : entry.1 = key <;> simp_all [erase, get?, eq_comm]

omit [Ord κ] in
theorem get?_erase_of_ne {key other : κ} (h : other ≠ key) (entries : List (κ × ν)) :
    get? other (erase key entries) = get? other entries := by
  induction entries with
  | nil => rfl
  | cons entry rest ih =>
    by_cases hk : entry.1 = key
    · have : other ≠ entry.1 := fun e => h (e.trans hk)
      simp_all [erase, get?]
    · simp_all [erase, get?]

omit [Ord κ] in
theorem mem_of_get? {key : κ} {value : ν} {entries : List (κ × ν)}
    (h : get? key entries = some value) : (key, value) ∈ entries := by
  induction entries with
  | nil => simp at h
  | cons entry rest ih =>
    obtain ⟨k, v⟩ := entry
    rw [get?_cons] at h
    split at h
    · simp_all
    · exact List.mem_cons_of_mem _ (ih h)

/-! ### Order -/

theorem mem_insert {key : κ} {value : ν} {entry : κ × ν} {entries : List (κ × ν)}
    (h : entry ∈ insert key value entries) : entry = (key, value) ∨ entry ∈ entries := by
  induction entries with
  | nil => simpa [insert] using h
  | cons head rest ih =>
    rw [insert] at h
    split at h
    · rcases List.mem_cons.1 h with h | h
      · exact Or.inl h
      · exact Or.inr (List.mem_cons_of_mem _ h)
    · split at h
      · rcases List.mem_cons.1 h with h | h
        · exact Or.inl h
        · exact Or.inr h
      · rcases List.mem_cons.1 h with h | h
        · exact Or.inr (h ▸ List.mem_cons_self)
        · exact (ih h).imp id (List.mem_cons_of_mem _)

variable [Std.TransOrd κ] [Std.LawfulEqOrd κ]

omit [DecidableEq κ] in
theorem compare_eq_gt {a b : κ} (hne : a ≠ b) (hlt : compare a b ≠ .lt) :
    compare b a = .lt := by
  have heq : compare a b ≠ .eq := fun e => hne (Std.LawfulEqCmp.eq_of_compare e)
  have hgt : compare a b = .gt := by
    cases h : compare a b with
    | lt => exact absurd h hlt
    | eq => exact absurd h heq
    | gt => rfl
  exact Std.OrientedCmp.lt_of_gt hgt

theorem insert_sorted (key : κ) (value : ν) {entries : List (κ × ν)} (h : Sorted entries) :
    Sorted (insert key value entries) := by
  induction entries with
  | nil => simp [insert, Sorted]
  | cons head rest ih =>
    obtain ⟨k, v⟩ := head
    obtain ⟨hhead, hrest⟩ := List.pairwise_cons.1 h
    rw [insert]
    split
    · next hk => subst hk; exact List.pairwise_cons.2 ⟨hhead, hrest⟩
    · next hk =>
      split
      · next hlt =>
        refine List.pairwise_cons.2 ⟨fun entry hm => ?_, h⟩
        rcases List.mem_cons.1 hm with rfl | hm
        · exact hlt
        · exact Std.TransCmp.lt_trans hlt (hhead entry hm)
      · next hlt =>
        refine List.pairwise_cons.2 ⟨fun entry hm => ?_, ih hrest⟩
        rcases mem_insert hm with rfl | hm
        · exact compare_eq_gt hk hlt
        · exact hhead entry hm

omit [Std.TransOrd κ] [Std.LawfulEqOrd κ] in
theorem erase_sorted (key : κ) {entries : List (κ × ν)} (h : Sorted entries) :
    Sorted (erase key entries) :=
  h.filter _

theorem ofList_sorted (entries : List (κ × ν)) : Sorted (ofList entries) := by
  unfold ofList
  suffices ∀ acc : List (κ × ν), Sorted acc →
      Sorted (entries.foldl (fun acc entry => insert entry.1 entry.2 acc) acc) from
    this [] List.Pairwise.nil
  induction entries with
  | nil => exact fun acc h => h
  | cons entry rest ih => exact fun acc h => ih _ (insert_sorted _ _ h)

omit [DecidableEq κ] [Std.LawfulEqOrd κ] in
theorem ne_of_compare_lt {a b : κ} (h : compare a b = .lt) : a ≠ b := by
  rintro rfl
  simp [Std.ReflCmp.compare_self] at h

omit [Std.LawfulEqOrd κ] in
/-- In a list in order no key stands twice, so membership is a lookup. -/
theorem get?_eq_some_iff {entries : List (κ × ν)} (h : Sorted entries) {key : κ} {value : ν} :
    get? key entries = some value ↔ (key, value) ∈ entries := by
  refine ⟨mem_of_get?, fun hm => ?_⟩
  induction entries with
  | nil => simp at hm
  | cons head rest ih =>
    obtain ⟨k, v⟩ := head
    obtain ⟨hhead, hrest⟩ := List.pairwise_cons.1 h
    rw [get?_cons]
    rcases List.mem_cons.1 hm with he | hm
    · simp_all
    · have : key ≠ k := (ne_of_compare_lt (hhead _ hm)).symm
      rw [if_neg this]
      exact ih hrest hm

/-- Two lists in order that answer every lookup alike are the same list. -/
theorem eq_of_get? {left right : List (κ × ν)} (hl : Sorted left) (hr : Sorted right)
    (h : ∀ key, get? key left = get? key right) : left = right := by
  induction left generalizing right with
  | nil =>
    cases right with
    | nil => rfl
    | cons entry rest =>
      have := h entry.1
      simp [get?] at this
  | cons entry rest ih =>
    obtain ⟨k, v⟩ := entry
    cases right with
    | nil =>
      have := h k
      simp [get?] at this
    | cons entry' rest' =>
      obtain ⟨k', v'⟩ := entry'
      obtain ⟨hhead, hrest⟩ := List.pairwise_cons.1 hl
      obtain ⟨hhead', hrest'⟩ := List.pairwise_cons.1 hr
      have hk : k = k' := by
        refine Classical.byContradiction fun hne => ?_
        have h1 := h k
        rw [get?_cons, if_pos rfl, get?_cons, if_neg hne] at h1
        have hm := mem_of_get? h1.symm
        have h2 := h k'
        rw [get?_cons, if_neg (Ne.symm hne), get?_cons, if_pos rfl] at h2
        have hm' := mem_of_get? h2
        have a := hhead' _ hm
        have b := hhead _ hm'
        have c := Std.TransCmp.lt_trans a b
        simp [Std.ReflCmp.compare_self] at c
      subst hk
      have hv := h k
      rw [get?_cons, if_pos rfl, get?_cons, if_pos rfl] at hv
      cases hv
      refine congrArg _ (ih hrest hrest' fun key => ?_)
      by_cases hkey : key = k
      · subst hkey
        have e : ∀ r : List (κ × ν), (∀ x ∈ r, compare key x.1 = .lt) → get? key r = none := by
          intro r hr
          cases hg : get? key r with
          | none => rfl
          | some w =>
            have := hr _ (mem_of_get? hg)
            simp [Std.ReflCmp.compare_self] at this
        rw [e _ hhead, e _ hhead']
      · have := h key
        rwa [get?_cons, if_neg hkey, get?_cons, if_neg hkey] at this

end ModelFleet.Entries
