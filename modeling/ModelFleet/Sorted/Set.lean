import ModelFleet.Sorted.Entries

/-!
# Sets in increasing order

`SortedSet α` is a finite set together with the proof that its elements stand in increasing order,
so a set is known by its elements (`ext_mem`) and is always shown in the same order.
-/

namespace ModelFleet

/-- A finite set, kept as the list of its elements in increasing order. -/
structure SortedSet (α : Type) [Ord α] where
  toList : List α
  sorted : toList.Pairwise fun a b => compare a b = .lt

namespace SortedSet

variable {α : Type} [Ord α]

instance [DecidableEq α] : DecidableEq (SortedSet α) := fun a b =>
  if h : a.toList = b.toList then
    isTrue (by cases a; cases b; simp_all)
  else isFalse fun e => h (e ▸ rfl)

instance : Membership α (SortedSet α) := ⟨fun s a => a ∈ s.toList⟩

instance [DecidableEq α] (a : α) (s : SortedSet α) : Decidable (a ∈ s) :=
  inferInstanceAs (Decidable (a ∈ s.toList))

def empty : SortedSet α := ⟨[], .nil⟩

instance : EmptyCollection (SortedSet α) := ⟨empty⟩
instance : Inhabited (SortedSet α) := ⟨empty⟩

def size (s : SortedSet α) : Nat := s.toList.length

def isEmpty (s : SortedSet α) : Bool := s.toList.isEmpty

def filter (p : α → Bool) (s : SortedSet α) : SortedSet α :=
  ⟨s.toList.filter p, s.sorted.filter _⟩

variable [DecidableEq α]

def erase (s : SortedSet α) (a : α) : SortedSet α := s.filter (· ≠ a)

/-- Whether each element is one of `t`. -/
def isSubset (s t : SortedSet α) : Bool := s.toList.all (· ∈ t)

def insertList (a : α) : List α → List α
  | [] => [a]
  | b :: rest =>
    if a = b then b :: rest
    else if compare a b = .lt then a :: b :: rest
    else b :: insertList a rest

theorem mem_insertList {a b : α} {l : List α} : b ∈ insertList a l ↔ b = a ∨ b ∈ l := by
  induction l with
  | nil => simp [insertList]
  | cons c rest ih =>
    rw [insertList]
    split
    · next h => subst h; simp
    · split
      · simp
      · simp [ih, or_left_comm]

variable [Std.TransOrd α] [Std.LawfulEqOrd α]

theorem insertList_sorted (a : α) {l : List α} (h : l.Pairwise fun a b => compare a b = .lt) :
    (insertList a l).Pairwise fun a b => compare a b = .lt := by
  induction l with
  | nil => simp [insertList]
  | cons b rest ih =>
    obtain ⟨hb, hrest⟩ := List.pairwise_cons.1 h
    rw [insertList]
    split
    · exact h
    · next hne =>
      split
      · next hlt =>
        refine List.pairwise_cons.2 ⟨fun c hc => ?_, h⟩
        rcases List.mem_cons.1 hc with rfl | hc
        · exact hlt
        · exact Std.TransCmp.lt_trans hlt (hb c hc)
      · next hlt =>
        refine List.pairwise_cons.2 ⟨fun c hc => ?_, ih hrest⟩
        rcases mem_insertList.1 hc with rfl | hc
        · exact Entries.compare_eq_gt hne hlt
        · exact hb c hc

def insert (s : SortedSet α) (a : α) : SortedSet α :=
  ⟨insertList a s.toList, insertList_sorted a s.sorted⟩

def ofList (l : List α) : SortedSet α := l.foldl insert ∅

def union (s t : SortedSet α) : SortedSet α := t.toList.foldl insert s

instance : Union (SortedSet α) := ⟨union⟩

/-! ### Elements -/

omit [DecidableEq α] [Std.TransOrd α] [Std.LawfulEqOrd α] in
theorem mem_def {a : α} {s : SortedSet α} : a ∈ s ↔ a ∈ s.toList := Iff.rfl

omit [DecidableEq α] [Std.TransOrd α] [Std.LawfulEqOrd α] in
@[simp] theorem not_mem_empty (a : α) : a ∉ (∅ : SortedSet α) := List.not_mem_nil

@[simp] theorem mem_insert {a b : α} {s : SortedSet α} : b ∈ s.insert a ↔ b = a ∨ b ∈ s :=
  mem_insertList

omit [DecidableEq α] [Std.TransOrd α] [Std.LawfulEqOrd α] in
@[simp] theorem mem_filter {a : α} {p : α → Bool} {s : SortedSet α} :
    a ∈ s.filter p ↔ a ∈ s ∧ p a = true :=
  List.mem_filter

omit [Std.TransOrd α] [Std.LawfulEqOrd α] in
@[simp] theorem mem_erase {a b : α} {s : SortedSet α} : b ∈ s.erase a ↔ b ∈ s ∧ b ≠ a := by
  simp [erase]

omit [Std.TransOrd α] [Std.LawfulEqOrd α] in
theorem isSubset_iff {s t : SortedSet α} : s.isSubset t = true ↔ ∀ a ∈ s, a ∈ t := by
  simp [isSubset, mem_def]

theorem mem_foldl_insert {a : α} {l : List α} {s : SortedSet α} :
    a ∈ l.foldl insert s ↔ a ∈ s ∨ a ∈ l := by
  induction l generalizing s with
  | nil => simp
  | cons b rest ih => simp [ih, or_assoc, or_left_comm]

@[simp] theorem mem_ofList {a : α} {l : List α} : a ∈ ofList l ↔ a ∈ l := by
  simp [ofList, mem_foldl_insert]

@[simp] theorem mem_union {a : α} {s t : SortedSet α} : a ∈ s ∪ t ↔ a ∈ s ∨ a ∈ t :=
  mem_foldl_insert

omit [DecidableEq α] [Std.TransOrd α] [Std.LawfulEqOrd α] in
theorem isEmpty_iff {s : SortedSet α} : s.isEmpty = true ↔ ∀ a, a ∉ s := by
  simp [isEmpty, mem_def, List.eq_nil_iff_forall_not_mem]

theorem ext_mem {s t : SortedSet α} (h : ∀ a, a ∈ s ↔ a ∈ t) : s = t := by
  obtain ⟨l, hl⟩ := s
  obtain ⟨r, hr⟩ := t
  suffices l = r by subst this; rfl
  have hu : ∀ a, (∃ u : Unit, (a, u) ∈ l.map (·, ())) ↔ ∃ u : Unit, (a, u) ∈ r.map (·, ()) := by
    intro a
    have := h a
    simp_all [mem_def]
  have hl' : Entries.Sorted (l.map (·, ())) := List.pairwise_map.2 hl
  have hr' : Entries.Sorted (r.map (·, ())) := List.pairwise_map.2 hr
  have := Entries.eq_of_get? hl' hr' fun key => by
    refine Option.ext fun _ => ?_
    rw [Entries.get?_eq_some_iff hl', Entries.get?_eq_some_iff hr']
    simpa using hu key
  simpa [Function.comp_def] using congrArg (List.map (·.1)) this

end SortedSet

end ModelFleet
