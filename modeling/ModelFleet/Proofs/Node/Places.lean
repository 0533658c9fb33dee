import Mathlib.Logic.Basic
import ModelFleet.Node.Placement

/-!
# Placements without empty places

A placement is occupied if everything that has an entry in it is on some node.  What the operations
on placements make of an occupied one is occupied again, and two such placements are equal if the
same things are on the same nodes (`ext_of_occupied`).
-/

namespace ModelFleet

namespace Placement

variable {kind : Kind} {p q : Placement kind}

/-- Everything that has a place is on some node. -/
def Occupied (p : Placement kind) : Prop :=
  ∀ name nodes, p.get? name = some nodes → ∃ n, n ∈ nodes

theorem occupied_empty : Occupied (∅ : Placement kind) := by
  intro name nodes hn
  cases hn

theorem occupied_addOne (h : p.Occupied) (node : NodeId) (name : Name kind) :
    Occupied (addOne node p name) := by
  intro other nodes hn
  rw [addOne, SortedMap.get?_insert] at hn
  by_cases he : other = name
  · rw [if_pos he] at hn
    obtain rfl := Option.some.inj hn
    exact ⟨node, SortedSet.mem_insert.2 (.inl rfl)⟩
  · rw [if_neg he] at hn
    exact h other nodes hn

theorem occupied_add (h : p.Occupied) (node : NodeId) (names : SortedSet (Name kind)) :
    Occupied (p.add node names) := by
  unfold add
  induction names.toList generalizing p with
  | nil => exact h
  | cons name rest ih => exact ih (occupied_addOne h node name)

theorem ext_of_occupied (hp : p.Occupied) (hq : q.Occupied)
    (h : ∀ name n, n ∈ p.nodesOf name ↔ n ∈ q.nodesOf name) : p = q := by
  refine SortedMap.ext_get? fun name => ?_
  have hnodes : p.nodesOf name = q.nodesOf name := SortedSet.ext_mem (h name)
  unfold nodesOf at hnodes
  cases hpn : p.get? name with
  | none =>
    cases hqn : q.get? name with
    | none => rfl
    | some nodes =>
      obtain ⟨n, hn⟩ := hq name nodes hqn
      rw [hpn, hqn] at hnodes
      obtain rfl : ∅ = nodes := hnodes
      exact absurd hn (SortedSet.not_mem_empty n)
  | some nodes =>
    cases hqn : q.get? name with
    | none =>
      obtain ⟨n, hn⟩ := hp name nodes hpn
      rw [hpn, hqn] at hnodes
      obtain rfl : nodes = ∅ := hnodes
      exact absurd hn (SortedSet.not_mem_empty n)
    | some nodes' =>
      rw [hpn, hqn] at hnodes
      exact congrArg some hnodes

theorem occupied_filter (h : p.Occupied) (test : Name kind → SortedSet NodeId → Bool) :
    Occupied (p.filter test) := by
  intro name nodes hn
  rw [SortedMap.get?_filter, Option.filter_eq_some_iff] at hn
  exact h name nodes hn.1

theorem mem_nodesOf_filter {test : Name kind → Bool} {name : Name kind} {n : NodeId} :
    n ∈ nodesOf (p.filter fun name _ => test name) name ↔
      n ∈ p.nodesOf name ∧ test name = true := by
  unfold nodesOf
  rw [SortedMap.get?_filter]
  cases p.get? name with
  | none => simp
  | some nodes => by_cases ht : test name = true <;> simp [Option.filter_some, ht]

theorem occupied_removeOne (h : p.Occupied) (node : NodeId) (name : Name kind) :
    Occupied (removeOne node p name) := by
  unfold removeOne
  split
  · exact h
  · next nodes hn =>
    simp only
    split
    · intro other places ho
      rw [SortedMap.get?_erase] at ho
      split at ho
      · cases ho
      · exact h other places ho
    · next he =>
      intro other places ho
      rw [SortedMap.get?_insert] at ho
      split at ho
      · obtain rfl := Option.some.inj ho
        rw [SortedSet.isEmpty_iff] at he
        exact not_forall_not.1 he
      · exact h other places ho

theorem occupied_remove (h : p.Occupied) (node : NodeId) (names : SortedSet (Name kind)) :
    Occupied (p.remove node names) := by
  unfold remove
  induction names.toList generalizing p with
  | nil => exact h
  | cons name rest ih => exact ih (occupied_removeOne h node name)

end Placement

end ModelFleet
