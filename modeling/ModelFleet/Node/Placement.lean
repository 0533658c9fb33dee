import ModelFleet.Node.Report

/-!
# Placements

A placement says on which nodes each of several things is found.  Operations on it are described
through membership: `mem_at_add` and `mem_at_remove` say which nodes a thing has afterwards.
-/

namespace ModelFleet

/-- The nodes on which each of several things is found. -/
abbrev Placement (kind : Kind) := SortedMap (Name kind) (SortedSet NodeId)

namespace Placement

variable {kind : Kind}

def nodesOf (p : Placement kind) (name : Name kind) : SortedSet NodeId := (p.get? name).getD ∅

def addOne (node : NodeId) (p : Placement kind) (name : Name kind) : Placement kind :=
  p.insert name ((p.nodesOf name).insert node)

def add (p : Placement kind) (node : NodeId) (names : SortedSet (Name kind)) : Placement kind :=
  names.toList.foldl (addOne node) p

/-- Takes a thing from a node; a thing that is then nowhere is dropped. -/
def removeOne (node : NodeId) (p : Placement kind) (name : Name kind) : Placement kind :=
  match p.get? name with
  | none => p
  | some nodes =>
    let left := nodes.erase node
    if left.isEmpty then p.erase name else p.insert name left

def remove (p : Placement kind) (node : NodeId) (names : SortedSet (Name kind)) : Placement kind :=
  names.toList.foldl (removeOne node) p

def toJson (p : Placement kind) : Json :=
  .object (p.entries.map fun entry => (entry.1.text, entry.2.toJson))

def ofJson : Decoder (Placement kind) := Decode.map Name.mk SortedSet.ofJson

/-! ### Where things are -/

theorem nodesOf_addOne (node : NodeId) (p : Placement kind) (name other : Name kind) :
    (addOne node p name).nodesOf other =
      if other = name then (p.nodesOf name).insert node else p.nodesOf other := by
  by_cases h : other = name <;> simp [nodesOf, addOne, SortedMap.get?_insert, h]

theorem mem_at_addOne {node n : NodeId} {p : Placement kind} {name other : Name kind} :
    n ∈ (addOne node p name).nodesOf other ↔ n ∈ p.nodesOf other ∨ (other = name ∧ n = node) := by
  rw [nodesOf_addOne]
  by_cases h : other = name
  · subst h; simp [or_comm]
  · simp [h]

theorem mem_at_foldl_addOne {node n : NodeId} {names : List (Name kind)} {p : Placement kind}
    {other : Name kind} :
    n ∈ nodesOf (names.foldl (addOne node) p) other ↔
      n ∈ p.nodesOf other ∨ (other ∈ names ∧ n = node) := by
  induction names generalizing p with
  | nil => simp
  | cons name rest ih =>
    rw [List.foldl_cons, ih, mem_at_addOne]
    grind

/-- After `add` a node has a thing if it had it before or is the node and the thing is added. -/
theorem mem_at_add {node n : NodeId} {names : SortedSet (Name kind)} {p : Placement kind}
    {other : Name kind} :
    n ∈ nodesOf (p.add node names) other ↔ n ∈ p.nodesOf other ∨ (other ∈ names ∧ n = node) :=
  mem_at_foldl_addOne

theorem mem_at_removeOne {node n : NodeId} {p : Placement kind} {name other : Name kind} :
    n ∈ (removeOne node p name).nodesOf other ↔
      n ∈ p.nodesOf other ∧ ¬ (other = name ∧ n = node) := by
  unfold removeOne
  by_cases h : other = name
  · subst h
    split
    · next e => simp [nodesOf, e]
    · next nodes e =>
      have hn : p.nodesOf other = nodes := by simp [nodesOf, e]
      simp only
      split
      · next he =>
        rw [SortedSet.isEmpty_iff] at he
        have := he n
        rw [SortedSet.mem_erase] at this
        simp only [nodesOf, SortedMap.get?_erase, if_true, Option.getD_none,
          SortedSet.not_mem_empty, true_and, false_iff]
        rw [show (p.get? other).getD ∅ = nodes from hn]
        exact this
      · rw [show nodesOf (p.insert other (nodes.erase node)) other = nodes.erase node by
            simp [nodesOf], hn]
        simp
  · split
    · simp [h]
    · simp only
      split <;> simp [nodesOf, SortedMap.get?_erase, SortedMap.get?_insert, h]

theorem mem_at_foldl_removeOne {node n : NodeId} {names : List (Name kind)} {p : Placement kind}
    {other : Name kind} :
    n ∈ nodesOf (names.foldl (removeOne node) p) other ↔
      n ∈ p.nodesOf other ∧ ¬ (other ∈ names ∧ n = node) := by
  induction names generalizing p with
  | nil => simp
  | cons name rest ih =>
    rw [List.foldl_cons, ih, mem_at_removeOne]
    grind

/-- After `remove` a node has a thing if it had it before, unless it is the node and the thing is
removed. -/
theorem mem_at_remove {node n : NodeId} {names : SortedSet (Name kind)} {p : Placement kind}
    {other : Name kind} :
    n ∈ nodesOf (p.remove node names) other ↔
      n ∈ p.nodesOf other ∧ ¬ (other ∈ names ∧ n = node) :=
  mem_at_foldl_removeOne

end Placement

end ModelFleet
