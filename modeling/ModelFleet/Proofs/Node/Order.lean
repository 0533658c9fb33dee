import Mathlib.Data.List.Perm.Basic
import ModelFleet.Proofs.Node.Upkeep

/-!
# The order in which nodes are heard does not matter

What is done to a state in one round may be done in any order, and again, and the state is the same
(`Aggregate.order_irrelevant`): reports and failures in the first round, and models taken from nodes
in the second.  A permutation is made of exchanges of two neighbours, and two operations of one
round can be exchanged at every state (`Aggregate.act_comm`).  For placements this is read off what
becomes of a single entry (`Placement.get?_add`, `Placement.get?_remove`), also where an entry has
no nodes; for failures it rests on the fact that a node which has responded does not count as
failed, whether it failed before or after.
-/

namespace ModelFleet

namespace SortedSet

variable {α : Type} [Ord α] [DecidableEq α] [Std.TransOrd α] [Std.LawfulEqOrd α]

theorem insert_comm (s : SortedSet α) (a b : α) :
    (s.insert a).insert b = (s.insert b).insert a :=
  ext_mem fun _ => by simp only [mem_insert, or_left_comm]

theorem insert_insert_self (s : SortedSet α) (a : α) : (s.insert a).insert a = s.insert a :=
  ext_mem fun _ => by simp only [mem_insert, or_self_left]

theorem erase_comm (s : SortedSet α) (a b : α) : (s.erase a).erase b = (s.erase b).erase a :=
  ext_mem fun _ => by simp only [mem_erase, and_right_comm]

theorem erase_erase_self (s : SortedSet α) (a : α) : (s.erase a).erase a = s.erase a :=
  ext_mem fun _ => by simp only [mem_erase, and_assoc, and_self]

theorem erase_insert_self (s : SortedSet α) (a : α) : (s.insert a).erase a = s.erase a :=
  ext_mem fun b => by
    rw [mem_erase, mem_insert, mem_erase]
    exact and_congr_left fun hb => or_iff_right hb

theorem erase_insert_of_ne (s : SortedSet α) {a b : α} (h : a ≠ b) :
    (s.insert a).erase b = (s.erase b).insert a :=
  ext_mem fun c => by
    rw [mem_erase, mem_insert, mem_insert, mem_erase, or_and_right]
    refine or_congr_left (and_iff_left_of_imp ?_)
    rintro rfl
    exact h

end SortedSet

/-! ### What becomes of an entry -/

namespace Placement

variable {kind : Kind}

theorem get?_foldl_addOne (node : NodeId) (names : List (Name kind)) (p : Placement kind)
    (name : Name kind) :
    (names.foldl (addOne node) p).get? name =
      if name ∈ names then some ((p.nodesOf name).insert node) else p.get? name := by
  induction names generalizing p with
  | nil => rfl
  | cons first rest ih =>
    rw [List.foldl_cons, ih, nodesOf_addOne, addOne, SortedMap.get?_insert]
    by_cases he : name = first
    · subst he
      simp only [if_true, SortedSet.insert_insert_self, List.mem_cons_self, ite_self]
    · simp only [he, if_false, List.mem_cons, false_or]

/-- After `add` each thing that is added has one more node. -/
theorem get?_add (p : Placement kind) (node : NodeId) (names : SortedSet (Name kind))
    (name : Name kind) :
    (p.add node names).get? name =
      if name ∈ names then some ((p.nodesOf name).insert node) else p.get? name :=
  get?_foldl_addOne node names.toList p name

theorem nodesOf_add (p : Placement kind) (node : NodeId) (names : SortedSet (Name kind))
    (name : Name kind) :
    (p.add node names).nodesOf name =
      if name ∈ names then (p.nodesOf name).insert node else p.nodesOf name := by
  rw [nodesOf, get?_add]
  split
  · rfl
  · rfl

theorem add_comm (p : Placement kind) (node n : NodeId) (names others : SortedSet (Name kind)) :
    (p.add node names).add n others = (p.add n others).add node names := by
  refine SortedMap.ext_get? fun name => ?_
  simp only [get?_add, nodesOf_add]
  by_cases hn : name ∈ names
  · by_cases ho : name ∈ others
    · simp only [hn, ho, if_true, SortedSet.insert_comm _ node n]
    · simp only [hn, ho, if_true, if_false]
  · simp only [hn, if_false]

theorem add_add_self (p : Placement kind) (node : NodeId) (names : SortedSet (Name kind)) :
    (p.add node names).add node names = p.add node names := by
  refine SortedMap.ext_get? fun name => ?_
  simp only [get?_add, nodesOf_add]
  by_cases hn : name ∈ names
  · simp only [hn, if_true, SortedSet.insert_insert_self]
  · simp only [hn, if_false]

/-- The entry of a thing that is on these nodes: it has none if it is on no node. -/
def entryOf (nodes : SortedSet NodeId) : Option (SortedSet NodeId) :=
  if nodes.isEmpty then none else some nodes

/-- An entry from which a node is taken away. -/
def without (node : NodeId) (entry : Option (SortedSet NodeId)) : Option (SortedSet NodeId) :=
  entry.bind fun nodes => entryOf (nodes.erase node)

theorem without_entryOf (node : NodeId) (nodes : SortedSet NodeId) :
    without node (entryOf nodes) = entryOf (nodes.erase node) := by
  by_cases h : nodes.isEmpty = true
  · have he : (nodes.erase node).isEmpty = true := by
      rw [SortedSet.isEmpty_iff] at h ⊢
      exact fun n hn => h n (SortedSet.mem_erase.1 hn).1
    rw [entryOf, if_pos h, entryOf, if_pos he]
    rfl
  · rw [entryOf, if_neg h]
    rfl

theorem without_comm (node n : NodeId) (entry : Option (SortedSet NodeId)) :
    without n (without node entry) = without node (without n entry) := by
  cases entry with
  | none => rfl
  | some nodes =>
    show without n (entryOf (nodes.erase node)) = without node (entryOf (nodes.erase n))
    rw [without_entryOf, without_entryOf, SortedSet.erase_comm]

theorem without_without_self (node : NodeId) (entry : Option (SortedSet NodeId)) :
    without node (without node entry) = without node entry := by
  cases entry with
  | none => rfl
  | some nodes =>
    show without node (entryOf (nodes.erase node)) = entryOf (nodes.erase node)
    rw [without_entryOf, SortedSet.erase_erase_self]

theorem get?_removeOne (node : NodeId) (p : Placement kind) (name other : Name kind) :
    (removeOne node p name).get? other =
      if other = name then without node (p.get? name) else p.get? other := by
  unfold removeOne
  cases hp : p.get? name with
  | none =>
    by_cases h : other = name
    · rw [if_pos h, h, hp]
      rfl
    · rw [if_neg h]
  | some nodes =>
    show SortedMap.get? (if _ then _ else _) other = if _ then entryOf (nodes.erase node) else _
    unfold entryOf
    split
    · rw [SortedMap.get?_erase]
    · rw [SortedMap.get?_insert]

theorem get?_foldl_removeOne (node : NodeId) (names : List (Name kind)) (p : Placement kind)
    (name : Name kind) :
    (names.foldl (removeOne node) p).get? name =
      if name ∈ names then without node (p.get? name) else p.get? name := by
  induction names generalizing p with
  | nil => rfl
  | cons first rest ih =>
    rw [List.foldl_cons, ih, get?_removeOne]
    by_cases he : name = first
    · subst he
      simp only [if_true, without_without_self, List.mem_cons_self, ite_self]
    · simp only [he, if_false, List.mem_cons, false_or]

/-- After `remove` each thing that is removed has a node less, and no entry if it had no other. -/
theorem get?_remove (p : Placement kind) (node : NodeId) (names : SortedSet (Name kind))
    (name : Name kind) :
    (p.remove node names).get? name =
      if name ∈ names then without node (p.get? name) else p.get? name :=
  get?_foldl_removeOne node names.toList p name

theorem remove_comm (p : Placement kind) (node n : NodeId) (names others : SortedSet (Name kind)) :
    (p.remove node names).remove n others = (p.remove n others).remove node names := by
  refine SortedMap.ext_get? fun name => ?_
  simp only [get?_remove]
  by_cases hn : name ∈ names
  · by_cases ho : name ∈ others
    · simp only [hn, ho, if_true, without_comm node n]
    · simp only [hn, ho, if_true, if_false]
  · simp only [hn, if_false]

theorem remove_remove_self (p : Placement kind) (node : NodeId) (names : SortedSet (Name kind)) :
    (p.remove node names).remove node names = p.remove node names := by
  refine SortedMap.ext_get? fun name => ?_
  simp only [get?_remove]
  by_cases hn : name ∈ names
  · simp only [hn, if_true, without_without_self]
  · simp only [hn, if_false]

end Placement

namespace Aggregate

variable (state : Aggregate)

/-! ### Two operations of one round -/

theorem absorb_comm (report other : NodeReport) :
    (state.absorb report).absorb other = (state.absorb other).absorb report := by
  simp only [absorb, mk.injEq]
  exact ⟨Placement.add_comm .., Placement.add_comm .., Placement.add_comm ..,
    Placement.add_comm .., SortedSet.insert_comm .., SortedSet.erase_comm ..⟩

theorem absorb_absorb_self (report : NodeReport) :
    (state.absorb report).absorb report = state.absorb report := by
  simp only [absorb, mk.injEq]
  exact ⟨Placement.add_add_self .., Placement.add_add_self .., Placement.add_add_self ..,
    Placement.add_add_self .., SortedSet.insert_insert_self .., SortedSet.erase_erase_self ..⟩

variable {state} in
theorem markFailed_of_mem {node : NodeId} (h : node ∈ state.responded) :
    state.markFailed node = state := if_pos h

variable {state} in
theorem markFailed_of_not_mem {node : NodeId} (h : node ∉ state.responded) :
    state.markFailed node = { state with failed := state.failed.insert node } := if_neg h

theorem markFailed_comm (node other : NodeId) :
    (state.markFailed node).markFailed other = (state.markFailed other).markFailed node := by
  by_cases hn : node ∈ state.responded
  · have hn' : node ∈ (state.markFailed other).responded := by
      rwa [Gather.responded_markFailed]
    rw [markFailed_of_mem hn, markFailed_of_mem hn']
  · by_cases ho : other ∈ state.responded
    · have ho' : other ∈ (state.markFailed node).responded := by
        rwa [Gather.responded_markFailed]
      rw [markFailed_of_mem ho, markFailed_of_mem ho']
    · simp only [markFailed, hn, ho, if_false, SortedSet.insert_comm _ node other]

theorem markFailed_markFailed_self (node : NodeId) :
    (state.markFailed node).markFailed node = state.markFailed node := by
  by_cases hn : node ∈ state.responded
  · rw [markFailed_of_mem hn, markFailed_of_mem hn]
  · simp only [markFailed, hn, if_false, SortedSet.insert_insert_self]

/-- A failure is forgotten when the node's report comes, and not noted when it has come. -/
theorem markFailed_absorb (report : NodeReport) (node : NodeId) :
    (state.absorb report).markFailed node = (state.markFailed node).absorb report := by
  by_cases hn : node ∈ state.responded
  · have hn' : node ∈ (state.absorb report).responded := SortedSet.mem_insert.2 (.inr hn)
    rw [markFailed_of_mem hn, markFailed_of_mem hn']
  · rw [markFailed_of_not_mem hn]
    by_cases he : node = report.node
    · have hn' : node ∈ (state.absorb report).responded := SortedSet.mem_insert.2 (.inl he)
      rw [markFailed_of_mem hn']
      simp only [absorb, he, SortedSet.erase_insert_self]
    · have hn' : node ∉ (state.absorb report).responded := by
        rintro hm
        exact (SortedSet.mem_insert.1 hm).elim he hn
      rw [markFailed_of_not_mem hn']
      simp only [absorb, SortedSet.erase_insert_of_ne _ he]

theorem removeWorkers_comm (node other : NodeId) (models others : SortedSet ModelId) :
    (state.removeWorkers node models).removeWorkers other others =
      (state.removeWorkers other others).removeWorkers node models := by
  simp only [removeWorkers, Placement.remove_comm _ node other]

theorem removeWorkers_removeWorkers_self (node : NodeId) (models : SortedSet ModelId) :
    (state.removeWorkers node models).removeWorkers node models =
      state.removeWorkers node models := by
  simp only [removeWorkers, Placement.remove_remove_self]

/-- The rounds in which something is done to a state. -/
inductive Round
  | first
  | second
  deriving DecidableEq

/-- The round in which an operation is done. -/
def Operation.round : Operation → Round
  | .absorb _ | .markFailed _ => .first
  | .removeWorkers _ _ => .second

/-- **Two operations of one round may be exchanged.** -/
theorem act_comm {op other : Operation} (h : op.round = other.round) :
    (state.act op).act other = (state.act other).act op := by
  cases op with
  | absorb report =>
    cases other with
    | absorb report' => exact state.absorb_comm report report'
    | markFailed node => exact state.markFailed_absorb report node
    | removeWorkers node models => cases h
  | markFailed node =>
    cases other with
    | absorb report => exact (state.markFailed_absorb report node).symm
    | markFailed node' => exact state.markFailed_comm node node'
    | removeWorkers node' models => cases h
  | removeWorkers node models =>
    cases other with
    | absorb report => cases h
    | markFailed node' => cases h
    | removeWorkers node' models' => exact state.removeWorkers_comm node node' models models'

/-- An operation that is done twice is done once. -/
theorem act_act_self (op : Operation) : (state.act op).act op = state.act op := by
  cases op with
  | absorb report => exact state.absorb_absorb_self report
  | markFailed node => exact state.markFailed_markFailed_self node
  | removeWorkers node models => exact state.removeWorkers_removeWorkers_self node models

/-! ### All operations of one round -/

variable {state} {ops ops' : List Operation} {round : Round}

theorem foldl_act_of_perm (h : ∀ op ∈ ops, op.round = round) (hp : ops.Perm ops') :
    ops.foldl act state = ops'.foldl act state :=
  hp.foldl_eq' (fun op ho other ho' state =>
    state.act_comm ((h op ho).trans (h other ho').symm)) state

/-- What will be done anyway may be done beforehand. -/
theorem foldl_act_of_mem (h : ∀ op ∈ ops, op.round = round) {op : Operation} (ho : op ∈ ops) :
    ops.foldl act (state.act op) = ops.foldl act state := by
  have hp : ops.Perm (op :: ops.erase op) := List.perm_cons_erase ho
  rw [foldl_act_of_perm h hp, foldl_act_of_perm h hp, List.foldl_cons, List.foldl_cons,
    act_act_self]

/-- **The order in which nodes are heard does not matter**, at whatever state a round begins: all
that is done in one round may be done in any order, and any of it again at any time. -/
theorem order_irrelevant (state : Aggregate) {round : Round} {ops ops' : List Operation}
    (h : ∀ op ∈ ops, op.round = round) (hp : ops.Perm ops') :
    ops.foldl act state = ops'.foldl act state ∧
      ∀ before after, ops' = before ++ after → ∀ op ∈ ops,
        (before ++ op :: after).foldl act state = ops.foldl act state := by
  refine ⟨foldl_act_of_perm h hp, ?_⟩
  rintro before after rfl op ho
  have hagain : (op :: ops).Perm (before ++ op :: after) :=
    (hp.cons op).trans List.perm_middle.symm
  have hround : ∀ other ∈ op :: ops, other.round = round :=
    List.forall_mem_cons.2 ⟨h op ho, h⟩
  rw [← foldl_act_of_perm hround hagain, List.foldl_cons, foldl_act_of_mem h ho]

/-- A node that counts as failed reports after all, and fails again. -/
theorem order_irrelevant_of_late_report :
    let report : NodeReport := ⟨⟨"b"⟩, .ofList [⟨"m"⟩], ∅, ∅, .ofList [⟨"m"⟩]⟩
    let state := run [.absorb ⟨⟨"a"⟩, .ofList [⟨"m"⟩], ∅, ∅, ∅⟩, .markFailed ⟨"b"⟩]
    let ops : List Operation := [.markFailed ⟨"c"⟩, .markFailed ⟨"b"⟩, .absorb report]
    let ops' : List Operation := [.absorb report, .markFailed ⟨"b"⟩, .markFailed ⟨"c"⟩]
    ((∀ op ∈ ops, op.round = .first) ∧ ops.Perm ops') ∧
      ops.foldl act state = ops'.foldl act state ∧
      (ops' ++ [Operation.absorb report]).foldl act state = ops.foldl act state := by
  intro report state ops ops'
  have hround : ∀ op ∈ ops, op.round = .first := by decide
  have hperm : ops.Perm ops' := by decide
  obtain ⟨heq, hagain⟩ := order_irrelevant state hround hperm
  exact ⟨⟨hround, hperm⟩, heq, hagain ops' [] rfl (.absorb report) (by decide)⟩

/-- The models that nodes have dropped may be taken from them in any order. -/
theorem afterRouting_of_perm (state : Aggregate) {outcome : RoutingOutcome}
    {dropped : List (NodeId × SortedSet ModelId)} (h : outcome.undeployed.entries.Perm dropped) :
    state.afterRouting outcome =
      dropped.foldl (fun state d => state.removeWorkers d.1 d.2) state :=
  h.foldl_eq' (fun d _ other _ state => state.removeWorkers_comm d.1 other.1 d.2 other.2) state

end Aggregate

namespace Gather

/-- What an answer does to the state. -/
def operation (answer : Answer) : Aggregate.Operation :=
  match reportOf answer with
  | .ok report => .absorb report
  | .error _ => .markFailed answer.1

theorem round_operation (answer : Answer) : (operation answer).round = .first := by
  unfold operation
  split
  · rfl
  · rfl

theorem absorb_eq_act (state : Aggregate) (answer : Answer) :
    absorb state answer = state.act (operation answer) := by
  unfold absorb operation
  cases reportOf answer with
  | ok report => rfl
  | error e => rfl

/-- **What the first round gathers does not depend on which node is heard first.** -/
theorem state_of_perm {answers answers' : List Answer} (h : answers.Perm answers') :
    state answers = state answers' :=
  h.foldl_eq' (fun answer _ other _ gathered => by
    simp only [absorb_eq_act]
    exact gathered.act_comm ((round_operation answer).trans (round_operation other).symm)) ∅

end Gather

end ModelFleet
