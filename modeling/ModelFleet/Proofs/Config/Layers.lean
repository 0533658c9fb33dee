import ModelFleet.Config.Tree
import ModelFleet.Proofs.Json.Reading

/-!
# Layers of settings

What a source does to one member of a table does not depend on the others: an entry of a source
changes the member that its key begins with, and that member becomes what the rest of the path makes
of it (`get?_apply`).  So a source can be read off one member at a time.  A source that lies over
defaults and the same source over nothing show the same, but for the defaults that it leaves alone
(`Shows`).
-/

namespace ModelFleet.Config.Tree

/-! ### Members -/

/-- What stands in a place after a tree was put at the end of a path from there. -/
def placed (value : Tree) : List Step → Option Tree → Tree
  | [], old => overlay (old.getD default) value
  | step :: rest, old => put value (step :: rest) (old.getD absent)

/-- What stands in a place after several trees were put at the ends of paths from there. -/
def lay (old : Option Tree) (steps : List (List Step × Tree)) : Option Tree :=
  steps.foldl (fun old step => some (placed step.2 step.1 old)) old

theorem lay_append (old : Option Tree) (steps later : List (List Step × Tree)) :
    lay old (steps ++ later) = lay (lay old steps) later := List.foldl_append

theorem asTable_eq (tree : Tree) : tree.asTable = table tree.asTable.origin tree.members := by
  cases tree <;> rfl

theorem get?_table (origin : Origin) (members : List (String × Tree)) (key : String) :
    (table origin members).get? key = Entries.get? key members := rfl

/-- A step into a table changes one member of it. -/
theorem put_member (value tree : Tree) (name : String) (rest : List Step) :
    put value (.member name :: rest) tree =
      table tree.asTable.origin
        (Entries.insert name (placed value rest (tree.get? name)) tree.members) := by
  cases rest <;> cases tree <;> rfl

theorem get?_put_member (value tree : Tree) (name key : String) (rest : List Step) :
    (put value (.member name :: rest) tree).get? key =
      if key = name then some (placed value rest (tree.get? name)) else tree.get? key := by
  rw [put_member, get?_table, Entries.get?_insert]
  rfl

/-- Members are laid over a table one after the other. -/
theorem overlayMembers_cons (origin : Origin) (members rest : List (String × Tree)) (key : String)
    (new : Tree) :
    overlayMembers (table origin members) ((key, new) :: rest) =
      overlayMembers (put new [.member key] (table origin members)) rest := rfl

/-! ### Sources -/

/-- What the entries of a source do to the member under a key: the rest of each path that begins
there, with what is put at its end. -/
def reaching (key : String) (entries : List (String × Tree)) : List (List Step × Tree) :=
  entries.filterMap fun entry =>
    if (Path.ofKey entry.1).first = key then some ((Path.ofKey entry.1).rest, entry.2) else none

theorem reaching_cons (key : String) (entry : String × Tree) (rest : List (String × Tree)) :
    reaching key (entry :: rest) =
      if (Path.ofKey entry.1).first = key
      then ((Path.ofKey entry.1).rest, entry.2) :: reaching key rest else reaching key rest := by
  rw [reaching, List.filterMap_cons]
  split <;> simp_all [reaching]

/-- A source changes each member of a table on its own. -/
theorem get?_apply (tree : Tree) (entries : List (String × Tree)) (key : String) :
    (tree.apply entries).get? key = lay (tree.get? key) (reaching key entries) := by
  induction entries generalizing tree with
  | nil => rfl
  | cons entry rest ih =>
    show (apply (put entry.2 (.member (Path.ofKey entry.1).first :: (Path.ofKey entry.1).rest)
      tree) rest).get? key = _
    rw [ih, get?_put_member, reaching_cons]
    by_cases h : (Path.ofKey entry.1).first = key
    · rw [if_pos h, if_pos h.symm, h]
      rfl
    · rw [if_neg h, if_neg (Ne.symm h)]

/-! ### Order -/

/-- A tree that was laid over another one has its members in order, if the other one has. -/
theorem sorted_overlayMembers {tree : Tree} {entries : List (String × Tree)}
    (h : Entries.Sorted tree.members) : Entries.Sorted (overlayMembers tree entries).members := by
  induction entries generalizing tree with
  | nil => exact h
  | cons entry rest ih =>
    rw [overlayMembers]
    refine ih ?_
    cases tree with
    | table => exact Entries.insert_sorted _ _ h
    | _ => exact List.Pairwise.nil

theorem sorted_placed {value : Tree} {old : Option Tree} {path : List Step}
    (h : ∀ tree ∈ old, Entries.Sorted tree.members) :
    Entries.Sorted (placed value path old).members := by
  have hdefault : Entries.Sorted (old.getD default).members := by
    cases old with
    | none => exact List.Pairwise.nil
    | some tree => exact h tree rfl
  match path with
  | [] =>
    match value with
    | .table _ [] => exact hdefault
    | .table _ (_ :: _) =>
      rw [placed, overlay]
      refine sorted_overlayMembers ?_
      rwa [asTable_eq]
    | .leaf .. | .list .. => exact List.Pairwise.nil
  | .member name :: rest =>
    have habsent : Entries.Sorted (old.getD absent).members := by
      cases old with
      | none => exact List.Pairwise.nil
      | some tree => exact h tree rfl
    rw [placed, put_member]
    exact Entries.insert_sorted _ _ habsent
  | .place _ :: _ => exact List.Pairwise.nil

theorem sorted_lay {old : Option Tree} {steps : List (List Step × Tree)}
    (h : ∀ tree ∈ old, Entries.Sorted tree.members) :
    ∀ tree ∈ lay old steps, Entries.Sorted tree.members := by
  induction steps generalizing old with
  | nil => exact h
  | cons step rest ih =>
    have hplaced : ∀ tree ∈ some (placed step.2 step.1 old), Entries.Sorted tree.members := by
      rintro _ ⟨⟩
      exact sorted_placed h
    exact ih hplaced

/-! ### Over defaults and over nothing -/

/-- What a source shows in the place of a setting, over nothing and over a default that is no table
and no list: the same, or nothing but the default. -/
inductive Shows : Option Tree → Option Tree → Option Tree → Prop
  | same (base tree : Option Tree) : Shows base tree tree
  | behind {origin : Origin} {scalar : Scalar} {alone : Option Tree}
      (h : alone = none ∨ alone = some default) :
      Shows (some (.leaf origin scalar)) alone (some (.leaf origin scalar))

/-- A tree in the place of nothing is put there as it would be in the place of a setting. -/
theorem put_eq_of_empty {value : Tree} {step : Step} {rest : List Step} {old : Option Tree}
    (h : old = none ∨ old = some default) (origin : Origin) (scalar : Scalar) :
    put value (step :: rest) (old.getD absent) =
      put value (step :: rest) (.leaf origin scalar) := by
  cases step with
  | member name => rcases h with rfl | rfl <;> rw [put_member, put_member] <;> rfl
  | place i => rcases h with rfl | rfl <;> rfl

theorem Shows.placed {base alone merged : Option Tree} (h : Shows base alone merged) (value : Tree)
    (path : List Step) :
    Shows base (some (placed value path alone)) (some (placed value path merged)) := by
  cases h with
  | same => exact .same _ _
  | @behind origin scalar _ h =>
    match path with
    | [] =>
      match value with
      -- An empty table leaves the default alone, and over nothing an empty table is left.
      | .table _ [] =>
        refine .behind (.inr ?_)
        rcases h with rfl | rfl <;> rfl
      | .table _ (_ :: _) => rcases h with rfl | rfl <;> exact .same _ _
      | .leaf .. | .list .. => exact .same _ _
    | step :: rest =>
      show Shows _ (some (put value (step :: rest) (alone.getD absent))) _
      rw [put_eq_of_empty h origin scalar]
      exact .same _ _

/-- What a source shows in the place of a table of defaults, over nothing and over the table: the
same, or tables that show the same but for the defaults. -/
inductive ShowsTable (base : List (String × Tree)) : Option Tree → Tree → Prop
  | same (tree : Tree) : ShowsTable base (some tree) tree
  | members {alone : Option Tree} {left right : List (String × Tree)}
      (hleft : alone.getD default = table .nowhere left)
      (h : ∀ key, Shows (Entries.get? key base) (Entries.get? key left) (Entries.get? key right)) :
      ShowsTable base alone (table .nowhere right)

section

variable {base : List (String × Tree)}

theorem ShowsTable.put_member {left right : List (String × Tree)} (value : Tree) (name : String)
    (rest : List Step)
    (h : ∀ key, Shows (Entries.get? key base) (Entries.get? key left) (Entries.get? key right)) :
    ∃ left' right', put value (.member name :: rest) (table .nowhere left) = table .nowhere left' ∧
      put value (.member name :: rest) (table .nowhere right) = table .nowhere right' ∧
      ∀ key, Shows (Entries.get? key base) (Entries.get? key left') (Entries.get? key right') := by
  refine ⟨_, _, Tree.put_member .., Tree.put_member .., fun key => ?_⟩
  rw [Entries.get?_insert, Entries.get?_insert]
  split
  · next hkey =>
    subst hkey
    exact (h key).placed value rest
  · exact h key

theorem ShowsTable.overlayMembers {left right entries : List (String × Tree)}
    (h : ∀ key, Shows (Entries.get? key base) (Entries.get? key left) (Entries.get? key right)) :
    ShowsTable base (some (overlayMembers (table .nowhere left) entries))
      (overlayMembers (table .nowhere right) entries) := by
  induction entries generalizing left right with
  | nil => exact .members rfl h
  | cons entry rest ih =>
    obtain ⟨left', right', hl, hr, h'⟩ := put_member entry.2 entry.1 [] h
    rw [overlayMembers_cons, overlayMembers_cons, hl, hr]
    exact ih h'

theorem ShowsTable.placed {alone : Option Tree} {merged : Tree} (h : ShowsTable base alone merged)
    (value : Tree) (path : List Step) :
    ShowsTable base (some (placed value path alone)) (placed value path (some merged)) := by
  cases h with
  | same => exact .same _
  | @members _ left right hleft h =>
    match path with
    | [] =>
      match value with
      | .table _ [] => exact .members hleft h
      | .table _ (_ :: _) =>
        rw [Tree.placed, Tree.placed, hleft]
        exact overlayMembers h
      | .leaf .. | .list .. => exact .same _
    | .member name :: rest =>
      have habsent : put value (.member name :: rest) (alone.getD absent) =
          put value (.member name :: rest) (table .nowhere left) := by
        cases alone with
        | none =>
          cases hleft
          rw [Tree.put_member, Tree.put_member]
          rfl
        | some tree => rw [← hleft]; rfl
      obtain ⟨left', right', hl, hr, h'⟩ := put_member value name rest h
      rw [Tree.placed, Tree.placed, habsent, hl, Option.getD_some, hr]
      exact .members rfl h'
    | .place i :: rest =>
      have habsent : put value (.place i :: rest) (alone.getD absent) =
          put value (.place i :: rest) (table .nowhere right) := by
        cases alone with
        | none => rfl
        | some tree =>
          obtain rfl : tree = table .nowhere left := hleft
          rfl
      rw [Tree.placed, Tree.placed, habsent]
      exact .same _

theorem ShowsTable.lay {alone : Option Tree} {merged : Tree} (h : ShowsTable base alone merged)
    (steps : List (List Step × Tree)) :
    ∃ tree, lay (some merged) steps = some tree ∧ ShowsTable base (lay alone steps) tree := by
  induction steps generalizing alone merged with
  | nil => exact ⟨merged, rfl, h⟩
  | cons step rest ih => exact ih (h.placed step.2 step.1)

/-- Over a table of settings that are no tables and no lists a source shows what it shows over
nothing, but for the defaults. -/
theorem ShowsTable.of_leaves (h : ∀ key tree, Entries.get? key base = some tree →
    ∃ origin scalar, tree = .leaf origin scalar) : ShowsTable base none (table .nowhere base) := by
  refine .members rfl fun key => ?_
  cases hkey : Entries.get? key base with
  | none => exact .same _ _
  | some tree =>
    obtain ⟨origin, scalar, rfl⟩ := h key tree hkey
    exact .behind (.inl rfl)

end

end ModelFleet.Config.Tree
