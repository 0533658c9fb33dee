import ModelFleet.Text.Quoted

/-!
# Names of models, nodes, deploy tasks and tenants

Such a name is an opaque text given by the cluster.  The four kinds share one definition, so a
model's name can never be taken for a node's, and all are ordered like their texts.
-/

namespace ModelFleet

/-- What a name is the name of. -/
inductive Kind
  | model
  | node
  | task
  | tenant
  deriving DecidableEq

def Kind.title : Kind → String
  | .model => "ModelId"
  | .node => "NodeId"
  | .task => "TaskId"
  | .tenant => "TenantId"

structure Name (kind : Kind) where
  text : String
  deriving DecidableEq

abbrev ModelId := Name .model
abbrev NodeId := Name .node
abbrev TaskId := Name .task
abbrev TenantId := Name .tenant

namespace Name

variable {kind : Kind}

instance : Inhabited (Name kind) := ⟨⟨""⟩⟩

instance : Ord (Name kind) := ⟨compareOn text⟩

instance : Std.TransOrd (Name kind) := inferInstanceAs (Std.TransCmp (compareOn text))

instance : Std.LawfulEqOrd (Name kind) where
  compare_self := @Std.ReflCmp.compare_self _ (compareOn text) _
  eq_of_compare {a b} h := by
    have : a.text = b.text := @Std.LawfulEqCmp.eq_of_compare String compare _ _ _ h
    cases a; cases b; simp_all

/-- The form of a name inside messages that show a whole value. -/
def debug (name : Name kind) : String := kind.title ++ "(" ++ Quoted.quote name.text ++ ")"

end Name

end ModelFleet
