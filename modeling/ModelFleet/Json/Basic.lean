import ModelFleet.Sorted.Entries
import ModelFleet.Number.Written

/-!
# JSON documents

A document is a JSON value in which integers and floating-point numbers are different things: `1`
and `1.0` are never equal.  The members of an object are kept in the order of their keys, so equal
objects are the same value.  `sameAs` compares documents as a search does: it differs from equality
only in that the two zeros of the floating-point numbers are the same number.
-/

namespace ModelFleet

inductive Json where
  | null
  | bool (value : Bool)
  | int (value : Int)
  | real (value : Binary64)
  | str (value : String)
  | arr (items : List Json)
  | obj (members : List (String × Json))

namespace Json

instance : Inhabited Json := ⟨.null⟩

def get? (key : String) : Json → Option Json
  | .obj members => Entries.get? key members
  | _ => none

def members? : Json → Option (List (String × Json))
  | .obj members => some members
  | _ => none

def text? : Json → Option String
  | .str s => some s
  | _ => none

/-- A member as searches and parsers see it, where `null` counts as absent. -/
def present? (key : String) (members : List (String × Json)) : Option Json :=
  match Entries.get? key members with
  | none | some .null => none
  | some value => some value

def object (members : List (String × Json)) : Json := .obj (Entries.ofList members)

def texts (l : List String) : Json := .arr (l.map .str)

/-- A text, or `null`. -/
def optionalText : Option String → Json
  | some s => .str s
  | none => .null

mutual

/-- Equality of documents up to the sign of zero. -/
def sameAs : Json → Json → Bool
  | .null, .null => true
  | .bool a, .bool b => a == b
  | .int a, .int b => a == b
  | .real a, .real b => a.sameNumber b
  | .str a, .str b => a == b
  | .arr a, .arr b => sameItems a b
  | .obj a, .obj b => sameMembers a b
  | _, _ => false

def sameItems : List Json → List Json → Bool
  | [], [] => true
  | a :: as, b :: bs => sameAs a b && sameItems as bs
  | _, _ => false

def sameMembers : List (String × Json) → List (String × Json) → Bool
  | [], [] => true
  | (k, a) :: as, (l, b) :: bs => k == l && (sameAs a b && sameMembers as bs)
  | _, _ => false

end

/-- A document is the same as a text only if it is that text. -/
theorem sameAs_str {s : String} {value : Json} : sameAs (.str s) value = true ↔ value = .str s := by
  cases value <;> simp [sameAs]
  exact eq_comm

mutual

def decEq : (a b : Json) → Decidable (a = b)
  | .null, .null => isTrue rfl
  | .bool a, .bool b => decidable_of_iff (a = b) (by simp)
  | .int a, .int b => decidable_of_iff (a = b) (by simp)
  | .real a, .real b => decidable_of_iff (a = b) (by simp)
  | .str a, .str b => decidable_of_iff (a = b) (by simp)
  | .arr a, .arr b => have := decEqItems a b; decidable_of_iff (a = b) (by simp)
  | .obj a, .obj b => have := decEqMembers a b; decidable_of_iff (a = b) (by simp)
  | .null, .bool _ | .null, .int _ | .null, .real _ | .null, .str _ | .null, .arr _
  | .null, .obj _ | .bool _, .null | .bool _, .int _ | .bool _, .real _ | .bool _, .str _
  | .bool _, .arr _ | .bool _, .obj _ | .int _, .null | .int _, .bool _ | .int _, .real _
  | .int _, .str _ | .int _, .arr _ | .int _, .obj _ | .real _, .null | .real _, .bool _
  | .real _, .int _ | .real _, .str _ | .real _, .arr _ | .real _, .obj _ | .str _, .null
  | .str _, .bool _ | .str _, .int _ | .str _, .real _ | .str _, .arr _ | .str _, .obj _
  | .arr _, .null | .arr _, .bool _ | .arr _, .int _ | .arr _, .real _ | .arr _, .str _
  | .arr _, .obj _ | .obj _, .null | .obj _, .bool _ | .obj _, .int _ | .obj _, .real _
  | .obj _, .str _ | .obj _, .arr _ => isFalse nofun

def decEqItems : (a b : List Json) → Decidable (a = b)
  | [], [] => isTrue rfl
  | [], _ :: _ | _ :: _, [] => isFalse nofun
  | a :: as, b :: bs =>
    have := decEq a b
    have := decEqItems as bs
    decidable_of_iff (a = b ∧ as = bs) (by simp)

def decEqMembers : (a b : List (String × Json)) → Decidable (a = b)
  | [], [] => isTrue rfl
  | [], _ :: _ | _ :: _, [] => isFalse nofun
  | (k, a) :: as, (l, b) :: bs =>
    have := decEq a b
    have := decEqMembers as bs
    decidable_of_iff (k = l ∧ a = b ∧ as = bs) (by simp [and_assoc])

end

instance : DecidableEq Json := decEq

end Json

end ModelFleet
