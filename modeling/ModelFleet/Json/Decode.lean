import ModelFleet.Json.Mismatch
import ModelFleet.Sorted.Map
import ModelFleet.Sorted.Set

/-!
# Reading values from documents

A `Decoder` reads a value from a document or says why it cannot.  Records are read through `Fields`,
which are put together with the operations of an applicative functor and know two layouts: the
members of an object, in any order, and the items of an array, in the declared order.

Of several flaws in an object the one to report is fixed: members that are present are looked at in
the order of their keys, and only when all of them can be read is the first missing one reported.
-/

namespace ModelFleet

abbrev Decoder (α : Type) := Json → Except Mismatch α

namespace Decode

/-! ### Values -/

def text : Decoder String
  | .str s => .ok s
  | value => .error (.wrongType value.found "a string")

def bool : Decoder Bool
  | .bool b => .ok b
  | value => .error (.wrongType value.found "a boolean")

/-- A number that is a natural number below a limit. -/
def natural (limit : Nat) (expected : String) : Decoder Nat
  | .int n =>
    if 0 ≤ n ∧ n.toNat < limit then .ok n.toNat else .error (.wrongValue (.int n) expected)
  | value => .error (.wrongType value.found expected)

def count32 : Decoder UInt32 := fun value => UInt32.ofNat <$> natural (2 ^ 32) "u32" value

def count64 : Decoder UInt64 := fun value => UInt64.ofNat <$> natural (2 ^ 64) "u64" value

def size : Decoder UInt64 := fun value => UInt64.ofNat <$> natural (2 ^ 64) "usize" value

def uuid : Decoder Uuid
  | .str s => (Uuid.parse s).mapError .badUuid
  | value => .error (.wrongType value.found "a formatted UUID string")

def stamp : Decoder Stamp
  | .str s => (Stamp.parse s).mapError .badStamp
  | value => .error (.wrongType value.found "an RFC 3339 formatted date and time string")

/-- A value that may be `null`. -/
def nullable {α : Type} (item : Decoder α) : Decoder (Option α)
  | .null => .ok none
  | value => some <$> item value

def list {α : Type} (item : Decoder α) : Decoder (List α)
  | .arr items => items.mapM item
  | value => .error (.wrongType value.found "a sequence")

def set {α : Type} [Ord α] [DecidableEq α] [Std.TransOrd α] [Std.LawfulEqOrd α]
    (item : Decoder α) : Decoder (SortedSet α) := fun value => SortedSet.ofList <$> list item value

def map {κ ν : Type} [Ord κ] [DecidableEq κ] [Std.TransOrd κ] [Std.LawfulEqOrd κ]
    (key : String → κ) (item : Decoder ν) : Decoder (SortedMap κ ν)
  | .obj members =>
    SortedMap.ofList <$> members.mapM fun m => do return (key m.1, ← item m.2)
  | value => .error (.wrongType value.found "a map")

end Decode

/-! ### Records -/

/-- What is wrong with one member of an object. -/
inductive Flaw
  | bad (key : String) (cause : Mismatch)
  | missing (key : String)

namespace Flaw

def cause : Flaw → Mismatch
  | bad _ cause => cause
  | missing key => .missingField key

/-- Which of two flaws is reported, the first being that of the field declared first. -/
def first : Flaw → Flaw → Flaw
  | bad k c, bad l d => if l < k then bad l d else bad k c
  | missing _, bad l d => bad l d
  | flaw, missing _ => flaw

end Flaw

/-- The fields of a record, and how to read them from both layouts. -/
structure Fields (α : Type) where
  /-- How many fields there are. -/
  count : Nat
  /-- Reads them from the members of an object. -/
  named : List (String × Json) → Except Flaw α
  /-- Reads them from the items of an array, given what the whole array should be and the position
  of the first of the items. -/
  listed : String → Nat → List Json → Except Mismatch (α × List Json)

namespace Fields

variable {α β : Type}

def none (value : α) : Fields α := ⟨0, fun _ => .ok value, fun _ _ items => .ok (value, items)⟩

def map (f : α → β) (fields : Fields α) : Fields β where
  count := fields.count
  named members := f <$> fields.named members
  listed expected position items := do
    let (a, rest) ← fields.listed expected position items
    return (f a, rest)

/-- The fields of both, in this order. -/
def seq (left : Fields (α → β)) (right : Fields α) : Fields β where
  count := left.count + right.count
  named members :=
    match left.named members, right.named members with
    | .ok f, .ok a => .ok (f a)
    | .ok _, .error e | .error e, .ok _ => .error e
    | .error d, .error e => .error (d.first e)
  listed expected position items := do
    let (f, rest) ← left.listed expected position items
    let (a, rest) ← right.listed expected (position + left.count) rest
    return (f a, rest)

instance : Applicative Fields where
  pure := none
  map := map
  seq f x := seq f (x ())

/-- One field; `fallback` says what counts as its value when it is absent from an object, and
`filler` when an array has ended before it. -/
def one (key : String) (item : Decoder α) (fallback filler : Option α) : Fields α where
  count := 1
  named members :=
    match Entries.get? key members, fallback with
    | some value, _ => (item value).mapError (.bad key)
    | .none, some value => .ok value
    | .none, .none => .error (.missing key)
  listed expected position
    | [] =>
      match filler with
      | some value => .ok (value, [])
      | .none => .error (.wrongLength position expected)
    | value :: rest => do return (← item value, rest)

def required (key : String) (item : Decoder α) : Fields α := one key item .none .none

def withDefault (key : String) (item : Decoder α) (value : α) : Fields α :=
  one key item (some value) (some value)

/-- A field that may be `null`, which is also meant where an object does not have it. -/
def nullable (key : String) (item : Decoder α) : Fields (Option α) :=
  one key (Decode.nullable item) (some .none) .none

def elements (n : Nat) : String := if n = 1 then "1 element" else s!"{n} elements"

/-- Reads a record from items that it has to use up; `leftover` says what a shorter array would have
been. -/
def ofItems (fields : Fields α) (title : String) (leftover : Nat → String) (items : List Json) :
    Except Mismatch α := do
  let (a, rest) ← fields.listed s!"{title} with {elements fields.count}" 0 items
  if rest.isEmpty then return a
  else throw (.wrongLength items.length (leftover (items.length - rest.length)))

def ofMembers (fields : Fields α) (members : List (String × Json)) : Except Mismatch α :=
  (fields.named members).mapError Flaw.cause

end Fields

namespace Decode

variable {α : Type}

/-- A record, from an object or an array. -/
def record (name : String) (fields : Fields α) : Decoder α
  | .obj members => fields.ofMembers members
  | .arr items => fields.ofItems s!"struct {name}" (fun _ => "fewer elements in array") items
  | value => .error (.wrongType value.found s!"struct {name}")

/-! ### Alternatives -/

/-- One of the alternatives of a type: its name in documents, its title in messages, and its
fields unless it stands alone. -/
structure Variant (α : Type) where
  name : String
  title : String
  body : α ⊕ Fields α

namespace Variant

def bare (name : String) (value : α) : Variant α := ⟨name, name, .inl value⟩

def fields (name : String) (fields : Fields α) : Variant α := ⟨name, name, .inr fields⟩

def find (variants : List (Variant α)) (name : String) : Except Mismatch (Variant α) :=
  match variants.find? (·.name = name) with
  | some variant => .ok variant
  | none => .error (.unknownVariant name (variants.map (·.name)))

def ofName (variant : Variant α) : Except Mismatch α :=
  match variant.body with
  | .inl value => .ok value
  | .inr _ => .error (.wrongType .bareVariant "struct variant")

/-- Reads an alternative from the value that stands under its name. -/
def ofValue (variant : Variant α) (value : Json) : Except Mismatch α :=
  match variant.body, value with
  | .inl a, .null => .ok a
  | .inl _, value => .error (.wrongType value.found "unit")
  | .inr fields, .obj members => fields.ofMembers members
  | .inr _, value => .error (.wrongType value.found "struct variant")

def ofMembers (variant : Variant α) (members : List (String × Json)) : Except Mismatch α :=
  match variant.body with
  | .inl a => .ok a
  | .inr fields => fields.ofMembers members

def ofItems (variant : Variant α) (items : List Json) : Except Mismatch α :=
  match variant.body with
  | .inl a => .ok a
  | .inr fields =>
    fields.ofItems variant.title (fun n => s!"{Fields.elements n} in sequence") items

end Variant

/-- One of several alternatives: a name, or an object whose one key is the name. -/
def choice (variants : List (Variant α)) : Decoder α
  | .str name => do (← Variant.find variants name).ofName
  | .obj [(name, value)] => do (← Variant.find variants name).ofValue value
  | .obj _ => .error (.wrongValue .map "map with a single key")
  | value => .error (.wrongType value.found "string or map")

def findTag (variants : List (Variant α)) : Json → Except Mismatch (Variant α)
  | .str name => Variant.find variants name
  | value => .error (.wrongType value.found "variant identifier")

/-- One of several alternatives, with its name under the key `tag` beside its fields, or in front of
them in an array. -/
def tagged (title tag : String) (variants : List (Variant α)) : Decoder α
  | .obj members =>
    match Entries.get? tag members with
    | none => .error (.missingField tag)
    | some name => do (← findTag variants name).ofMembers (Entries.erase tag members)
  | .arr [] => .error (.missingField tag)
  | .arr (name :: items) => do (← findTag variants name).ofItems items
  | value => .error (.wrongType value.found s!"internally tagged enum {title}")

end Decode

end ModelFleet
