import ModelFleet.Config.Path
import ModelFleet.Json.Basic
import ModelFleet.Number.Integer
import ModelFleet.Number.Reader
import ModelFleet.Text.Lowercase

/-!
# Trees of settings

What a source says about settings is a tree whose leaves know where they come from.  Later sources
lie over earlier ones: tables are laid over tables key by key, everything else replaces what was
there, and an empty table leaves it alone.  Keys are compared in lower case.
-/

namespace ModelFleet.Config

/-- Where a setting comes from. -/
inductive Origin
  | nowhere
  | file (name : String)
  | environment
  deriving DecidableEq

/-- The words for an origin at the end of a message. -/
def Origin.suffix : Origin → String
  | nowhere => ""
  | file name => s!" in {name}"
  | environment => " in the environment"

/-- A setting that is no table and no list. -/
inductive Scalar
  | nil
  | bool (value : Bool)
  | int (value : Int)
  | real (value : Binary64)
  | text (value : String)
  deriving DecidableEq

/-- What a source says. -/
inductive Tree
  | leaf (origin : Origin) (scalar : Scalar)
  | list (origin : Origin) (items : List Tree)
  | table (origin : Origin) (members : List (String × Tree))

namespace Tree

instance : Inhabited Tree := ⟨.table .nowhere []⟩

def members : Tree → List (String × Tree)
  | .table _ members => members
  | _ => []

def get? (key : String) (tree : Tree) : Option Tree := Entries.get? key tree.members

def origin : Tree → Origin
  | .leaf origin _ | .list origin _ | .table origin _ => origin

/-- The table that takes the place of a tree when members are laid over it. -/
def asTable : Tree → Tree
  | .table origin members => .table origin members
  | _ => .table .nowhere []

/-- The list that takes the place of a tree when an item is put into it. -/
def asList : Tree → Origin × List Tree
  | .list origin items => (origin, items)
  | _ => (.nowhere, [])

def setMember (tree : Tree) (key : String) (value : Tree) : Tree :=
  match tree with
  | .table origin members => .table origin (Entries.insert key value members)
  | tree => tree

mutual

def overlay (old : Tree) : Tree → Tree
  | .table _ [] => old
  | .table _ (entry :: rest) => overlayMembers old.asTable (entry :: rest)
  | new => new

def overlayMembers (old : Tree) : List (String × Tree) → Tree
  | [] => old
  | (key, new) :: rest =>
    overlayMembers (old.setMember key (overlay ((old.get? key).getD default) new)) rest

end

/-! ### Sources -/

mutual

/-- A document as a tree; integers that do not fit into eight bytes with a sign become
floating-point numbers. -/
def ofJson (origin : Origin) : Json → Tree
  | .null => .leaf origin .nil
  | .bool b => .leaf origin (.bool b)
  | .int n =>
    .leaf origin (if -2 ^ 63 ≤ n ∧ n < 2 ^ 63 then .int n else .real (Binary64.ofInt n))
  | .real x => .leaf origin (.real x)
  | .str s => .leaf origin (.text s)
  | .arr items => .list origin (ofItems origin items)
  | .obj members => .table origin (Entries.ofList (ofMembers origin members))

def ofItems (origin : Origin) : List Json → List Tree
  | [] => []
  | item :: rest => ofJson origin item :: ofItems origin rest

def ofMembers (origin : Origin) : List (String × Json) → List (String × Tree)
  | [] => []
  | (key, value) :: rest => (Lowercase.ofString key, ofJson origin value) :: ofMembers origin rest

end

def absent : Tree := .leaf .nowhere .nil

/-- Changes the item at a place of a list.  The list is made longer at its end, or for a place before
its beginning at its front, until there is such an item. -/
def changeItem (items : List Tree) (place : Int) (f : Tree → Tree) : List Tree :=
  let length : Int := items.length
  let front := (-(length + place)).toNat
  let items := List.replicate (if place < 0 then front else 0) absent ++ items
  let i := if 0 ≤ place then place.toNat else (length + place).toNat
  let items := items ++ List.replicate (i + 1 - items.length) absent
  items.modify i f

/-- Puts a tree at the end of a path.  What is on the way and is no table or no list as the path
needs it is replaced by one. -/
def put (value : Tree) : List Step → Tree → Tree
  | [], _ => value
  | [.member name], tree => overlayMembers tree.asTable [(name, value)]
  | .member name :: rest, tree =>
    let table := tree.asTable
    table.setMember name (put value rest ((table.get? name).getD absent))
  | .place i :: rest, tree =>
    let (origin, items) := tree.asList
    .list origin (changeItem items i (put value rest))

/-- Lays what a source says under keys that may be paths over a tree. -/
def apply (tree : Tree) (entries : List (String × Tree)) : Tree :=
  entries.foldl (fun tree (key, value) =>
    let path := Path.ofKey key
    put value (.member path.first :: path.rest) tree) tree

/-- The setting that a text of the environment stands for: a truth value, a number, or the text. -/
def ofText (s : String) : Scalar :=
  match Lowercase.ofString s with
  | "true" => .bool true
  | "false" => .bool false
  | _ =>
    match Integer.read64 s, Binary64.read? s with
    | .ok n, _ => .int n
    | .error _, some x => .real x
    | .error _, none => .text s

/-- What begins the names of variables that are settings. -/
def environmentMark : List Char := "modelsync_".toList

/-- Two underscores stand for a point. -/
def pointed : List Char → List Char
  | '_' :: '_' :: rest => '.' :: pointed rest
  | c :: rest => c :: pointed rest
  | [] => []

/-- The setting of a variable of the environment. -/
def ofVariable (name value : String) : Option (String × Tree) :=
  let cs := (Lowercase.ofString name).toList
  if environmentMark.isPrefixOf cs then
    some (String.ofList (pointed (cs.drop environmentMark.length)),
      .leaf .environment (ofText value))
  else none

end Tree

end ModelFleet.Config
