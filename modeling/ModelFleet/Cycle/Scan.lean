import ModelFleet.Cycle.Job

/-!
# Reading the records

The records whose state is reconcilable are read page by page.  A document that is no record is left
out; a collection that is not there ends the reading, and any other failure ends it with an error.
-/

namespace ModelFleet

/-- Where the next page begins. -/
inductive Cursor
  | start
  | after (id : String)
  deriving DecidableEq

namespace Scan

abbrev Item := Except SyncError ModelRecord

def query : Query := ⟨Document.stateField, ModelState.reconcilable.map ModelState.toJson⟩

/-- The page at a cursor; a page has room for at least one document. -/
def page (pageSize : Nat) (cursor : Cursor) : PageRequest :=
  ⟨match cursor with
    | .start => none
    | .after id => some id, max pageSize 1⟩

def request (collection : String) (pageSize : Nat) (cursor : Cursor) : Request :=
  .search collection query (page pageSize cursor)

/-- The record of a document, if it is one. -/
def recordOf (document : StoredDocument) : Option ModelRecord :=
  (ModelRecord.ofDocument ⟨document.id⟩ document.source).toOption

/-- The items that a reply gives, and where to go on. -/
def read : Except StoreError SearchPage → List Item × Option Cursor
  | .ok page => ((page.hits.filterMap recordOf).map .ok, page.next.map .after)
  | .error (.notFound _) => ([], none)
  | .error e => ([.error (.storage e)], none)

end Scan

/-- A reading on its own, with the items read so far. -/
structure Scan where
  cursor : Cursor
  items : List Scan.Item

namespace Scan

/-- Cuts a list to at most so many items, if there is a limit. -/
def cut {α : Type} (limit : Option Nat) (l : List α) : List α :=
  match limit with
  | none => l
  | some n => l.take n

def isFull {α : Type} (limit : Option Nat) (l : List α) : Bool :=
  match limit with
  | none => false
  | some n => n ≤ l.length

/-- Goes on reading, unless there is nothing more or nothing more is wanted. -/
def goOn (limit : Option Nat) (items : List Item) (next : Option Cursor) : Next Scan (List Item) :=
  match next with
  | none => .over (cut limit items)
  | some cursor => if isFull limit items then .over (cut limit items) else .wait ⟨cursor, items⟩

def start (limit : Option Nat) : Next Scan (List Item) := goOn limit [] (some .start)

def job (collection : String) (pageSize : Nat) (limit : Option Nat) : Job Scan (List Item) where
  request scan := Scan.request collection pageSize scan.cursor
  resume scan reply :=
    let (news, next) := Scan.read reply
    pure (goOn limit (scan.items ++ news) next)

end Scan

end ModelFleet
