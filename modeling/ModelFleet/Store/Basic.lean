import ModelFleet.Id.Name
import ModelFleet.Json.Printer

/-!
# Requests to a document store

A store keeps documents in collections.  Documents are found by the values of one field and read
page by page in the order of their identifiers; a bulk request updates several documents at once,
each of which may fail on its own.
-/

namespace ModelFleet

/-- Why a store refused a request. -/
inductive StoreError
  | notFound (detail : String)
  | conflict (detail : String)
  | invalidData (detail : String)
  | transport (detail : String)
  deriving DecidableEq

namespace StoreError

def message : StoreError → String
  | notFound detail => s!"Not found: {detail}"
  | conflict detail => s!"Conflict: {detail}"
  | invalidData detail => s!"Invalid data: {detail}"
  | transport detail => s!"Transport error: {detail}"

/-- The refusal of a request to a collection that is not there. -/
def noCollection (collection : String) : StoreError := notFound s!"collection {collection}"

/-- The refusal of a request to a document that is not there. -/
def noDocument (collection id : String) : StoreError := notFound s!"{collection}/{id}"

def duplicate (collection id : String) : StoreError := conflict s!"{collection}/{id} already exists"

end StoreError

structure StoredDocument where
  id : String
  source : Json
  deriving DecidableEq

/-- The documents in which a field has one of these values. -/
structure Query where
  field : String
  anyOf : List Json
  deriving DecidableEq

/-- Whether a document is one of those that a query is about. -/
def Query.matches (query : Query) (source : Json) : Bool :=
  match source.get? query.field with
  | some value => query.anyOf.any (Json.sameAs · value)
  | none => false

/-- Which page of the answer is wanted: how many documents, and after which identifier. -/
structure PageRequest where
  after : Option String
  size : Nat
  deriving DecidableEq

/-- A page of the answer, and after which identifier the next one begins. -/
structure SearchPage where
  hits : List StoredDocument
  next : Option String
  deriving DecidableEq

/-- The members to put into one document, which may have to belong to a tenant. -/
structure BulkItem where
  id : String
  tenant : Option TenantId
  changes : Json
  deriving DecidableEq

structure BulkResult where
  id : String
  error : Option StoreError
  deriving DecidableEq

/-- What became of a bulk request, item by item. -/
structure BulkResponse where
  items : List BulkResult
  deriving DecidableEq

namespace BulkResponse

def hasFailures (response : BulkResponse) : Bool := response.items.any (·.error.isSome)

/-- The items that failed, with their errors. -/
def failures (response : BulkResponse) : List (String × StoreError) :=
  response.items.filterMap fun item => item.error.map fun error => (item.id, error)

end BulkResponse

end ModelFleet
