import ModelFleet.Model.Record
import ModelFleet.Store.Basic

/-!
# A store in memory

The collections as maps.  `get?_put` says what a lookup finds after a document was written; the
update of one document is `merge`, which replaces members and keeps all others.
-/

namespace ModelFleet

abbrev Collection := SortedMap String Json

structure MemoryStore where
  collections : SortedMap String Collection
  deriving DecidableEq

namespace MemoryStore

def empty : MemoryStore := ⟨∅⟩

instance : EmptyCollection MemoryStore := ⟨empty⟩
instance : Inhabited MemoryStore := ⟨empty⟩

/-- The documents of a collection, of which there are none if it is not there. -/
def documents (store : MemoryStore) (collection : String) : Collection :=
  (store.collections.get? collection).getD ∅

def hasCollection (store : MemoryStore) (collection : String) : Bool :=
  store.collections.contains collection

def setDocuments (store : MemoryStore) (collection : String) (documents : Collection) :
    MemoryStore :=
  ⟨store.collections.insert collection documents⟩

def createCollection (store : MemoryStore) (collection : String) : MemoryStore :=
  store.setDocuments collection (store.documents collection)

def size (store : MemoryStore) (collection : String) : Nat := (store.documents collection).size

def get? (store : MemoryStore) (collection id : String) : Option Json :=
  (store.documents collection).get? id

/-- Writes a document, making the collection if need be. -/
def put (store : MemoryStore) (collection id : String) (source : Json) : MemoryStore :=
  store.setDocuments collection ((store.documents collection).insert id source)

/-- Writes a document that is not there yet, making the collection if need be. -/
def create (store : MemoryStore) (collection id : String) (source : Json) :
    MemoryStore × Except StoreError Unit :=
  if (store.get? collection id).isSome then (store, .error (.duplicate collection id))
  else (store.put collection id source, .ok ())

/-! ### Searching -/

/-- Whether an identifier comes after another, if one is given. -/
def isAfter (after : Option String) (id : String) : Bool :=
  match after with
  | none => true
  | some a => a < id

/-- The documents that a query is about and that come after an identifier, in order. -/
def matchesAfter (documents : Collection) (query : Query) (after : Option String) :
    List StoredDocument :=
  (documents.entries.filter fun entry => isAfter after entry.1 && query.matches entry.2).map
    fun entry => ⟨entry.1, entry.2⟩

/-- One page of the documents that a query is about.  Another page may follow a full one. -/
def pageOf (documents : Collection) (query : Query) (page : PageRequest) : SearchPage :=
  let hits := (matchesAfter documents query page.after).take page.size
  ⟨hits, if 0 < page.size ∧ hits.length = page.size then hits.getLast?.map (·.id) else none⟩

def search (store : MemoryStore) (collection : String) (query : Query) (page : PageRequest) :
    Except StoreError SearchPage :=
  match store.collections.get? collection with
  | none => .error (.noCollection collection)
  | some documents => .ok (pageOf documents query page)

/-! ### Updating -/

/-- Puts members into a document, in place of those with the same keys. -/
def merge (target changes : Json) : Except StoreError Json :=
  match target, changes with
  | .obj members, .obj news =>
    .ok (.obj (news.foldl (fun members entry => Entries.insert entry.1 entry.2 members) members))
  | _, _ => .error (.invalidData "partial update requires object documents")

/-- Whether a document belongs to the tenant that an item asks for. -/
def tenantAgrees (source : Json) (tenant : Option TenantId) : Bool :=
  match tenant with
  | none => true
  | some t => (source.get? Document.tenantField).bind Json.text? == some t.text

def updateOne (collection : String) (documents : Collection) (item : BulkItem) :
    Except StoreError Collection :=
  match documents.get? item.id with
  | none => .error (.noDocument collection item.id)
  | some source =>
    if tenantAgrees source item.tenant then
      (merge source item.changes).map fun source => documents.insert item.id source
    else .error (.noDocument collection item.id)

/-- Updates the documents that the items are about, one after another. -/
def updateAll (collection : String) (documents : Collection) :
    List BulkItem → Collection × List BulkResult
  | [] => (documents, [])
  | item :: rest =>
    match updateOne collection documents item with
    | .ok documents =>
      let (documents, results) := updateAll collection documents rest
      (documents, ⟨item.id, none⟩ :: results)
    | .error e =>
      let (documents, results) := updateAll collection documents rest
      (documents, ⟨item.id, some e⟩ :: results)

def bulkUpdate (store : MemoryStore) (collection : String) (items : List BulkItem) :
    MemoryStore × Except StoreError BulkResponse :=
  match store.collections.get? collection with
  | none => (store, .error (.noCollection collection))
  | some documents =>
    let (documents, results) := updateAll collection documents items
    (store.setDocuments collection documents, .ok ⟨results⟩)

/-! ### Lookups -/

theorem documents_setDocuments (store : MemoryStore) (collection other : String)
    (documents : Collection) :
    (store.setDocuments collection documents).documents other =
      if other = collection then documents else store.documents other := by
  by_cases h : other = collection <;>
    simp [setDocuments, MemoryStore.documents, SortedMap.get?_insert, h]

theorem get?_put (store : MemoryStore) (collection id : String) (source : Json)
    (other otherId : String) :
    (store.put collection id source).get? other otherId =
      if other = collection ∧ otherId = id then some source else store.get? other otherId := by
  unfold get? put
  rw [documents_setDocuments]
  by_cases h : other = collection
  · subst h; simp [SortedMap.get?_insert]
  · simp [h]

end MemoryStore

end ModelFleet
