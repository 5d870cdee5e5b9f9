import Meadowlark.Construction.Core.Message
import Meadowlark.Systems.SnapshotIsolation

namespace Meadowlark.Mongo
open Meadowlark.Core Systems

/-- The stored form of an API document; its id replaces the built-in key of the collection. -/
structure MeadowlarkDocument where
  id : MeadowlarkId
  documentIdentity : DocumentIdentity
  documentUuid : DocumentUuid
  projectName : String
  resourceName : String
  resourceVersion : String
  edfiDoc : Json
  outboundRefs : List MeadowlarkId
  aliasMeadowlarkIds : List MeadowlarkId
  validated : Bool
  isDescriptor : Bool
  createdBy : String
  createdAt : Option Int
  lastModifiedAt : Int
  deriving DecidableEq

section Extraction
variable [NodeRuntime]

def referencedDocumentIdsFrom (documentInfo : DocumentInfo) : List MeadowlarkId :=
  documentInfo.documentReferences.map getMeadowlarkIdForDocumentReference ++
    documentInfo.descriptorReferences.map getMeadowlarkIdForDocumentReference

/-- The aliases are the id itself and the id in superclass form. -/
def meadowlarkDocumentFrom (resourceInfo : ResourceInfo) (documentInfo : DocumentInfo)
    (documentUuid : DocumentUuid) (meadowlarkId : MeadowlarkId) (edfiDoc : Json)
    (validate : Bool) (createdBy : String) (createdAt : Option Int) (lastModifiedAt : Int) :
    MeadowlarkDocument where
  documentIdentity := documentInfo.documentIdentity
  projectName := resourceInfo.projectName
  resourceName := resourceInfo.resourceName
  resourceVersion := resourceInfo.resourceVersion
  isDescriptor := resourceInfo.isDescriptor
  documentUuid := documentUuid
  id := meadowlarkId
  edfiDoc := edfiDoc
  aliasMeadowlarkIds :=
    meadowlarkId :: (documentInfo.superclassInfo.map getMeadowlarkIdForSuperclassInfo).toList
  outboundRefs := referencedDocumentIdsFrom documentInfo
  validated := validate
  createdBy := createdBy
  createdAt := createdAt
  lastModifiedAt := lastModifiedAt

end Extraction

/-- A record belongs to the documents collection or to the concurrency collection. -/
inductive Record where
  | document (document : MeadowlarkDocument)
  | concurrency (documentUuid : DocumentUuid)
  deriving DecidableEq

/-- The key names the collection and the `_id` inside it. -/
inductive RecordKey where
  | document (id : MeadowlarkId)
  | concurrency (documentUuid : DocumentUuid)
  deriving DecidableEq

instance : Keyed Record RecordKey where
  key
    | .document document => .document document.id
    | .concurrency documentUuid => .concurrency documentUuid

@[simp] theorem key_document (document : MeadowlarkDocument) :
    key (Record.document document) = RecordKey.document document.id := rfl

@[simp] theorem key_concurrency (documentUuid : DocumentUuid) :
    key (Record.concurrency documentUuid) = RecordKey.concurrency documentUuid := rfl

abbrev Store := Database Record

def Record.document? : Record → Option MeadowlarkDocument
  | .document stored => some stored
  | .concurrency _ => none

/-- The contents of the documents collection. -/
def documents (store : Store) : List MeadowlarkDocument :=
  store.items.filterMap Record.document?

@[simp] theorem mem_documents (store : Store) (document : MeadowlarkDocument) :
    document ∈ documents store ↔ Record.document document ∈ store.items := by
  unfold documents
  rw [List.mem_filterMap]
  constructor
  · rintro ⟨record, stored, same⟩
    cases record with
    | document other => exact (Option.some.inj same) ▸ stored
    | concurrency documentUuid => cases same
  · intro stored
    exact ⟨_, stored, rfl⟩

/-- No two documents share an id. -/
theorem documents_eq_of_id {store : Store} {first second : MeadowlarkDocument}
    (firstStored : first ∈ documents store) (secondStored : second ∈ documents store)
    (same : first.id = second.id) : first = second := by
  have equal := store.eq_of_key ((mem_documents store first).mp firstStored)
    ((mem_documents store second).mp secondStored) (by simp [same])
  exact Record.document.inj equal

/-- The selection part of a query. -/
inductive Filter where
  | id (id : MeadowlarkId)
  | documentUuid (documentUuid : DocumentUuid)
  | aliasMeadowlarkId (id : MeadowlarkId)
  | aliasMeadowlarkIds (ids : List MeadowlarkId)
  | outboundRefs (ids : List MeadowlarkId)
  | replaceable (id : MeadowlarkId) (documentUuid : DocumentUuid) (before : Int)
  deriving DecidableEq

/-- An array field matches when one of its elements does. -/
def Filter.matches (filter : Filter) (document : MeadowlarkDocument) : Bool :=
  match filter with
  | .id expected => document.id = expected
  | .documentUuid expected => document.documentUuid = expected
  | .aliasMeadowlarkId expected => expected ∈ document.aliasMeadowlarkIds
  | .aliasMeadowlarkIds ids => document.aliasMeadowlarkIds.any (· ∈ ids)
  | .outboundRefs ids => document.outboundRefs.any (· ∈ ids)
  | .replaceable expected expectedUuid before =>
      document.id = expected ∧ document.documentUuid = expectedUuid ∧
        document.lastModifiedAt < before

/-- The alias list is the only field whose absence the code observes. -/
inductive Projection where
  | whole
  | onlyReturnId
  | onlyReturnAliasMeadowlarkId
  deriving DecidableEq

/-- The positional projection keeps the first alias that matches the query. -/
def Projection.apply (projection : Projection) (filter : Filter) (document : MeadowlarkDocument) :
    MeadowlarkDocument :=
  match projection with
  | .whole => document
  | .onlyReturnId => { document with aliasMeadowlarkIds := [] }
  | .onlyReturnAliasMeadowlarkId =>
      match filter with
      | .aliasMeadowlarkIds ids =>
          { document with aliasMeadowlarkIds := (document.aliasMeadowlarkIds.find? (· ∈ ids)).toList }
      | _ => document

/-- The driver calls that the repository functions make. -/
inductive Call where
  | findOne (filter : Filter) (projection : Projection) (session : Bool)
  | find (filter : Filter) (projection : Projection) (limit : Option Nat) (session : Bool)
  | insertMany (concurrencyDocuments : List DocumentUuid)
  | deleteMany (documentUuids : List DocumentUuid)
  | replaceOne (id : MeadowlarkId) (document : MeadowlarkDocument)
  | updateOne (filter : Filter) (document : MeadowlarkDocument)
  | deleteOne (documentUuid : DocumentUuid)
  deriving DecidableEq

structure ReplaceAnswer where
  acknowledged : Bool
  upsertedCount : Nat
  modifiedCount : Nat
  deriving DecidableEq

structure UpdateAnswer where
  acknowledged : Bool
  matchedCount : Nat
  deriving DecidableEq

structure DeleteAnswer where
  acknowledged : Bool
  deletedCount : Nat
  deriving DecidableEq

abbrev Call.Answer : Call → Type
  | .findOne _ _ _ => Option MeadowlarkDocument
  | .find _ _ _ _ => List MeadowlarkDocument
  | .insertMany _ => Unit
  | .deleteMany _ => Unit
  | .replaceOne _ _ => ReplaceAnswer
  | .updateOne _ _ => UpdateAnswer
  | .deleteOne _ => DeleteAnswer

def Call.inSession : Call → Bool
  | .findOne _ _ session => session
  | .find _ _ _ session => session
  | _ => true

/-- The driver throws an error with these fields. -/
structure DriverError where
  codeName : String
  message : String
  deriving DecidableEq

def duplicateKey : DriverError := ⟨"DuplicateKey", "E11000 duplicate key error"⟩

def immutableField : DriverError :=
  ⟨"ImmutableField", "the (immutable) field '_id' was found to have been altered"⟩

/-- The update sets every field but the uuid, the creator and the creation time. -/
def setFields (existing document : MeadowlarkDocument) : MeadowlarkDocument :=
  { document with
    id := existing.id
    documentUuid := existing.documentUuid
    createdBy := existing.createdBy
    createdAt := existing.createdAt }

/-- The first stored document that the filter matches. -/
def findDocument (store : Store) (filter : Filter) : Option MeadowlarkDocument :=
  (documents store).find? filter.matches

def findDocuments (store : Store) (filter : Filter) : List MeadowlarkDocument :=
  (documents store).filter filter.matches

/-- The meaning of one call with the keys it writes. -/
def perform : (call : Call) → Store → Except DriverError (Store × List RecordKey × call.Answer)
  | .findOne filter projection _, store =>
      .ok (store, [], (findDocument store filter).map (projection.apply filter))
  | .find filter projection limit _, store =>
      let found := (findDocuments store filter).map (projection.apply filter)
      .ok (store, [], match limit with
        | some count => found.take count
        | none => found)
  | .insertMany concurrencyDocuments, store =>
      match store.insertAll (concurrencyDocuments.map Record.concurrency) with
      | some following => .ok (following, concurrencyDocuments.map RecordKey.concurrency, ())
      | none => .error duplicateKey
  | .deleteMany documentUuids, store =>
      let keys := documentUuids.map RecordKey.concurrency
      .ok (store.erase keys, keys, ())
  | .replaceOne id document, store =>
      if document.id = id then
        .ok (store.put (.document document), [.document id],
          match findDocument store (.id id) with
          | none => ⟨true, 1, 0⟩
          | some existing => ⟨true, 0, if existing = document then 0 else 1⟩)
      else .error immutableField
  | .updateOne filter document, store =>
      match findDocument store filter with
      | none => .ok (store, [], ⟨true, 0⟩)
      | some existing =>
          .ok (store.put (.document (setFields existing document)), [.document existing.id],
            ⟨true, 1⟩)
  | .deleteOne documentUuid, store =>
      match findDocument store (.documentUuid documentUuid) with
      | none => .ok (store, [], ⟨true, 0⟩)
      | some existing => .ok (store.erase [.document existing.id], [.document existing.id], ⟨true, 1⟩)

theorem findDocument_some {store : Store} {filter : Filter} {document : MeadowlarkDocument}
    (found : findDocument store filter = some document) :
    document ∈ documents store ∧ filter.matches document = true :=
  ⟨List.mem_of_find?_eq_some found, List.find?_some found⟩

theorem findDocument_none {store : Store} {filter : Filter}
    (absent : findDocument store filter = none) {document : MeadowlarkDocument}
    (stored : document ∈ documents store) : filter.matches document = false := by
  have refused := List.find?_eq_none.mp absent document stored
  simpa using refused

theorem mem_findDocuments (store : Store) (filter : Filter) (document : MeadowlarkDocument) :
    document ∈ findDocuments store filter ↔
      document ∈ documents store ∧ filter.matches document = true := List.mem_filter

theorem perform_frame {call : Call} {store following : Store} {written : List RecordKey}
    {answer : call.Answer} (done : perform call store = .ok (following, written, answer))
    (record : Record) (outside : key record ∉ written) :
    record ∈ following.items ↔ record ∈ store.items := by
  cases call with
  | findOne filter projection session =>
      cases done
      exact Iff.rfl
  | find filter projection limit session =>
      cases done
      exact Iff.rfl
  | insertMany concurrencyDocuments =>
      simp only [perform] at done
      split at done
      · rename_i inserted accepted
        cases done
        rw [Database.insertAll_items accepted, List.mem_append]
        constructor
        · rintro (stored | added)
          · exact stored
          · obtain ⟨documentUuid, inside, rfl⟩ := List.mem_map.mp added
            exact absurd (List.mem_map_of_mem inside) outside
        · exact Or.inl
      · cases done
  | deleteMany documentUuids =>
      cases done
      rw [Database.mem_erase]
      exact ⟨And.left, fun stored => ⟨stored, outside⟩⟩
  | replaceOne id document =>
      simp only [perform] at done
      split at done
      · rename_i same
        cases done
        have apart : key record ≠ RecordKey.document document.id := by
          simpa [same] using outside
        rw [Database.mem_put]
        constructor
        · rintro (kept | rfl)
          · exact kept.1
          · exact absurd rfl apart
        · exact fun stored => .inl ⟨stored, apart⟩
      · cases done
  | updateOne filter document =>
      simp only [perform] at done
      split at done
      · cases done
        exact Iff.rfl
      · rename_i existing found
        cases done
        have apart : key record ≠ RecordKey.document existing.id := by simpa using outside
        rw [Database.mem_put]
        constructor
        · rintro (kept | rfl)
          · exact kept.1
          · exact absurd rfl apart
        · exact fun stored => .inl ⟨stored, apart⟩
  | deleteOne documentUuid =>
      simp only [perform] at done
      split at done
      · cases done
        exact Iff.rfl
      · cases done
        rw [Database.mem_erase]
        exact ⟨And.left, fun stored => ⟨stored, outside⟩⟩

/-- The driver of the document store. -/
def mongoDriver : Driver Record Call Call.Answer DriverError where
  inSession := Call.inSession
  perform := perform
  frame done record outside := perform_frame done record outside

/-- A transaction function is a program over the driver calls. -/
abbrev Session := Program Call Call.Answer

def findOne (filter : Filter) (projection : Projection) (session : Bool) :
    Session (Option MeadowlarkDocument) := .call (.findOne filter projection session) .pure

def find (filter : Filter) (projection : Projection) (limit : Option Nat) (session : Bool) :
    Session (List MeadowlarkDocument) := .call (.find filter projection limit session) .pure

def insertMany (concurrencyDocuments : List DocumentUuid) : Session Unit :=
  .call (.insertMany concurrencyDocuments) .pure

def deleteMany (documentUuids : List DocumentUuid) : Session Unit :=
  .call (.deleteMany documentUuids) .pure

def replaceOne (id : MeadowlarkId) (document : MeadowlarkDocument) : Session ReplaceAnswer :=
  .call (.replaceOne id document) .pure

def updateOne (filter : Filter) (document : MeadowlarkDocument) : Session UpdateAnswer :=
  .call (.updateOne filter document) .pure

def deleteOne (documentUuid : DocumentUuid) : Session DeleteAnswer :=
  .call (.deleteOne documentUuid) .pure

end Meadowlark.Mongo
