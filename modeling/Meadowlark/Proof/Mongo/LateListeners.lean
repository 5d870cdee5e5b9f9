import Meadowlark.Proof.Mongo.Deposits
import Meadowlark.Proof.Search.LateListeners

namespace Meadowlark.Mongo
open Meadowlark.Core Systems
variable [NodeRuntime] {store : Store} {deposits : Deposits} {generated : GeneratedUuids}

section Creators
variable {write : WriteRequest}

/-- Every document has been created by the client of its last write. -/
def Credited (store : Store) (deposits : Deposits) : Prop :=
  ∀ document ∈ documents store, ∀ request, deposits document.documentUuid = some request →
    document.createdBy = request.security.clientId

omit [NodeRuntime] in
theorem Credited.put (credited : Credited store deposits) {document : MeadowlarkDocument}
    {request : UpsertRequest} (created : document.createdBy = request.security.clientId)
    (apart : ∀ other ∈ documents store,
      other.documentUuid = document.documentUuid ↔ other.id = document.id) :
    Credited (store.put (.document document))
      (Function.update deposits document.documentUuid (some request)) := by
  intro other inside given deposited
  rcases (mem_documents_put _ _ _).mp inside with ⟨old, different⟩ | rfl
  · rw [Function.update_of_ne fun same => different ((apart other old).mp same)] at deposited
    exact credited other old given deposited
  · rw [Function.update_self] at deposited
    cases deposited
    exact created

omit [NodeRuntime] in
theorem Credited.without (credited : Credited store deposits) (orderly : Orderly store)
    {dropped : MeadowlarkDocument} (stored : dropped ∈ documents store) :
    Credited (withoutDocument store dropped)
      (Function.update deposits dropped.documentUuid none) := by
  intro other inside given deposited
  obtain ⟨old, different⟩ := (mem_documents_erase _ _ _).mp inside
  rw [Function.update_of_ne fun same => different ((orderly.apart stored old).mp same)] at deposited
  exact credited other old given deposited

/-- An update in place keeps the creator, so it has to be the creator who makes it. -/
theorem Credited.written (credited : Credited store deposits) (orderly : Orderly store)
    (writes : WritesApart generated store write) (keeps : KeepsCreator store write) :
    Credited (write.contents (documentStore generated) store)
      (depositsListener.told (write.report (documentStore generated) store) deposits) := by
  have record := recorded orderly writes
  generalize write.contents (documentStore generated) store = following at record
  cases record with
  | nothing told =>
      rw [told]
      exact credited
  | put told storedAs aliased apart created =>
      rw [told]
      exact credited.put (created keeps) apart
  | @moved existing document request stored same told storedAs aliased apart created =>
      have put := (credited.without orderly stored).put created apart
      rw [same, Function.update_idem] at put
      rw [told]
      exact put
  | removed stored told =>
      rw [told]
      exact credited.without orderly stored

end Creators

/-- What the search index has to show of a document. -/
def searchedDocument (document : MeadowlarkDocument) : Search.SearchedDocument where
  documentUuid := document.documentUuid
  meadowlarkId := document.id
  projectName := document.projectName
  resourceVersion := document.resourceVersion
  resourceName := document.resourceName
  edfiDoc := document.edfiDoc
  createdBy := document.createdBy

def searchedDocuments (store : Store) : List Search.SearchedDocument :=
  (documents store).map searchedDocument

/-- The write leaves other documents alone. When it is accepted, the engine can show its document, and
an update in place is made by the creator. -/
structure WritesSearched (resources : Set ResourceInfo) (generated : GeneratedUuids) (store : Store)
    (write : WriteRequest) : Prop where
  apart : WritesApart generated store write
  shown : WriteAccepted store write →
    Search.WritesShown resources (searchedDocuments store) write
  keeps : KeepsCreator store write

/-- An upsert writes a new document or the one with its id. -/
theorem upserted_id (orderly : Orderly store) {request : UpsertRequest}
    (apart : WritesApart generated store (.upsert request)) {result : UpsertResult}
    (answered : ((documentStore generated).upsertDocument request store).1 = .ok result)
    {documentUuid : DocumentUuid}
    (written : (ListenerEvent.afterUpsertDocument request result).writtenUuid = some documentUuid)
    {document : MeadowlarkDocument} (stored : document ∈ documents store)
    (named : document.documentUuid = documentUuid) : document.id = request.meadowlarkId := by
  have effect := perform_effect store (.upsert generated request)
  change CallEffect store (.upsert generated request)
    ((upsertDocument generated request store).1.map .upsert) _ at effect
  rw [serveCall_ok.mp answered] at effect
  generalize (SequentialCall.perform (.upsert generated request) store).2 = following at effect
  cases effect with
  | @inserted _ _ newDocumentUuid inside absent accepted =>
      cases written
      exact absurd named (apart.fresh documentUuid inside document stored)
  | @overwritten _ _ existing found accepted =>
      cases written
      obtain ⟨existingStored, sameId⟩ := findDocument_id found
      exact ((orderly.apart existingStored stored).mp named).trans sameId
  | failed unsuccessful =>
      have failed := unsuccessful _ rfl
      cases (succeeded_of_writtenUuid written).symm.trans failed

/-- The collection is one whose documents an engine can show. -/
theorem showable (resources : Set ResourceInfo) :
    Search.Showable documentStore resources searchedDocuments id (WritesSearched resources)
      (fun store deposits => Deposited store deposits ∧ Credited store deposits) where
  requests := {
    checked := fun generated validated held => by
      rw [guardAnswer_store]
      exact held
    read := fun _ _ held => held
    written := fun held writes => ⟨held.1.written writes.apart,
      held.2.written held.1.orderly writes.apart writes.keeps⟩ }
  stored held document inside := by
    obtain ⟨stored, listed, rfl⟩ := List.mem_map.mp inside
    obtain ⟨request, deposited, storedAs⟩ := held.1.stored stored listed
    refine ⟨request, deposited, ⟨⟨?_, ?_, ?_⟩, ?_, held.2 stored listed request deposited⟩⟩
    · exact congrArg MeadowlarkDocument.projectName storedAs
    · exact congrArg MeadowlarkDocument.resourceVersion storedAs
    · exact congrArg MeadowlarkDocument.resourceName storedAs
    · exact congrArg MeadowlarkDocument.edfiDoc storedAs
  present held documentUuid request deposited := by
    obtain ⟨document, stored, named⟩ := held.1.present documentUuid request deposited
    exact ⟨searchedDocument document, List.mem_map_of_mem stored, named⟩
  unique held document inside other otherInside same := by
    obtain ⟨stored, listed, rfl⟩ := List.mem_map.mp inside
    obtain ⟨otherStored, otherListed, rfl⟩ := List.mem_map.mp otherInside
    exact congrArg searchedDocument
      (held.1.orderly.uuidsUnique otherStored otherListed stored listed same)
  shown _ writes succeeds := writes.shown (writeAccepted_iff.mp ⟨_, succeeds⟩)
  upserted held writes answered written document inside named := by
    obtain ⟨stored, listed, rfl⟩ := List.mem_map.mp inside
    exact upserted_id held.1.orderly writes.apart answered written listed named

end Meadowlark.Mongo
