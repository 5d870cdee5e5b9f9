import Meadowlark.Construction.Mongo.Backend
import Meadowlark.Systems.SnapshotLogic

namespace Meadowlark.Mongo
open Meadowlark.Core Systems

section Documents

theorem documents_insertAll {store following : Store} {documentUuids : List DocumentUuid}
    (done : store.insertAll (documentUuids.map Record.concurrency) = some following) :
    documents following = documents store := by
  have hidden : (documentUuids.map Record.concurrency).filterMap Record.document? = [] := by
    simp [List.filterMap_map, Record.document?, Function.comp_def]
  unfold documents
  rw [Database.insertAll_items done, List.filterMap_append, hidden, List.append_nil]

theorem documents_erase_concurrency (store : Store) (documentUuids : List DocumentUuid) :
    documents (store.erase (documentUuids.map RecordKey.concurrency)) = documents store := by
  unfold documents Database.erase
  rw [List.filterMap_filter]
  refine List.filterMap_congr ?_
  intro record stored
  cases record with
  | document document => simp [Record.document?]
  | concurrency documentUuid => simp [Record.document?]

@[simp] theorem mem_documents_put (store : Store) (document other : MeadowlarkDocument) :
    other ∈ documents (store.put (.document document)) ↔
      (other ∈ documents store ∧ other.id ≠ document.id) ∨ other = document := by
  simp

@[simp] theorem mem_documents_erase (store : Store) (id : MeadowlarkId)
    (other : MeadowlarkDocument) :
    other ∈ documents (store.erase [.document id]) ↔
      other ∈ documents store ∧ other.id ≠ id := by
  simp

theorem documents_put (store : Store) (document : MeadowlarkDocument) :
    documents (store.put (.document document)) =
      documents (store.erase [.document document.id]) ++ [document] :=
  List.filterMap_append

theorem documents_perm_erase (store : Store) {document : MeadowlarkDocument}
    (stored : document ∈ documents store) :
    (documents store).Perm (document :: documents (store.erase [.document document.id])) :=
  (store.perm_erase ((mem_documents store document).mp stored)).filterMap Record.document?

/-- A write over a stored document keeps the number of documents. -/
theorem length_documents_put (store : Store) {existing document : MeadowlarkDocument}
    (stored : existing ∈ documents store) (same : existing.id = document.id) :
    (documents (store.put (.document document))).length = (documents store).length := by
  have counted := (documents_perm_erase store stored).length_eq
  rw [documents_put, List.length_append, counted, same]
  simp

/-- A write under an unused id adds one document. -/
theorem length_documents_put_fresh (store : Store) {document : MeadowlarkDocument}
    (fresh : ∀ other ∈ documents store, other.id ≠ document.id) :
    (documents (store.put (.document document))).length = (documents store).length + 1 := by
  have unchanged : store.erase [.document document.id] = store := by
    apply Database.ext_items
    apply List.filter_eq_self.mpr
    intro record stored
    cases record with
    | document other =>
        have different := fresh other ((mem_documents store other).mpr stored)
        simpa using different
    | concurrency documentUuid => simp
  rw [documents_put, unchanged]
  simp

@[simp] theorem mem_documents_install (committed view : Store) (written : List RecordKey)
    (document : MeadowlarkDocument) :
    document ∈ documents (committed.install view written) ↔
      (document ∈ documents committed ∧ .document document.id ∉ written) ∨
        (document ∈ documents view ∧ .document document.id ∈ written) := by
  simp

end Documents

section Weakest
variable {protocol : Protocol Record Call} {committed : Store}
  {transaction : Transaction Record}

theorem wp_findOne {filter : Filter} {projection : Projection}
    {post : Option MeadowlarkDocument → Store → Transaction Record → Prop}
    (holds : ∀ following moved, protocol.Interferes committed transaction following moved →
      moved.Aligned following →
      post ((findDocument moved.view filter).map (projection.apply filter)) following moved) :
    protocol.wp mongoDriver post (findOne filter projection true) committed transaction := by
  intro following moved interferes aligned _ view written answer done
  cases done
  exact holds following moved interferes aligned

theorem wp_findOne_whole {filter : Filter}
    {post : Option MeadowlarkDocument → Store → Transaction Record → Prop}
    (holds : ∀ following moved, protocol.Interferes committed transaction following moved →
      moved.Aligned following → post (findDocument moved.view filter) following moved) :
    protocol.wp mongoDriver post (findOne filter .whole true) committed transaction := by
  apply wp_findOne
  intro following moved interferes aligned
  have same : (findDocument moved.view filter).map (Projection.whole.apply filter) =
      findDocument moved.view filter := Option.map_id'
  rw [same]
  exact holds following moved interferes aligned

theorem wp_find {filter : Filter} {projection : Projection} {limit : Option Nat}
    {post : List MeadowlarkDocument → Store → Transaction Record → Prop}
    (holds : ∀ following moved, protocol.Interferes committed transaction following moved →
      moved.Aligned following →
      protocol.allowsCall following moved (.find filter projection limit true) →
      post (let found := (findDocuments moved.view filter).map (projection.apply filter)
          match limit with
          | some count => found.take count
          | none => found) following moved) :
    protocol.wp mongoDriver post (find filter projection limit true) committed transaction := by
  intro following moved interferes aligned allowed view written answer done
  cases done
  exact holds following moved interferes aligned allowed

theorem wp_find_committed {filter : Filter}
    {post : List MeadowlarkDocument → Store → Transaction Record → Prop}
    (holds : ∀ following moved, protocol.Interferes committed transaction following moved →
      moved.Aligned following →
      protocol.allowsCall following moved (.find filter .whole none false) →
      post (findDocuments following filter) following moved) :
    protocol.wp mongoDriver post (find filter .whole none false) committed transaction := by
  intro following moved interferes aligned allowed view written answer done
  have found : answer = (findDocuments following filter).map (Projection.apply .whole filter) := by
    cases done
    rfl
  have same : answer = findDocuments following filter := by
    rw [found]
    exact List.map_id _
  exact same ▸ holds following moved interferes aligned allowed

theorem wp_insertMany {documentUuids : List DocumentUuid}
    {post : Unit → Store → Transaction Record → Prop}
    (holds : ∀ following moved view, protocol.Interferes committed transaction following moved →
      documentUuids.Nodup →
      moved.view.insertAll (documentUuids.map Record.concurrency) = some view →
      post () following (moved.advance view (documentUuids.map RecordKey.concurrency))) :
    protocol.wp mongoDriver post (insertMany documentUuids) committed transaction := by
  intro following moved interferes aligned _ view written answer done
  simp only [mongoDriver, perform] at done
  split at done
  · rename_i inserted accepted
    cases done
    have unique := Database.insertAll_nodup accepted
    rw [List.map_map] at unique
    exact holds following moved _ interferes unique.of_map accepted
  · cases done

theorem wp_deleteMany {documentUuids : List DocumentUuid}
    {post : Unit → Store → Transaction Record → Prop}
    (holds : ∀ following moved, protocol.Interferes committed transaction following moved →
      post () following (moved.advance
        (moved.view.erase (documentUuids.map RecordKey.concurrency))
        (documentUuids.map RecordKey.concurrency))) :
    protocol.wp mongoDriver post (deleteMany documentUuids) committed transaction := by
  intro following moved interferes aligned _ view written answer done
  cases done
  exact holds following moved interferes

theorem wp_replaceOne {id : MeadowlarkId} {document : MeadowlarkDocument} (same : document.id = id)
    {post : ReplaceAnswer → Store → Transaction Record → Prop}
    (holds : ∀ following moved answer,
      protocol.Interferes committed transaction following moved → moved.Aligned following →
      protocol.allowsCall following moved (.replaceOne id document) →
      post answer following
        (moved.advance (moved.view.put (.document document)) [.document document.id])) :
    protocol.wp mongoDriver post (replaceOne id document) committed transaction := by
  subst same
  intro following moved interferes aligned allowed view written answer done
  simp only [mongoDriver, perform, if_true] at done
  obtain ⟨rfl, rfl, -⟩ : moved.view.put (.document document) = view ∧
      [RecordKey.document document.id] = written ∧ _ := by
    simpa using done
  exact holds following moved answer interferes aligned allowed

theorem wp_updateOne {filter : Filter} {document : MeadowlarkDocument}
    {post : UpdateAnswer → Store → Transaction Record → Prop}
    (absent : ∀ following moved, protocol.Interferes committed transaction following moved →
      findDocument moved.view filter = none → post ⟨true, 0⟩ following moved)
    (present : ∀ following moved existing,
      protocol.Interferes committed transaction following moved → moved.Aligned following →
      protocol.allowsCall following moved (.updateOne filter document) →
      findDocument moved.view filter = some existing →
      post ⟨true, 1⟩ following
        (moved.advance (moved.view.put (.document (setFields existing document)))
          [.document existing.id])) :
    protocol.wp mongoDriver post (updateOne filter document) committed transaction := by
  intro following moved interferes aligned allowed view written answer done
  simp only [mongoDriver, perform] at done
  split at done
  · rename_i none
    cases done
    exact absent following moved interferes none
  · rename_i existing found
    cases done
    exact present following moved existing interferes aligned allowed found

theorem wp_deleteOne {documentUuid : DocumentUuid}
    {post : DeleteAnswer → Store → Transaction Record → Prop}
    (absent : ∀ following moved, protocol.Interferes committed transaction following moved →
      findDocument moved.view (.documentUuid documentUuid) = none →
      post ⟨true, 0⟩ following moved)
    (present : ∀ following moved existing,
      protocol.Interferes committed transaction following moved → moved.Aligned following →
      findDocument moved.view (.documentUuid documentUuid) = some existing →
      post ⟨true, 1⟩ following
        (moved.advance (moved.view.erase [.document existing.id]) [.document existing.id])) :
    protocol.wp mongoDriver post (deleteOne documentUuid) committed transaction := by
  intro following moved interferes aligned _ view written answer done
  simp only [mongoDriver, perform] at done
  split at done
  · rename_i none
    cases done
    exact absent following moved interferes none
  · rename_i existing found
    cases done
    exact present following moved existing interferes aligned found

/-- A lock leaves the view as it was and writes only keys of the concurrency collection. -/
structure LockedOnly (transaction moved : Transaction Record) : Prop where
  view : moved.view = transaction.view
  snapshot : moved.snapshot = transaction.snapshot
  written (id : MeadowlarkId) :
    RecordKey.document id ∈ moved.written ↔ RecordKey.document id ∈ transaction.written

theorem wp_lockDocuments_only {documentUuids : List DocumentUuid}
    {post : Unit → Store → Transaction Record → Prop}
    (holds : ∀ following moved, LockedOnly transaction moved → post () following moved) :
    protocol.wp mongoDriver post (lockDocuments documentUuids) committed transaction := by
  apply Protocol.wp_seq
  apply wp_insertMany
  intro first started inserted beforeInsert unique accepted
  apply wp_deleteMany
  intro second locked beforeDelete
  apply holds
  have keys : (documentUuids.map Record.concurrency).map key =
      documentUuids.map RecordKey.concurrency := by
    rw [List.map_map]
    rfl
  constructor
  · rw [Transaction.advance_view, beforeDelete.view, Transaction.advance_view, ← keys,
      Database.insertAll_erase accepted, beforeInsert.view]
  · rw [Transaction.advance_snapshot, beforeDelete.snapshot, Transaction.advance_snapshot,
      beforeInsert.snapshot]
  · intro id
    rw [Transaction.advance_written, beforeDelete.written, Transaction.advance_written,
      beforeInsert.written]
    simp

theorem wp_lockReferencedDocuments_only {outboundRefs : List MeadowlarkId}
    {documentUuid : DocumentUuid} {post : Unit → Store → Transaction Record → Prop}
    (holds : ∀ following moved, LockedOnly transaction moved → post () following moved) :
    protocol.wp mongoDriver post (lockReferencedDocuments outboundRefs documentUuid)
      committed transaction := by
  apply Protocol.wp_seq
  apply wp_find_committed
  intro first started interferes aligned allowed
  apply wp_lockDocuments_only
  intro following moved locked
  apply holds
  constructor
  · rw [locked.view, interferes.view]
  · rw [locked.snapshot, interferes.snapshot]
  · intro id
    rw [locked.written, interferes.written]

end Weakest

section Reads
variable {A B : Type}

def Call.reads : Call → Bool
  | .findOne _ _ _ => true
  | .find _ _ _ _ => true
  | _ => false

/-- The program makes no write. -/
def ReadsOnly : Session A → Prop
  | .pure _ => True
  | .call call next => call.reads = true ∧ ∀ answer, ReadsOnly (next answer)

theorem ReadsOnly.bind {program : Session A} {f : A → Session B} (reads : ReadsOnly program)
    (rest : ∀ value, ReadsOnly (f value)) : ReadsOnly (program >>= f) := by
  induction program with
  | pure value => exact rest value
  | call call next ih => exact ⟨reads.1, fun answer => ih answer (reads.2 answer)⟩

theorem perform_reads {call : Call} (reads : call.reads = true) {store following : Store}
    {written : List RecordKey} {answer : call.Answer}
    (done : perform call store = .ok (following, written, answer)) :
    following = store ∧ written = [] := by
  cases call with
  | findOne filter projection session =>
      cases done
      exact ⟨rfl, rfl⟩
  | find filter projection limit session =>
      cases done
      exact ⟨rfl, rfl⟩
  | insertMany concurrencyDocuments => cases reads
  | deleteMany documentUuids => cases reads
  | replaceOne id document => cases reads
  | updateOne filter document => cases reads
  | deleteOne documentUuid => cases reads

/-- A program without writes only waits for the commits of others. -/
theorem ReadsOnly.wp {protocol : Protocol Record Call} {program : Session A}
    (reads : ReadsOnly program) {committed : Store} {transaction : Transaction Record}
    {post : A → Store → Transaction Record → Prop}
    (holds : ∀ value following moved,
      protocol.Interferes committed transaction following moved → post value following moved) :
    protocol.wp mongoDriver post program committed transaction := by
  induction program generalizing committed transaction with
  | pure value => exact holds value committed transaction (.refl _ _)
  | call call next ih =>
      intro following moved interferes aligned allowed
      split
      · intro view written answer done
        obtain ⟨rfl, rfl⟩ := perform_reads reads.1 done
        exact ih answer (reads.2 answer) fun value last final rest =>
          holds value last final (interferes.trans _ rest)
      · intro view written answer done
        exact ih answer (reads.2 answer) fun value last final rest =>
          holds value last final (interferes.trans _ rest)

end Reads

section ReadPrograms

theorem readsOnly_findReferringDocumentInfo (ids : List MeadowlarkId) :
    ReadsOnly (findReferringDocumentInfo ids) := ⟨rfl, fun _ => trivial⟩

theorem readsOnly_checkForReferencesToDocument (documentUuid : DocumentUuid) :
    ReadsOnly (checkForReferencesToDocument documentUuid) := by
  refine ⟨rfl, fun candidate => ?_⟩
  cases candidate with
  | none => trivial
  | some deleteCandidate =>
      refine ⟨rfl, fun referring => ?_⟩
      cases referring with
      | none => trivial
      | some blocking => exact (readsOnly_findReferringDocumentInfo _).bind fun _ => trivial

theorem readsOnly_findUpdatableDocument (document : MeadowlarkDocument)
    (updateRequest : UpdateRequest) :
    ReadsOnly (findUpdatableDocument document updateRequest) := ⟨rfl, fun _ => trivial⟩

variable [NodeRuntime]

theorem readsOnly_validateReferenceList (projection : Projection)
    (references : List DocumentReference) :
    ReadsOnly (validateReferenceList projection references) := ⟨rfl, fun _ => trivial⟩

theorem readsOnly_validateReferences
    (documentReferences descriptorReferences : List DocumentReference) :
    ReadsOnly (validateReferences documentReferences descriptorReferences) :=
  (readsOnly_validateReferenceList _ _).bind fun _ =>
    (readsOnly_validateReferenceList _ _).bind fun _ => trivial

theorem readsOnly_checkSuperclassIdentity (upsertRequest : UpsertRequest) (isInsert : Bool) :
    ReadsOnly (checkSuperclassIdentity upsertRequest isInsert) := by
  unfold checkSuperclassIdentity
  split
  · refine ⟨rfl, fun inUse => ?_⟩
    cases inUse with
    | none => trivial
    | some document => trivial
  · trivial

theorem readsOnly_checkUpsertReferences (upsertRequest : UpsertRequest) (isInsert : Bool) :
    ReadsOnly (checkUpsertReferences upsertRequest isInsert) := by
  unfold checkUpsertReferences
  split
  · apply (readsOnly_validateReferences _ _).bind
    intro failures
    split
    · trivial
    · exact (readsOnly_findReferringDocumentInfo _).bind fun _ => trivial
  · trivial

theorem readsOnly_checkForInvalidReferences (updateRequest : UpdateRequest) :
    ReadsOnly (checkForInvalidReferences updateRequest) := by
  apply (readsOnly_validateReferences _ _).bind
  intro failures
  split
  · trivial
  · exact (readsOnly_findReferringDocumentInfo _).bind fun _ => trivial

end ReadPrograms
end Meadowlark.Mongo
