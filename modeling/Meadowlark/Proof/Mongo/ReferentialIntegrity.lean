import Meadowlark.Proof.Mongo.Settlement

namespace Meadowlark.Mongo
open Meadowlark.Core Systems

section Locks
variable {committed : Store} {transaction : Transaction Record}
  {post : Unit → Store → Transaction Record → Prop}

theorem wp_lockDocuments {documentUuids : List DocumentUuid}
    (holds : ∀ following moved, Later committed transaction following moved →
      documents moved.view = documents transaction.view →
      (∀ written, written ∈ moved.written ↔
        written ∈ documentUuids.map RecordKey.concurrency ∨ written ∈ transaction.written) →
      documentUuids.Nodup → post () following moved) :
    integrity.wp mongoDriver post (lockDocuments documentUuids) committed transaction := by
  refine Protocol.wp_seq (wp_insertMany fun first started inserted beforeInsert unique accepted => ?_)
  refine wp_deleteMany fun second locked beforeDelete => ?_
  refine holds _ _ ?_ ?_ ?_ unique
  · exact (Later.of_interferes beforeInsert).trans ((Later.advance _ _ _ _).trans
      ((Later.of_interferes beforeDelete).trans (Later.advance _ _ _ _)))
  · rw [Transaction.advance_view, documents_erase_concurrency, beforeDelete.view,
      Transaction.advance_view, documents_insertAll accepted, beforeInsert.view]
  · intro written
    rw [Transaction.advance_written, beforeDelete.written, Transaction.advance_written,
      beforeInsert.written]
    simp only [List.mem_append]
    tauto

/-- The effect of a lock on the uuid of a document and on the holders of its references. -/
structure Locked (outboundRefs : List MeadowlarkId) (documentUuid : DocumentUuid)
    (committed : Store) (transaction : Transaction Record) (following : Store)
    (moved : Transaction Record) : Prop where
  later : Later committed transaction following moved
  view : documents moved.view = documents transaction.view
  written : ∀ id, .document id ∈ moved.written ↔ .document id ∈ transaction.written
  own : .concurrency documentUuid ∈ moved.written
  anchored : ∀ id ∈ outboundRefs, Holds transaction.view id → Anchored following moved id
  apart : ∀ existing ∈ documents transaction.snapshot, existing.documentUuid = documentUuid →
    .document existing.id ∈ moved.overwritten ∨
      ∀ id ∈ outboundRefs, id ∉ existing.aliasMeadowlarkIds

/-- The lock anchors every reference that the view holds.
A repeated uuid is rejected, so the document holds none of its own references. -/
theorem wp_lockReferencedDocuments {outboundRefs : List MeadowlarkId}
    {documentUuid : DocumentUuid}
    (holds : ∀ following moved,
      Locked outboundRefs documentUuid committed transaction following moved →
        post () following moved) :
    integrity.wp mongoDriver post (lockReferencedDocuments outboundRefs documentUuid)
      committed transaction := by
  refine Protocol.wp_seq (wp_find_committed fun first started interferes aligned allowed => ?_)
  refine wp_lockDocuments fun following moved later view written unique => ?_
  have before := Later.of_interferes interferes
  have locked : ∀ holder ∈ findDocuments first (.aliasMeadowlarkIds outboundRefs),
      RecordKey.concurrency holder.documentUuid ∈ moved.written := by
    intro holder found
    refine (written _).mpr (.inl (List.mem_map_of_mem ?_))
    exact List.mem_append_left _ (List.mem_map_of_mem found)
  refine holds following moved ⟨before.trans later, ?_, ?_, ?_, ?_, ?_⟩
  · rw [view, interferes.view]
  · intro id
    rw [written, interferes.written]
    simp
  · exact (written _).mpr (.inl (List.mem_map_of_mem (List.mem_append_right _ (by simp))))
  · intro id inside held
    obtain ⟨holder, stored, holderHeld⟩ := allowed id inside (by rwa [interferes.view])
    have found : holder ∈ findDocuments first (.aliasMeadowlarkIds outboundRefs) := by
      refine (mem_findDocuments _ _ _).mpr ⟨stored, ?_⟩
      exact List.any_eq_true.mpr ⟨id, holderHeld, by simpa using inside⟩
    refine ⟨holder.documentUuid, locked holder found, ?_⟩
    exact (show Tracked first started holder.documentUuid id from
      .inl ⟨holder, stored, rfl, holderHeld⟩).later later
  · intro existing inSnapshot same
    by_cases changed : .document existing.id ∈ started.overwritten
    · exact .inl (later.overwritten changed)
    · refine .inr fun id inside held => ?_
      have stored : existing ∈ documents first := by
        rw [mem_documents] at inSnapshot ⊢
        rw [← interferes.snapshot] at inSnapshot
        exact (aligned.committed_iff _ changed).mpr inSnapshot
      have found : existing ∈ findDocuments first (.aliasMeadowlarkIds outboundRefs) := by
        refine (mem_findDocuments _ _ _).mpr ⟨stored, ?_⟩
        exact List.any_eq_true.mpr ⟨id, held, by simpa using inside⟩
      have repeated := (List.nodup_append.mp unique).2.2 existing.documentUuid
        (List.mem_map_of_mem found) documentUuid (by simp)
      exact repeated same

theorem Settled.locked {outboundRefs : List MeadowlarkId} {documentUuid : DocumentUuid}
    {following : Store} {moved : Transaction Record} (settled : Settled committed transaction)
    (locked : Locked outboundRefs documentUuid committed transaction following moved) :
    Settled following moved := settled.later locked.later locked.view locked.written

theorem Unwritten.locked {outboundRefs : List MeadowlarkId} {documentUuid : DocumentUuid}
    {following : Store} {moved : Transaction Record} (unwritten : Unwritten transaction)
    (locked : Locked outboundRefs documentUuid committed transaction following moved) :
    Unwritten moved := by
  intro document stored inside
  exact unwritten document (locked.view ▸ stored) ((locked.written _).mp inside)

theorem Unwritten.interferes {following : Store} {moved : Transaction Record}
    (unwritten : Unwritten transaction)
    (interferes : integrity.Interferes committed transaction following moved) :
    Unwritten moved := by
  intro document stored inside
  rw [interferes.view] at stored
  rw [interferes.written] at inside
  exact unwritten document stored inside

end Locks

section Reads
variable [NodeRuntime] {A : Type} {committed : Store} {transaction : Transaction Record}

theorem wp_validateReferenceList {projection : Projection} (validates : projection.Validates)
    (selfAliased : SelfAliased transaction.view) {references : List DocumentReference}
    {post : List MissingIdentity → Store → Transaction Record → Prop}
    (holds : ∀ failures following moved,
      integrity.Interferes committed transaction following moved →
      (failures = [] → ∀ id ∈ references.map getMeadowlarkIdForDocumentReference,
        Holds transaction.view id) → post failures following moved) :
    integrity.wp mongoDriver post (validateReferenceList projection references)
      committed transaction := by
  refine Protocol.wp_seq (wp_find fun following moved interferes aligned allowed => ?_)
  refine holds _ following moved interferes fun clean id inside => ?_
  rw [← interferes.view] at selfAliased ⊢
  exact validated_holds selfAliased validates allowed clean inside

theorem wp_validateReferences (selfAliased : SelfAliased transaction.view)
    {documentReferences descriptorReferences : List DocumentReference}
    {post : List MissingIdentity → Store → Transaction Record → Prop}
    (holds : ∀ failures following moved,
      integrity.Interferes committed transaction following moved →
      (failures = [] → ∀ id ∈ documentReferences.map getMeadowlarkIdForDocumentReference ++
        descriptorReferences.map getMeadowlarkIdForDocumentReference,
          Holds transaction.view id) → post failures following moved) :
    integrity.wp mongoDriver post (validateReferences documentReferences descriptorReferences)
      committed transaction := by
  refine Protocol.wp_seq (wp_validateReferenceList
    (show Projection.Validates .onlyReturnAliasMeadowlarkId from trivial) selfAliased ?_)
  intro failures first started firstMoves documentsHeld
  refine Protocol.wp_seq (wp_validateReferenceList
    (show Projection.Validates .onlyReturnId from trivial) ?_ ?_)
  · rwa [firstMoves.view]
  intro descriptorFailures following moved secondMoves descriptorsHeld
  refine holds _ following moved (firstMoves.trans _ secondMoves) fun clean id inside => ?_
  obtain ⟨noFailures, noDescriptorFailures⟩ := List.append_eq_nil_iff.mp clean
  rcases List.mem_append.mp inside with document | descriptor
  · exact documentsHeld noFailures id document
  · rw [← firstMoves.view]
    exact descriptorsHeld noDescriptorFailures id descriptor

/-- A clean check leaves every reference of the request with a holder in the view. -/
theorem wp_checkUpsertReferences {upsertRequest : UpsertRequest} {isInsert : Bool}
    (selfAliased : SelfAliased transaction.view)
    {post : Option UpsertResult → Store → Transaction Record → Prop}
    (holds : ∀ failure following moved,
      integrity.Interferes committed transaction following moved →
      (failure = none → upsertRequest.validateDocumentReferencesExist = true →
        ∀ id ∈ referencedDocumentIdsFrom upsertRequest.documentInfo, Holds transaction.view id) →
      post failure following moved) :
    integrity.wp mongoDriver post (checkUpsertReferences upsertRequest isInsert)
      committed transaction := by
  unfold checkUpsertReferences
  split
  · refine Protocol.wp_seq (wp_validateReferences selfAliased ?_)
    intro failures first started firstMoves held
    split
    · rename_i clean
      exact holds none first started firstMoves fun _ _ => held clean
    · refine Protocol.wp_seq ((readsOnly_findReferringDocumentInfo _).wp ?_)
      intro infos following moved secondMoves
      refine holds _ following moved (firstMoves.trans _ secondMoves) ?_
      intro impossible
      cases impossible
  · rename_i unvalidated
    exact holds none committed transaction (.refl _ _) fun _ validated =>
      absurd validated unvalidated

theorem wp_checkForInvalidReferences {updateRequest : UpdateRequest}
    (selfAliased : SelfAliased transaction.view)
    {post : Option UpdateResult → Store → Transaction Record → Prop}
    (holds : ∀ failure following moved,
      integrity.Interferes committed transaction following moved →
      (failure = none → ∀ id ∈ referencedDocumentIdsFrom updateRequest.documentInfo,
        Holds transaction.view id) → post failure following moved) :
    integrity.wp mongoDriver post (checkForInvalidReferences updateRequest)
      committed transaction := by
  refine Protocol.wp_seq (wp_validateReferences selfAliased ?_)
  intro failures first started firstMoves held
  split
  · rename_i clean
    exact holds none first started firstMoves fun _ => held clean
  · refine Protocol.wp_seq ((readsOnly_findReferringDocumentInfo _).wp ?_)
    intro infos following moved secondMoves
    refine holds _ following moved (firstMoves.trans _ secondMoves) ?_
    intro impossible
    cases impossible

end Reads

section Transactions
variable {committed : Store} {transaction : Transaction Record}

/-- The document to be written can be locked, anchored and told apart from released documents. -/
structure Writable (documentUuid : DocumentUuid) (document : MeadowlarkDocument)
    (committed : Store) (transaction : Transaction Record) : Prop where
  settled : Settled committed transaction
  unwritten : Unwritten transaction
  own : document.documentUuid = documentUuid ∨
    .concurrency document.documentUuid ∈ transaction.written
  replaced : ∀ existing ∈ documents transaction.view, existing.id = document.id →
    existing.documentUuid = documentUuid
  apart : ∀ existing ∈ documents transaction.snapshot,
    .document existing.id ∈ transaction.written →
      .document existing.id ∈ transaction.overwritten ∨
        ∀ id ∈ document.outboundRefs, id ∉ existing.aliasMeadowlarkIds
  anchored : ∀ id ∈ document.outboundRefs,
    Anchored committed transaction id ∨ Holds transaction.view id
  selfAliased : document.id ∈ document.aliasMeadowlarkIds

/-- A locked document that is then written in place leaves the transaction settled. -/
theorem Writable.put {documentUuid : DocumentUuid} {document : MeadowlarkDocument}
    (writable : Writable documentUuid document committed transaction)
    {first following : Store} {started moved : Transaction Record}
    (locked : Locked document.outboundRefs documentUuid committed transaction first started)
    (interferes : integrity.Interferes first started following moved)
    (aligned : moved.Aligned following)
    (keeps : ∀ existing ∈ documents moved.view, existing.id = document.id →
      KeepsReferenced moved.view existing document) :
    Settled following (moved.advance (moved.view.put (.document document))
      [.document document.id]) := by
  have later := Later.of_interferes interferes
  have whole := locked.later.trans later
  have view : documents moved.view = documents transaction.view := by
    rw [interferes.view, locked.view]
  have written : ∀ id, .document id ∈ moved.written ↔ .document id ∈ transaction.written := by
    intro id
    rw [interferes.written, locked.written]
  apply Settled.put ((writable.settled.locked locked).interferes interferes) aligned
    ((writable.unwritten.locked locked).interferes interferes)
  · rcases writable.own with same | before
    · rw [same]
      exact later.written locked.own
    · exact whole.written before
  · intro existing stored same
    rw [writable.replaced existing (view ▸ stored) same]
    exact later.written locked.own
  · exact keeps
  · intro existing inSnapshot touched
    have original : existing ∈ documents transaction.snapshot := whole.snapshot ▸ inSnapshot
    by_cases before : .document existing.id ∈ moved.written
    · rcases writable.apart existing original ((written _).mp before) with gone | free
      · exact .inl (whole.overwritten gone)
      · exact .inr free
    · have inView : existing ∈ documents transaction.view := by
        rw [← view, mem_documents]
        rw [mem_documents] at inSnapshot
        exact (aligned.view_iff _ before).mpr inSnapshot
      have own := writable.replaced existing inView (touched.resolve_left before)
      rcases locked.apart existing original own with gone | free
      · exact .inl (later.overwritten gone)
      · exact .inr free
  · intro id referenced
    rcases writable.anchored id referenced with before | held
    · exact before.later whole
    · exact (locked.anchored id referenced held).later later
  · exact writable.selfAliased

/-- Reads of the transaction keep a document writable. -/
theorem Writable.interferes {documentUuid : DocumentUuid} {document : MeadowlarkDocument}
    (writable : Writable documentUuid document committed transaction)
    {following : Store} {moved : Transaction Record}
    (interferes : integrity.Interferes committed transaction following moved) :
    Writable documentUuid document following moved where
  settled := writable.settled.interferes interferes
  unwritten := writable.unwritten.interferes interferes
  own := by
    rw [interferes.written]
    exact writable.own
  replaced := by
    rw [interferes.view]
    exact writable.replaced
  apart existing inSnapshot written := by
    rw [interferes.snapshot] at inSnapshot
    rw [interferes.written] at written
    rcases writable.apart existing inSnapshot written with gone | free
    · exact .inl (interferes.overwritten _ gone)
    · exact .inr free
  anchored id referenced := by
    rw [interferes.view]
    rcases writable.anchored id referenced with before | held
    · exact .inl (before.later (.of_interferes interferes))
    · exact .inr held
  selfAliased := writable.selfAliased

/-- The uuid that an upsert locks belongs to every document that it replaces. -/
private theorem replacedUuid {store : Store} {id : MeadowlarkId} {generated : DocumentUuid}
    {document : MeadowlarkDocument} (stored : document ∈ documents store)
    (same : document.id = id) :
    document.documentUuid =
      ((findDocument store (.id id)).map (·.documentUuid)).getD generated := by
  cases found : findDocument store (.id id) with
  | none =>
      have refused := findDocument_none found stored
      simp [Filter.matches, same] at refused
  | some existing =>
      have inside := findDocument_some found
      have equal : existing = document := by
        apply documents_eq_of_id inside.1 stored
        simpa [Filter.matches, same] using inside.2
      simp [equal]

/-- A delete leaves the transaction settled, and a successful one removes the unreferenced
document with the uuid. -/
theorem wp_performDelete {documentUuid : DocumentUuid}
    (settled : Settled committed transaction) (unwritten : Unwritten transaction)
    (unreferenced : ∀ existing, findDocument transaction.view (.documentUuid documentUuid) =
      some existing → ∀ id ∈ existing.aliasMeadowlarkIds,
        ∀ other ∈ documents transaction.view, id ∉ other.outboundRefs)
    {post : DeleteResult → Store → Transaction Record → Prop}
    (failed : ∀ result following moved, result ≠ .deleteSuccess →
      Settled following moved → post result following moved)
    (deleted : ∀ following moved, Settled following moved → Unwritten moved →
      Later committed transaction following moved →
      (∀ document ∈ documents moved.view, document ∈ documents transaction.view) →
      (∀ document ∈ documents moved.snapshot, .document document.id ∈ moved.written →
        .document document.id ∈ transaction.written ∨ document.documentUuid = documentUuid) →
      post .deleteSuccess following moved) :
    integrity.wp mongoDriver post (performDelete documentUuid) committed transaction := by
  apply Protocol.wp_seq
  apply wp_lockDocuments
  intro first started later view written unique
  have keys : ∀ id, .document id ∈ started.written ↔ .document id ∈ transaction.written := by
    intro id
    rw [written]
    simp
  have settledFirst := settled.later later view keys
  have unwrittenFirst : Unwritten started := fun document stored inside =>
    unwritten document (view ▸ stored) ((keys _).mp inside)
  apply Protocol.wp_seq
  apply wp_deleteOne
  · intro following moved interferes absent
    exact failed _ following moved (by simp) (settledFirst.interferes interferes)
  · intro following moved existing interferes aligned found
    have sameView : documents moved.view = documents transaction.view := by
      rw [interferes.view, view]
    have original : findDocument transaction.view (.documentUuid documentUuid) =
        some existing := by
      unfold findDocument at found ⊢
      rw [← sameView]
      exact found
    have inside := findDocument_some found
    have own : existing.documentUuid = documentUuid := by
      simpa [Filter.matches] using inside.2
    have unwrittenMoved := unwrittenFirst.interferes interferes
    have locked : .concurrency existing.documentUuid ∈ moved.written := by
      rw [interferes.written, written, own]
      simp
    have erased := (settledFirst.interferes interferes).erase aligned unwrittenMoved inside.1
      locked (by
        intro id held other stored
        exact unreferenced existing original id held other (sameView ▸ stored))
    apply deleted following _ erased.1 erased.2
    · exact later.trans ((Later.of_interferes interferes).trans (.advance _ _ _ _))
    · intro document stored
      rw [← sameView]
      exact ((mem_documents_erase _ _ _).mp stored).1
    · intro document inSnapshot inside'
      simp only [Transaction.advance_written, List.singleton_append, List.mem_cons,
        RecordKey.document.injEq] at inside'
      rcases inside' with same | before
      · have equal := documents_eq_of_id inSnapshot
          (unwrittenMoved.snapshot_iff aligned inside.1) same
        exact .inr (equal ▸ own)
      · rw [interferes.written, keys] at before
        exact .inl before

/-- A check without referring documents leaves the aliases of the document unreferenced. -/
theorem wp_checkForReferencesToDocument {documentUuid : DocumentUuid}
    {post : Option DeleteResult → Store → Transaction Record → Prop}
    (holds : ∀ failure following moved,
      integrity.Interferes committed transaction following moved →
      failure ≠ some .deleteSuccess →
      (failure = none → ∀ existing,
        findDocument transaction.view (.documentUuid documentUuid) = some existing →
          ∀ id ∈ existing.aliasMeadowlarkIds,
            ∀ other ∈ documents transaction.view, id ∉ other.outboundRefs) →
      post failure following moved) :
    integrity.wp mongoDriver post (checkForReferencesToDocument documentUuid)
      committed transaction := by
  apply Protocol.wp_seq
  apply wp_findOne_whole
  intro first started beforeFind aligned
  rw [beforeFind.view]
  cases candidate : findDocument transaction.view (.documentUuid documentUuid) with
  | none =>
      apply holds _ first started beforeFind
      · simp
      · intro impossible
        cases impossible
  | some deleteCandidate =>
      apply Protocol.wp_seq
      apply wp_findOne
      intro second checked beforeCheck aligned
      have untilCheck := beforeFind.trans _ beforeCheck
      rw [untilCheck.view]
      cases referring : findDocument transaction.view
          (.outboundRefs deleteCandidate.aliasMeadowlarkIds) with
      | none =>
          apply holds _ second checked untilCheck
          · simp
          · intro clean existing found id held other stored referenced
            obtain rfl : deleteCandidate = existing := by
              rw [candidate] at found
              exact Option.some.inj found
            have refused := findDocument_none referring stored
            have accepted : (Filter.outboundRefs
                deleteCandidate.aliasMeadowlarkIds).matches other = true :=
              List.any_eq_true.mpr ⟨id, referenced, by simpa using held⟩
            rw [accepted] at refused
            cases refused
      | some blocking =>
          apply Protocol.wp_seq
          apply (readsOnly_findReferringDocumentInfo _).wp
          intro infos following moved beforeInfo
          apply holds _ following moved (untilCheck.trans _ beforeInfo)
          · simp
          · intro impossible
            cases impossible

theorem wp_deleteDocumentByMeadowlarkIdTransaction {documentUuid : DocumentUuid}
    (settled : Settled committed transaction) (unwritten : Unwritten transaction)
    {post : DeleteResult → Store → Transaction Record → Prop}
    (failed : ∀ result following moved, result ≠ .deleteSuccess →
      Settled following moved → post result following moved)
    (deleted : ∀ following moved, Settled following moved → Unwritten moved →
      Later committed transaction following moved →
      (∀ document ∈ documents moved.view, document ∈ documents transaction.view) →
      (∀ document ∈ documents moved.snapshot, .document document.id ∈ moved.written →
        .document document.id ∈ transaction.written ∨ document.documentUuid = documentUuid) →
      post .deleteSuccess following moved) :
    integrity.wp mongoDriver post (deleteDocumentByMeadowlarkIdTransaction documentUuid true)
      committed transaction := by
  apply Protocol.wp_seq
  apply wp_checkForReferencesToDocument
  intro failure first started interferes unsuccessful unreferenced
  have settledFirst := settled.interferes interferes
  cases failure with
  | some result => exact failed result first started (by simpa using unsuccessful) settledFirst
  | none =>
      apply wp_performDelete settledFirst (unwritten.interferes interferes)
      · rw [interferes.view]
        exact unreferenced rfl
      · exact failed
      · intro following moved settledMoved unwrittenMoved later view written
        apply deleted following moved settledMoved unwrittenMoved
        · exact (Later.of_interferes interferes).trans later
        · rw [interferes.view] at view
          exact view
        · rw [interferes.written] at written
          exact written

theorem wp_writeDocument {upsertRequest : UpsertRequest} {documentUuid : DocumentUuid}
    {document : MeadowlarkDocument} (same : document.id = upsertRequest.meadowlarkId)
    (writable : Writable documentUuid document committed transaction) :
    integrity.wp mongoDriver
      (fun _ following moved => Settled following moved)
      (writeDocument upsertRequest documentUuid document) committed transaction := by
  apply Protocol.wp_seq
  apply wp_lockReferencedDocuments
  intro first started locked
  apply Protocol.wp_seq
  apply wp_replaceOne same
  intro following moved answer interferes aligned allowed
  exact writable.put locked interferes aligned (same ▸ allowed)

variable [NodeRuntime]

/-- An upsert settles the document of an update, or its own validated document. -/
theorem wp_upsertDocumentTransaction {generated : DocumentUuid} {upsertRequest : UpsertRequest}
    {documentFromUpdate : Option MeadowlarkDocument}
    (settled : Settled committed transaction)
    (writable : ∀ documentUuid following moved,
      integrity.Interferes committed transaction following moved →
      (upsertRequest.validateDocumentReferencesExist = true →
        ∀ id ∈ referencedDocumentIdsFrom upsertRequest.documentInfo, Holds transaction.view id) →
      (∀ existing ∈ documents transaction.view, existing.id = upsertRequest.meadowlarkId →
        existing.documentUuid = documentUuid) →
      ∀ existingDocument : Option MeadowlarkDocument,
        documentUuid = (existingDocument.map (·.documentUuid)).getD generated →
        (documentFromUpdate.getD
          (documentFromUpsert upsertRequest generated existingDocument)).id =
            upsertRequest.meadowlarkId ∧
        Writable documentUuid
          (documentFromUpdate.getD (documentFromUpsert upsertRequest generated existingDocument))
          following moved) :
    integrity.wp mongoDriver (fun _ following moved => Settled following moved)
      (upsertDocumentTransaction generated upsertRequest documentFromUpdate)
      committed transaction := by
  apply Protocol.wp_seq
  apply wp_findOne_whole
  intro first started beforeFind aligned
  split
  · exact settled.interferes beforeFind
  · apply Protocol.wp_seq
    apply (readsOnly_checkSuperclassIdentity _ _).wp
    intro conflict second checked beforeCheck
    have untilCheck := beforeFind.trans _ beforeCheck
    cases conflict with
    | some failure => exact settled.interferes untilCheck
    | none =>
        apply Protocol.wp_seq
        apply wp_checkUpsertReferences
        · rw [untilCheck.view]
          exact settled.selfAliased
        · intro invalid third validated beforeWrite held
          have untilWrite := untilCheck.trans _ beforeWrite
          cases invalid with
          | some failure => exact settled.interferes untilWrite
          | none =>
              rw [untilCheck.view] at held
              have replaced : ∀ existing ∈ documents transaction.view,
                  existing.id = upsertRequest.meadowlarkId → existing.documentUuid =
                    ((findDocument started.view (.id upsertRequest.meadowlarkId)).map
                      (·.documentUuid)).getD generated := by
                intro existing stored same
                rw [beforeFind.view]
                exact replacedUuid stored same
              have ready := writable _ third validated untilWrite (held rfl) replaced _ rfl
              exact wp_writeDocument ready.1 ready.2

/-- The transaction has written no document. -/
def ReadOnly (transaction : Transaction Record) : Prop :=
  ∀ id, .document id ∉ transaction.written

omit [NodeRuntime] in
theorem ReadOnly.unwritten (readOnly : ReadOnly transaction) : Unwritten transaction :=
  fun document _ => readOnly document.id

/-- The reinserted document is settled when it differs from the aliases of the deleted one. -/
theorem wp_deleteAndInsert {generated : DocumentUuid} {document : MeadowlarkDocument}
    {updateRequest : UpdateRequest} (settled : Settled committed transaction)
    (readOnly : ReadOnly transaction) (same : document.id = updateRequest.meadowlarkId)
    (locked : .concurrency document.documentUuid ∈ transaction.written)
    (anchored : ∀ id ∈ document.outboundRefs, Anchored committed transaction id)
    (apart : ∀ existing ∈ documents transaction.snapshot,
      existing.documentUuid = updateRequest.documentUuid →
        .document existing.id ∈ transaction.overwritten ∨
          ∀ id ∈ document.outboundRefs, id ∉ existing.aliasMeadowlarkIds)
    (selfAliased : document.id ∈ document.aliasMeadowlarkIds) :
    integrity.wp mongoDriver (fun _ following moved => Settled following moved)
      (deleteAndInsert generated document updateRequest) committed transaction := by
  apply Protocol.wp_seq
  apply wp_deleteDocumentByMeadowlarkIdTransaction settled readOnly.unwritten
  · intro result following moved unsuccessful settledMoved
    cases result with
    | deleteSuccess => exact absurd rfl unsuccessful
    | deleteFailureReference infos => exact settledMoved
    | deleteFailureNotExists => exact settledMoved
    | deleteFailureWriteConflict message => exact settledMoved
    | unknownFailure message => exact settledMoved
  · intro first started settledFirst unwritten later view written
    apply Protocol.wp_seq
    apply Protocol.wp_mono
    · apply wp_upsertDocumentTransaction settledFirst
      intro documentUuid following moved interferes _ replaced existingDocument _
      refine ⟨same, Writable.interferes ⟨settledFirst, unwritten, ?_, ?_, ?_, ?_, ?_⟩ interferes⟩
      · exact .inr (later.written locked)
      · intro existing stored equal
        exact replaced existing stored (equal.trans same)
      · intro existing inSnapshot inside
        have original : existing ∈ documents transaction.snapshot := later.snapshot ▸ inSnapshot
        have own := (written existing inSnapshot inside).resolve_left (readOnly existing.id)
        rcases apart existing original own with gone | free
        · exact .inl (later.overwritten gone)
        · exact .inr free
      · exact fun id referenced => .inl ((anchored id referenced).later later)
      · exact selfAliased
    · exact fun result following moved settledMoved => settledMoved

omit [NodeRuntime] in
/-- A replacement in place settles the transaction, and otherwise nothing happens. -/
theorem wp_tryUpdateByReplacement {document : MeadowlarkDocument}
    {updateRequest : UpdateRequest} {first : Store} {started : Transaction Record}
    (settled : Settled committed transaction) (readOnly : ReadOnly transaction)
    (same : document.id = updateRequest.meadowlarkId)
    (held : ∀ id ∈ document.outboundRefs, Holds transaction.view id)
    (selfAliased : document.id ∈ document.aliasMeadowlarkIds)
    (locked : Locked document.outboundRefs updateRequest.documentUuid committed transaction
      first started)
    {post : Option UpdateResult → Store → Transaction Record → Prop}
    (replaced : ∀ result following moved, Settled following moved →
      post (some result) following moved)
    (unmatched : ∀ following moved, integrity.Interferes first started following moved →
      post none following moved) :
    integrity.wp mongoDriver post (tryUpdateByReplacement document updateRequest)
      first started := by
  apply Protocol.wp_seq
  apply wp_updateOne
  · intro following moved interferes absent
    exact unmatched following moved interferes
  · intro following moved existing interferes aligned allowed found
    have inside := findDocument_some found
    have sameView : documents moved.view = documents transaction.view := by
      rw [interferes.view, locked.view]
    obtain ⟨sameId, own, -⟩ : existing.id = updateRequest.meadowlarkId ∧
        existing.documentUuid = updateRequest.documentUuid ∧
          existing.lastModifiedAt < document.lastModifiedAt := by
      simpa [Filter.matches] using inside.2
    apply replaced
    have writable : Writable updateRequest.documentUuid (setFields existing document)
        committed transaction := by
      refine ⟨settled, readOnly.unwritten, .inl own, ?_, ?_, ?_, ?_⟩
      · intro other stored equal
        have equalDocument := documents_eq_of_id (sameView ▸ stored) inside.1 equal
        exact equalDocument ▸ own
      · exact fun other _ written => absurd written (readOnly other.id)
      · exact fun id referenced => .inr (held id referenced)
      · change existing.id ∈ document.aliasMeadowlarkIds
        rw [sameId, ← same]
        exact selfAliased
    apply writable.put locked interferes aligned
    intro other stored equal
    have equalDocument := documents_eq_of_id stored inside.1 equal
    exact equalDocument ▸ allowed existing found

theorem wp_updateValidDocument {generated : DocumentUuid} {updateRequest : UpdateRequest}
    (settled : Settled committed transaction) (readOnly : ReadOnly transaction)
    (held : ∀ id ∈ referencedDocumentIdsFrom updateRequest.documentInfo,
      Holds transaction.view id) :
    integrity.wp mongoDriver (fun _ following moved => Settled following moved)
      (updateValidDocument generated updateRequest) committed transaction := by
  have selfAliased : (documentFromUpdateRequest updateRequest).id ∈
      (documentFromUpdateRequest updateRequest).aliasMeadowlarkIds := List.mem_cons_self
  unfold updateValidDocument
  split
  · apply Protocol.wp_seq
    apply wp_lockReferencedDocuments
    intro first started locked
    apply Protocol.wp_seq
    apply wp_tryUpdateByReplacement settled readOnly rfl held selfAliased locked
    · intro result following moved settledMoved
      exact settledMoved
    · intro second unmatched beforeFind
      apply Protocol.wp_seq
      apply (readsOnly_findUpdatableDocument _ _).wp
      intro outcome third found beforeDelete
      have untilDelete := beforeFind.trans _ beforeDelete
      have settledThird := (settled.locked locked).interferes untilDelete
      have later := Later.of_interferes untilDelete
      cases outcome with
      | error result => exact settledThird
      | ok documentByUuid =>
          apply wp_deleteAndInsert settledThird
          · intro id written
            rw [untilDelete.written, locked.written] at written
            exact readOnly id written
          · rfl
          · exact later.written locked.own
          · exact fun id referenced =>
              (locked.anchored id referenced (held id referenced)).later later
          · intro existing inSnapshot own
            have original : existing ∈ documents transaction.snapshot :=
              (locked.later.trans later).snapshot ▸ inSnapshot
            rcases locked.apart existing original own with gone | free
            · exact .inl (later.overwritten gone)
            · exact .inr free
          · exact selfAliased
  · apply Protocol.wp_seq
    apply wp_lockReferencedDocuments
    intro first started locked
    apply Protocol.wp_seq
    apply wp_tryUpdateByReplacement settled readOnly rfl held selfAliased locked
    · intro result following moved settledMoved
      exact settledMoved
    · intro second unmatched beforeFind
      apply Protocol.wp_seq
      apply (readsOnly_findUpdatableDocument _ _).wp
      intro outcome third found beforeReturn
      have settledThird := (settled.locked locked).interferes (beforeFind.trans _ beforeReturn)
      cases outcome with
      | error result => exact settledThird
      | ok documentByUuid => exact settledThird

end Transactions

end Meadowlark.Mongo
