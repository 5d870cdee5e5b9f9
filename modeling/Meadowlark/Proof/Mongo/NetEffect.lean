import Meadowlark.Proof.Mongo.Calls
import Meadowlark.Systems.SnapshotHistory

namespace Meadowlark.Mongo
open Meadowlark.Core Systems

/-- Where a written document comes from: it is new under the generated uuid, or it is a newer form
of a document of the snapshot, whose key the transaction has written too. -/
inductive Origin (snapshot : Store) (written : List RecordKey) (generated : Option DocumentUuid)
    (document : MeadowlarkDocument) : Prop where
  | inserted (fresh : generated = some document.documentUuid)
      (created : document.createdAt = some document.lastModifiedAt)
  | rewritten {existing : MeadowlarkDocument} (stored : existing ∈ documents snapshot)
      (touched : .document existing.id ∈ written)
      (same : existing.documentUuid = document.documentUuid)
      (newer : existing.lastModifiedAt < document.lastModifiedAt)
      (created : existing.createdAt.isSome → document.createdAt = existing.createdAt)

/-- A transaction writes at most one document, and it leaves no lock behind. -/
structure NetEffect (generated : Option DocumentUuid) (transaction : Transaction Record) :
    Prop where
  origin : ∀ document ∈ documents transaction.view, .document document.id ∈ transaction.written →
    Origin transaction.snapshot transaction.written generated document
  single : ∀ first ∈ documents transaction.view, .document first.id ∈ transaction.written →
    ∀ second ∈ documents transaction.view, .document second.id ∈ transaction.written →
      first = second
  unlocked : ∀ documentUuid, .concurrency documentUuid ∈ transaction.view.items →
    .concurrency documentUuid ∈ transaction.snapshot.items

/-- The transaction has written no document that its view still holds. -/
structure Cleared (transaction : Transaction Record) : Prop where
  unwritten : ∀ document ∈ documents transaction.view, .document document.id ∉ transaction.written
  kept : ∀ document ∈ documents transaction.view, document ∈ documents transaction.snapshot
  unlocked : ∀ documentUuid, .concurrency documentUuid ∈ transaction.view.items →
    .concurrency documentUuid ∈ transaction.snapshot.items

section States
variable {protocol : Protocol Record Call} {generated : Option DocumentUuid}
  {committed following : Store} {transaction moved : Transaction Record}
  {document : MeadowlarkDocument}

theorem Origin.mono {snapshot : Store} {written more : List RecordKey}
    (origin : Origin snapshot written generated document)
    (inside : ∀ id, RecordKey.document id ∈ written → .document id ∈ more) :
    Origin snapshot more generated document := by
  cases origin with
  | inserted fresh created => exact .inserted fresh created
  | rewritten stored touched same newer created =>
      exact .rewritten stored (inside _ touched) same newer created

theorem cleared_start (committed : Store) : Cleared (Transaction.start committed) where
  unwritten _ _ := List.not_mem_nil
  kept _ stored := stored
  unlocked _ stored := stored

theorem Cleared.interferes (cleared : Cleared transaction)
    (interferes : protocol.Interferes committed transaction following moved) :
    Cleared moved := by
  obtain ⟨unwritten, kept, unlocked⟩ := cleared
  constructor
  · rw [interferes.view, interferes.written]
    exact unwritten
  · rw [interferes.view, interferes.snapshot]
    exact kept
  · rw [interferes.view, interferes.snapshot]
    exact unlocked

theorem Cleared.locked (cleared : Cleared transaction) (locked : LockedOnly transaction moved) :
    Cleared moved := by
  obtain ⟨unwritten, kept, unlocked⟩ := cleared
  constructor
  · intro document stored
    rw [locked.view] at stored
    rw [locked.written]
    exact unwritten document stored
  · rw [locked.view, locked.snapshot]
    exact kept
  · rw [locked.view, locked.snapshot]
    exact unlocked

theorem Cleared.erase (cleared : Cleared transaction) (id : MeadowlarkId) :
    Cleared (transaction.advance (transaction.view.erase [.document id]) [.document id]) where
  unwritten document stored inside := by
    obtain ⟨old, different⟩ := (mem_documents_erase _ _ _).mp stored
    rcases List.mem_cons.mp inside with same | before
    · exact different (RecordKey.document.inj same)
    · exact cleared.unwritten document old before
  kept document stored := cleared.kept document ((mem_documents_erase _ _ _).mp stored).1
  unlocked documentUuid stored :=
    cleared.unlocked documentUuid ((Database.mem_erase _ _ _).mp stored).1

/-- The commits of other transactions leave the net effect as it was. -/
theorem netEffect_stable (generated : Option DocumentUuid) :
    protocol.Stable fun _ transaction => NetEffect generated transaction :=
  fun effect _ => ⟨effect.origin, effect.single, effect.unlocked⟩

theorem Cleared.netEffect (cleared : Cleared transaction) : NetEffect generated transaction where
  origin document stored written := absurd written (cleared.unwritten document stored)
  single first stored written := absurd written (cleared.unwritten first stored)
  unlocked := cleared.unlocked

/-- One write finishes the net effect. -/
theorem Cleared.put (cleared : Cleared transaction)
    (origin : Origin transaction.snapshot (.document document.id :: transaction.written) generated
      document) :
    NetEffect generated (transaction.advance (transaction.view.put (.document document))
      [.document document.id]) := by
  have only : ∀ other ∈ documents (transaction.view.put (.document document)),
      RecordKey.document other.id ∈ [.document document.id] ++ transaction.written →
        other = document := by
    intro other stored written
    rcases (mem_documents_put _ _ _).mp stored with ⟨old, different⟩ | same
    · rcases List.mem_cons.mp written with equal | before
      · exact absurd (RecordKey.document.inj equal) different
      · exact absurd before (cleared.unwritten other old)
    · exact same
  constructor
  · intro other stored written
    rw [only other stored written]
    exact origin
  · intro first firstStored firstWritten second secondStored secondWritten
    rw [only first firstStored firstWritten, only second secondStored secondWritten]
  · intro documentUuid stored
    rcases (Database.mem_put _ _ _).mp stored with ⟨old, -⟩ | same
    · exact cleared.unlocked documentUuid old
    · cases same

end States

section Transactions
variable {protocol : Protocol Record Call} {committed : Store} {transaction : Transaction Record}

/-- The search for references only reports failures. -/
theorem checkForReferencesToDocument_fails (documentUuid : DocumentUuid) :
    (checkForReferencesToDocument documentUuid).Within (fun _ => True)
      (· ≠ some .deleteSuccess) := by
  refine ⟨trivial, fun candidate => ?_⟩
  cases candidate with
  | none => exact fun impossible => by cases impossible
  | some deleteCandidate =>
      refine ⟨trivial, fun referring => ?_⟩
      cases referring with
      | none => exact fun impossible => by cases impossible
      | some blocking => exact ⟨trivial, fun found impossible => by cases impossible⟩

/-- A deletion writes no document, and a success touches the one that it found. -/
theorem wp_deleteDocument_net {documentUuid : DocumentUuid} {validate : Bool}
    {post : DeleteResult → Store → Transaction Record → Prop} (cleared : Cleared transaction)
    (holds : ∀ result following moved, Cleared moved → moved.snapshot = transaction.snapshot →
      (result = .deleteSuccess → ∀ existing,
        findDocument transaction.view (.documentUuid documentUuid) = some existing →
          .document existing.id ∈ moved.written) →
      post result following moved) :
    protocol.wp mongoDriver post (deleteDocumentByMeadowlarkIdTransaction documentUuid validate)
      committed transaction := by
  have performs : ∀ first started, protocol.Interferes committed transaction first started →
      protocol.wp mongoDriver post (performDelete documentUuid) first started := by
    intro first started before
    apply Protocol.wp_seq
    apply wp_lockDocuments_only
    intro second locked lock
    have clearedLock := (cleared.interferes before).locked lock
    have sameView : locked.view = transaction.view := lock.view.trans before.view
    have sameSnapshot : locked.snapshot = transaction.snapshot :=
      lock.snapshot.trans before.snapshot
    apply Protocol.wp_seq
    apply wp_deleteOne
    · intro following moved interferes absent
      apply holds
      · exact clearedLock.interferes interferes
      · exact interferes.snapshot.trans sameSnapshot
      · intro impossible
        cases impossible
    · intro following moved existing interferes aligned found
      apply holds
      · exact (clearedLock.interferes interferes).erase existing.id
      · exact interferes.snapshot.trans sameSnapshot
      · intro _ other otherFound
        rw [interferes.view, sameView, otherFound] at found
        cases found
        exact List.mem_cons_self
  unfold deleteDocumentByMeadowlarkIdTransaction
  split
  · apply Protocol.wp_seq
    apply Protocol.wp_within (checkForReferencesToDocument_fails documentUuid)
    apply (readsOnly_checkForReferencesToDocument _).wp
    intro failure following moved interferes fails
    cases failure with
    | some result =>
        apply holds result following moved (cleared.interferes interferes) interferes.snapshot
        intro success
        exact absurd (congrArg some success) fails
    | none => exact performs following moved interferes
  · exact performs committed transaction (.refl _ _)

/-- A replacement that matches is the whole net effect, and one that does not writes nothing. -/
theorem wp_tryUpdateByReplacement_net {generated : Option DocumentUuid}
    {document : MeadowlarkDocument} {updateRequest : UpdateRequest}
    {post : Option UpdateResult → Store → Transaction Record → Prop} (cleared : Cleared transaction)
    (replaced : ∀ result following moved, NetEffect generated moved →
      post (some result) following moved)
    (absent : ∀ following moved, Cleared moved → moved.snapshot = transaction.snapshot →
      post none following moved) :
    protocol.wp mongoDriver post (tryUpdateByReplacement document updateRequest)
      committed transaction := by
  apply Protocol.wp_seq
  apply wp_updateOne
  · intro following moved interferes none
    exact absent following moved (cleared.interferes interferes) interferes.snapshot
  · intro following moved existing interferes aligned allowed found
    have clearedMoved := cleared.interferes interferes
    obtain ⟨stored, matched⟩ := findDocument_some found
    obtain ⟨sameId, sameUuid, older⟩ : existing.id = updateRequest.meadowlarkId ∧
        existing.documentUuid = updateRequest.documentUuid ∧
        existing.lastModifiedAt < document.lastModifiedAt := by
      simpa [Filter.matches] using matched
    apply replaced
    apply clearedMoved.put
    apply Origin.rewritten (clearedMoved.kept existing stored)
    · exact List.mem_cons_self
    · rfl
    · exact older
    · exact fun _ => rfl

/-- The document under the uuid is older than its new form. -/
theorem wp_findUpdatableDocument_net {document : MeadowlarkDocument} {updateRequest : UpdateRequest}
    {post : Except UpdateResult MeadowlarkDocument → Store → Transaction Record → Prop}
    (refused : ∀ result following moved,
      protocol.Interferes committed transaction following moved →
      post (.error result) following moved)
    (found : ∀ existing following moved,
      protocol.Interferes committed transaction following moved →
      findDocument moved.view (.documentUuid updateRequest.documentUuid) = some existing →
      existing.lastModifiedAt < document.lastModifiedAt → post (.ok existing) following moved) :
    protocol.wp mongoDriver post (findUpdatableDocument document updateRequest)
      committed transaction := by
  apply Protocol.wp_seq
  apply wp_findOne_whole
  intro following moved interferes aligned
  cases present : findDocument moved.view (.documentUuid updateRequest.documentUuid) with
  | none => exact refused _ following moved interferes
  | some existing =>
      by_cases stale : existing.lastModifiedAt ≥ document.lastModifiedAt
      · have answer := refused (.updateFailureWriteConflict none) following moved interferes
        simpa [Protocol.wp, stale] using answer
      · have answer := found existing following moved interferes present (by omega)
        simpa [Protocol.wp, stale] using answer

variable [NodeRuntime]

omit [NodeRuntime] in
theorem wp_writeDocument_net {generated : Option DocumentUuid} {upsertRequest : UpsertRequest}
    {documentUuid : DocumentUuid} {document : MeadowlarkDocument} (cleared : Cleared transaction)
    (same : document.id = upsertRequest.meadowlarkId)
    (origin : Origin transaction.snapshot (.document document.id :: transaction.written) generated
      document) :
    protocol.wp mongoDriver (fun _ _ moved => NetEffect generated moved)
      (writeDocument upsertRequest documentUuid document) committed transaction := by
  apply Protocol.wp_seq
  apply wp_lockReferencedDocuments_only
  intro first locked lock
  apply Protocol.wp_seq
  apply wp_replaceOne same
  intro following moved answer interferes aligned allowed
  apply ((cleared.locked lock).interferes interferes).put
  rw [interferes.snapshot, lock.snapshot]
  apply origin.mono
  intro id inside
  rw [interferes.written]
  rcases List.mem_cons.mp inside with here | before
  · exact here ▸ List.mem_cons_self
  · exact List.mem_cons_of_mem _ ((lock.written id).mpr before)

theorem wp_upsertDocumentTransaction_net {generated : DocumentUuid}
    {origins : Option DocumentUuid} {upsertRequest : UpsertRequest}
    {documentFromUpdate : Option MeadowlarkDocument} (cleared : Cleared transaction)
    (same : ∀ existingDocument, (documentFromUpdate.getD
      (documentFromUpsert upsertRequest generated existingDocument)).id = upsertRequest.meadowlarkId)
    (origin : ∀ existingDocument,
      findDocument transaction.view (.id upsertRequest.meadowlarkId) = existingDocument →
      (∀ existing ∈ existingDocument,
        existing.lastModifiedAt < upsertRequest.documentInfo.requestTimestamp) →
      Origin transaction.snapshot (.document upsertRequest.meadowlarkId :: transaction.written)
        origins (documentFromUpdate.getD
          (documentFromUpsert upsertRequest generated existingDocument))) :
    protocol.wp mongoDriver (fun _ _ moved => NetEffect origins moved)
      (upsertDocumentTransaction generated upsertRequest documentFromUpdate)
      committed transaction := by
  apply Protocol.wp_seq
  apply wp_findOne_whole
  intro first started beforeFind aligned
  split
  · exact (cleared.interferes beforeFind).netEffect
  · rename_i fresh
    apply Protocol.wp_seq
    apply (readsOnly_checkSuperclassIdentity _ _).wp
    intro conflict second checked beforeCheck
    have untilCheck := beforeFind.trans _ beforeCheck
    cases conflict with
    | some failure => exact (cleared.interferes untilCheck).netEffect
    | none =>
        apply Protocol.wp_seq
        apply (readsOnly_checkUpsertReferences _ _).wp
        intro invalid third validated beforeWrite
        have untilWrite := untilCheck.trans _ beforeWrite
        cases invalid with
        | some failure => exact (cleared.interferes untilWrite).netEffect
        | none =>
            apply wp_writeDocument_net (cleared.interferes untilWrite) (same _)
            rw [same, untilWrite.snapshot, untilWrite.written, beforeFind.view]
            apply origin _ rfl
            intro existing present
            rw [beforeFind.view, present] at fresh
            simpa using fresh

/-- An identity change deletes the document that it writes again under another key. -/
theorem wp_deleteAndInsert_net {generated : DocumentUuid} {origins : Option DocumentUuid}
    {document existing : MeadowlarkDocument} {updateRequest : UpdateRequest}
    (cleared : Cleared transaction)
    (found : findDocument transaction.view (.documentUuid updateRequest.documentUuid) = some existing)
    (sameId : document.id = updateRequest.meadowlarkId)
    (sameUuid : document.documentUuid = updateRequest.documentUuid)
    (older : existing.lastModifiedAt < document.lastModifiedAt)
    (created : document.createdAt = existing.createdAt) :
    protocol.wp mongoDriver (fun _ _ moved => NetEffect origins moved)
      (deleteAndInsert generated document updateRequest) committed transaction := by
  obtain ⟨stored, matched⟩ := findDocument_some found
  have existingUuid : existing.documentUuid = updateRequest.documentUuid := by
    simpa [Filter.matches] using matched
  apply Protocol.wp_seq
  apply wp_deleteDocument_net cleared
  intro result following moved clearedMoved sameSnapshot touched
  cases result with
  | deleteSuccess =>
      have inserts : protocol.wp mongoDriver (fun _ _ moved => NetEffect origins moved)
          (upsertDocumentTransaction generated (reinsertRequest updateRequest) (some document))
          following moved := by
        apply wp_upsertDocumentTransaction_net clearedMoved
        · exact fun _ => sameId
        · intro other otherFound fresh
          have kept := cleared.kept existing stored
          rw [sameSnapshot]
          apply Origin.rewritten kept
          · exact List.mem_cons_of_mem _ (touched rfl existing found)
          · exact existingUuid.trans sameUuid.symm
          · exact older
          · exact fun _ => created
      apply Protocol.wp_seq
      exact Protocol.wp_mono inserts fun _ _ _ effect => effect
  | deleteFailureReference infos => exact clearedMoved.netEffect
  | deleteFailureNotExists => exact clearedMoved.netEffect
  | deleteFailureWriteConflict message => exact clearedMoved.netEffect
  | unknownFailure message => exact clearedMoved.netEffect

theorem wp_updateValidDocument_net {generated : DocumentUuid} {origins : Option DocumentUuid}
    {updateRequest : UpdateRequest} (cleared : Cleared transaction) :
    protocol.wp mongoDriver (fun _ _ moved => NetEffect origins moved)
      (updateValidDocument generated updateRequest) committed transaction := by
  unfold updateValidDocument
  split
  · apply Protocol.wp_seq
    apply wp_lockReferencedDocuments_only
    intro first locked lock
    apply Protocol.wp_seq
    apply wp_tryUpdateByReplacement_net (cleared.locked lock)
    · exact fun result following moved effect => effect
    · intro second tried clearedTried sameSnapshot
      apply Protocol.wp_seq
      apply wp_findUpdatableDocument_net
      · exact fun result following moved interferes => (clearedTried.interferes interferes).netEffect
      · intro existing following moved interferes found older
        apply wp_deleteAndInsert_net (clearedTried.interferes interferes) found
        · rfl
        · rfl
        · exact older
        · rfl
  · apply Protocol.wp_seq
    apply wp_lockReferencedDocuments_only
    intro first locked lock
    apply Protocol.wp_seq
    apply wp_tryUpdateByReplacement_net (cleared.locked lock)
    · exact fun result following moved effect => effect
    · intro second tried clearedTried sameSnapshot
      apply Protocol.wp_seq
      apply wp_findUpdatableDocument_net
      · exact fun result following moved interferes => (clearedTried.interferes interferes).netEffect
      · exact fun existing following moved interferes found older =>
          (clearedTried.interferes interferes).netEffect

theorem wp_updateDocument_net {generated : DocumentUuid} {origins : Option DocumentUuid}
    {updateRequest : UpdateRequest} (cleared : Cleared transaction) :
    protocol.wp mongoDriver (fun _ _ moved => NetEffect origins moved)
      (updateDocumentByDocumentUuidTransaction generated updateRequest) committed transaction := by
  unfold updateDocumentByDocumentUuidTransaction
  split
  · apply Protocol.wp_seq
    apply (readsOnly_checkForInvalidReferences _).wp
    intro failure following moved interferes
    cases failure with
    | some result => exact (cleared.interferes interferes).netEffect
    | none => exact wp_updateValidDocument_net (cleared.interferes interferes)
  · exact wp_updateValidDocument_net cleared

/-- An upsert without an update inserts under the generated uuid or rewrites what it found. -/
theorem origin_documentFromUpsert {generated : DocumentUuid} {upsertRequest : UpsertRequest}
    (cleared : Cleared transaction) {existingDocument : Option MeadowlarkDocument}
    (found : findDocument transaction.view (.id upsertRequest.meadowlarkId) = existingDocument)
    (fresh : ∀ existing ∈ existingDocument,
      existing.lastModifiedAt < upsertRequest.documentInfo.requestTimestamp) :
    Origin transaction.snapshot (.document upsertRequest.meadowlarkId :: transaction.written)
      (some generated) (documentFromUpsert upsertRequest generated existingDocument) := by
  cases existingDocument with
  | none => exact .inserted rfl rfl
  | some existing =>
      obtain ⟨stored, matched⟩ := findDocument_some found
      have sameId : existing.id = upsertRequest.meadowlarkId := by
        simpa [Filter.matches] using matched
      apply Origin.rewritten (cleared.kept existing stored)
      · exact sameId ▸ List.mem_cons_self
      · rfl
      · exact fresh existing rfl
      · intro present
        obtain ⟨createdAt, same⟩ := Option.isSome_iff_exists.mp present
        simp [documentFromUpsert, meadowlarkDocumentFrom, same]

end Transactions

section Repository
variable [NodeRuntime]

/-- The uuid that a call has generated. -/
def RepositoryCall.generated? : RepositoryCall → Option DocumentUuid
  | .upsert generated _ => some generated
  | .update generated _ => some generated
  | .delete _ => none

/-- Every repository call has a net effect. -/
theorem repositoryTransaction_netEffect {protocol : Protocol Record Call} (call : RepositoryCall)
    (committed : Store) :
    protocol.wp mongoDriver (fun _ _ moved => NetEffect call.generated? moved)
      (repositoryTransaction call) committed (Transaction.start committed) := by
  have cleared := cleared_start committed
  cases call with
  | upsert generated upsertRequest =>
      apply Protocol.wp_map
      apply wp_upsertDocumentTransaction_net cleared
      · exact fun _ => rfl
      · exact fun existingDocument found fresh => origin_documentFromUpsert cleared found fresh
  | update generated updateRequest =>
      apply Protocol.wp_map
      exact wp_updateDocument_net cleared
  | delete deleteRequest =>
      apply Protocol.wp_map
      apply wp_deleteDocument_net cleared
      exact fun result following moved clearedMoved _ _ => clearedMoved.netEffect

end Repository
end Meadowlark.Mongo
