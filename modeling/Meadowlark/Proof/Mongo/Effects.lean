import Meadowlark.Proof.Mongo.SequentialWrites

namespace Meadowlark.Mongo
open Meadowlark.Core Systems
variable [NodeRuntime]

/-- An upsert writes its document under its own id, or it fails and changes nothing. -/
theorem upsertDocument_effect (generated : GeneratedUuids) (upsertRequest : UpsertRequest)
    (store : Store) :
    (∃ documentUuid ∈ generated.all,
      UpsertAccepted store store upsertRequest
          (upsertedUuid store upsertRequest.meadowlarkId documentUuid)
          (documentFromUpsert upsertRequest documentUuid
            (findDocument store (.id upsertRequest.meadowlarkId))) ∧
        upsertDocument generated upsertRequest store =
          (.ok (upsertedResult store upsertRequest.meadowlarkId
            (upsertedUuid store upsertRequest.meadowlarkId documentUuid)),
            store.put (.document (documentFromUpsert upsertRequest documentUuid
              (findDocument store (.id upsertRequest.meadowlarkId)))))) ∨
      Unsuccessful UpsertResult.succeeded store (upsertDocument generated upsertRequest store) := by
  unfold upsertDocument
  cases done : retry _ generated.first generated.retries with
  | error error => exact .inr (settle_unsuccessful _ fun outcome answered => by cases answered)
  | ok outcome =>
      obtain ⟨documentUuid, inside, attempted⟩ := retry_ok done
      by_cases accepted : UpsertAccepted store store upsertRequest
          (upsertedUuid store upsertRequest.meadowlarkId documentUuid)
          (documentFromUpsert upsertRequest documentUuid
            (findDocument store (.id upsertRequest.meadowlarkId)))
      · left
        have written := @run_upsert_accepted _ store store documentUuid upsertRequest none _
          rfl rfl rfl accepted
        have same := withTransaction_ok written (upsertedResult_succeeded _ _ _)
        obtain rfl := Except.ok.inj (attempted.symm.trans same)
        exact ⟨documentUuid, inside, accepted, rfl⟩
      · right
        have fails := @run_upsert_rejected _ store store documentUuid upsertRequest none _
          rfl accepted
        apply settle_unsuccessful
        intro answer answered
        cases answered
        exact fails.withTransaction attempted

/-- An accepted upsert does not depend on the attempts that could follow. -/
theorem upsertDocument_accepted {generated : GeneratedUuids} {upsertRequest : UpsertRequest}
    {store : Store}
    (accepted : UpsertAccepted store store upsertRequest
      (upsertedUuid store upsertRequest.meadowlarkId generated.first)
      (documentFromUpsert upsertRequest generated.first
        (findDocument store (.id upsertRequest.meadowlarkId)))) :
    upsertDocument generated upsertRequest store =
      (.ok (upsertedResult store upsertRequest.meadowlarkId
        (upsertedUuid store upsertRequest.meadowlarkId generated.first)),
        store.put (.document (documentFromUpsert upsertRequest generated.first
          (findDocument store (.id upsertRequest.meadowlarkId))))) := by
  have written := @run_upsert_accepted _ store store generated.first upsertRequest none _
    rfl rfl rfl accepted
  have same := withTransaction_ok written (upsertedResult_succeeded _ _ _)
  unfold upsertDocument
  rw [retry_first same]
  rfl

/-- An upsert that is not newer than the stored document is refused. -/
theorem upsertDocument_stale {generated : GeneratedUuids} {upsertRequest : UpsertRequest}
    {store : Store} {existing : MeadowlarkDocument}
    (found : findDocument store (.id upsertRequest.meadowlarkId) = some existing)
    (stale : upsertRequest.documentInfo.requestTimestamp ≤ existing.lastModifiedAt) :
    upsertDocument generated upsertRequest store =
      (.ok (.upsertFailureWriteConflict none), store) := by
  have refused : run store (upsertDocumentTransaction generated.first upsertRequest none) store =
      .ok (.upsertFailureWriteConflict none, store) := by
    have overtaken : (some existing).any (fun existing =>
        existing.lastModifiedAt ≥ upsertRequest.documentInfo.requestTimestamp) = true :=
      decide_eq_true stale
    unfold upsertDocumentTransaction
    rw [run_bind_ok (run_findOne_whole _), found, if_pos overtaken]
    rfl
  have same : withTransaction UpsertResult.succeeded
      (upsertDocumentTransaction generated.first upsertRequest none) store =
        .ok (.upsertFailureWriteConflict none, store) :=
    withTransaction_failed refused rfl
  unfold upsertDocument
  rw [retry_first same]
  rfl

/-- An update replaces one document in place, moves one document or changes nothing. -/
theorem updateDocument_effect (generated : GeneratedUuids) (updateRequest : UpdateRequest)
    (store : Store) :
    (∃ existing, UpdateAdmitted store store updateRequest ∧
        replaceable store updateRequest = some existing ∧
        updateDocumentByDocumentUuid generated updateRequest store =
          (.ok .updateSuccess, store.put
            (.document (setFields existing (documentFromUpdateRequest updateRequest))))) ∨
      (∃ documentUuid ∈ generated.all, ∃ existing, UpdateAdmitted store store updateRequest ∧
        UpdateMoves store store documentUuid updateRequest existing ∧
        updateDocumentByDocumentUuid generated updateRequest store =
          (.ok .updateSuccess, (withoutDocument store existing).put
            (.document (movedDocument updateRequest existing)))) ∨
      Unsuccessful UpdateResult.succeeded store
        (updateDocumentByDocumentUuid generated updateRequest store) := by
  unfold updateDocumentByDocumentUuid
  cases done : retry _ generated.first generated.retries with
  | error error =>
      exact .inr (.inr (settle_unsuccessful _ fun outcome answered => by cases answered))
  | ok outcome =>
      obtain ⟨documentUuid, inside, attempted⟩ := retry_ok done
      rcases run_update_cases store store documentUuid updateRequest with
        ⟨existing, admitted, found, written⟩ | ⟨existing, admitted, moves, written⟩ | fails
      · left
        have same : withTransaction UpdateResult.succeeded _ store = _ :=
          withTransaction_ok written rfl
        obtain rfl := Except.ok.inj (attempted.symm.trans same)
        exact ⟨existing, admitted, found, rfl⟩
      · right
        left
        have same : withTransaction UpdateResult.succeeded _ store = _ :=
          withTransaction_ok written rfl
        obtain rfl := Except.ok.inj (attempted.symm.trans same)
        exact ⟨documentUuid, inside, existing, admitted, moves, rfl⟩
      · right
        right
        apply settle_unsuccessful
        intro answer answered
        cases answered
        exact fails.withTransaction attempted

/-- An accepted replacement in place does not depend on the attempts. -/
theorem updateDocument_replaced (generated : GeneratedUuids) {updateRequest : UpdateRequest}
    {store : Store} {existing : MeadowlarkDocument}
    (admitted : UpdateAdmitted store store updateRequest)
    (found : replaceable store updateRequest = some existing) :
    updateDocumentByDocumentUuid generated updateRequest store =
      (.ok .updateSuccess, store.put
        (.document (setFields existing (documentFromUpdateRequest updateRequest)))) := by
  have written : run store (updateDocumentByDocumentUuidTransaction generated.first updateRequest)
      store = _ :=
    (run_updateDocument_valid admitted.valid).trans
      (run_updateValidDocument_replaced admitted.lockable found)
  have same : withTransaction UpdateResult.succeeded _ store = _ := withTransaction_ok written rfl
  unfold updateDocumentByDocumentUuid
  rw [retry_first same]
  rfl

/-- An accepted identity change does not depend on the attempts that could follow. -/
theorem updateDocument_moved {generated : GeneratedUuids} {updateRequest : UpdateRequest}
    {store : Store} {existing : MeadowlarkDocument}
    (admitted : UpdateAdmitted store store updateRequest)
    (moves : UpdateMoves store store generated.first updateRequest existing) :
    updateDocumentByDocumentUuid generated updateRequest store =
      (.ok .updateSuccess, (withoutDocument store existing).put
        (.document (movedDocument updateRequest existing))) := by
  have written : run store (updateDocumentByDocumentUuidTransaction generated.first updateRequest)
      store = _ :=
    (run_updateDocument_valid admitted.valid).trans
      (run_updateValidDocument_moved admitted.lockable moves)
  have same : withTransaction UpdateResult.succeeded _ store = _ := withTransaction_ok written rfl
  unfold updateDocumentByDocumentUuid
  rw [retry_first same]
  rfl

omit [NodeRuntime] in
/-- An accepted delete does not depend on the attempts. -/
theorem deleteDocument_accepted (generated : GeneratedUuids) {deleteRequest : DeleteRequest}
    {store : Store} {deleted : MeadowlarkDocument}
    (accepted : DeleteAccepted store deleteRequest.documentUuid
      deleteRequest.validateNoReferencesToDocument deleted) :
    deleteDocumentByDocumentUuid generated deleteRequest store =
      (.ok .deleteSuccess, store.erase [.document deleted.id]) := by
  have same : withTransaction DeleteResult.succeeded _ store = _ :=
    withTransaction_ok (run_delete_accepted accepted) rfl
  unfold deleteDocumentByDocumentUuid
  rw [retry_first same]
  rfl

omit [NodeRuntime] in
/-- A delete removes the document that its uuid names, or it fails and changes nothing. -/
theorem deleteDocument_effect (generated : GeneratedUuids) (deleteRequest : DeleteRequest)
    (store : Store) :
    (∃ deleted, DeleteAccepted store deleteRequest.documentUuid
          deleteRequest.validateNoReferencesToDocument deleted ∧
        deleteDocumentByDocumentUuid generated deleteRequest store =
          (.ok .deleteSuccess, store.erase [.document deleted.id])) ∨
      Unsuccessful DeleteResult.succeeded store
        (deleteDocumentByDocumentUuid generated deleteRequest store) := by
  unfold deleteDocumentByDocumentUuid
  cases done : retry _ generated.first generated.retries with
  | error error => exact .inr (settle_unsuccessful _ fun outcome answered => by cases answered)
  | ok outcome =>
      obtain ⟨documentUuid, inside, attempted⟩ := retry_ok done
      by_cases accepted : ∃ deleted, DeleteAccepted store deleteRequest.documentUuid
          deleteRequest.validateNoReferencesToDocument deleted
      · left
        obtain ⟨deleted, accepted⟩ := accepted
        have same : withTransaction DeleteResult.succeeded _ store = _ :=
          withTransaction_ok (run_delete_accepted accepted) rfl
        obtain rfl := Except.ok.inj (attempted.symm.trans same)
        exact ⟨deleted, accepted, rfl⟩
      · right
        have rejected : ∀ deleted, ¬ DeleteAccepted store deleteRequest.documentUuid
            deleteRequest.validateNoReferencesToDocument deleted :=
          fun deleted held => accepted ⟨deleted, held⟩
        apply settle_unsuccessful
        intro answer answered
        cases answered
        exact (run_delete_rejected rejected).withTransaction attempted

/-- The document that an upsert writes over a stored one. -/
def overwrittenDocument (upsertRequest : UpsertRequest) (existing : MeadowlarkDocument) :
    MeadowlarkDocument :=
  documentFromUpsert upsertRequest existing.documentUuid (some existing)

/-- The result of a call with the store that it leaves. -/
inductive CallEffect (store : Store) :
    SequentialCall → Except DriverError RepositoryResult → Store → Prop where
  | inserted {generated : GeneratedUuids} {upsertRequest : UpsertRequest}
      {documentUuid : DocumentUuid} (inside : documentUuid ∈ generated.all)
      (absent : findDocument store (.id upsertRequest.meadowlarkId) = none)
      (accepted : UpsertAccepted store store upsertRequest documentUuid
        (documentFromUpsert upsertRequest documentUuid none)) :
      CallEffect store (.upsert generated upsertRequest) (.ok (.upsert (.insertSuccess documentUuid)))
        (store.put (.document (documentFromUpsert upsertRequest documentUuid none)))
  | overwritten {generated : GeneratedUuids} {upsertRequest : UpsertRequest}
      {existing : MeadowlarkDocument}
      (found : findDocument store (.id upsertRequest.meadowlarkId) = some existing)
      (accepted : UpsertAccepted store store upsertRequest existing.documentUuid
        (overwrittenDocument upsertRequest existing)) :
      CallEffect store (.upsert generated upsertRequest)
        (.ok (.upsert (.updateSuccess existing.documentUuid)))
        (store.put (.document (overwrittenDocument upsertRequest existing)))
  | replaced {generated : GeneratedUuids} {updateRequest : UpdateRequest}
      {existing : MeadowlarkDocument} (admitted : UpdateAdmitted store store updateRequest)
      (found : replaceable store updateRequest = some existing) :
      CallEffect store (.update generated updateRequest) (.ok (.update .updateSuccess))
        (store.put (.document (setFields existing (documentFromUpdateRequest updateRequest))))
  | moved {generated : GeneratedUuids} {updateRequest : UpdateRequest}
      {documentUuid : DocumentUuid} {existing : MeadowlarkDocument}
      (inside : documentUuid ∈ generated.all)
      (admitted : UpdateAdmitted store store updateRequest)
      (moves : UpdateMoves store store documentUuid updateRequest existing) :
      CallEffect store (.update generated updateRequest) (.ok (.update .updateSuccess))
        ((withoutDocument store existing).put (.document (movedDocument updateRequest existing)))
  | deleted {generated : GeneratedUuids} {deleteRequest : DeleteRequest}
      {deleted : MeadowlarkDocument}
      (accepted : DeleteAccepted store deleteRequest.documentUuid
        deleteRequest.validateNoReferencesToDocument deleted) :
      CallEffect store (.delete generated deleteRequest) (.ok (.delete .deleteSuccess))
        (withoutDocument store deleted)
  | failed {call : SequentialCall} {result : Except DriverError RepositoryResult}
      (unsuccessful : ∀ answer, result = .ok answer → answer.succeeded = false) :
      CallEffect store call result store

/-- An unsuccessful call has no effect. -/
theorem Unsuccessful.failed {Result : Type} {succeeded : Result → Bool} {store : Store}
    {outcome : Except DriverError Result × Store} (unsuccessful : Unsuccessful succeeded store outcome)
    {wrap : Result → RepositoryResult} (wrapped : ∀ result, (wrap result).succeeded = succeeded result)
    {call : SequentialCall} : CallEffect store call (outcome.1.map wrap) outcome.2 := by
  rw [unsuccessful.keeps]
  apply CallEffect.failed
  intro answer answered
  cases result : outcome.1 with
  | error error =>
        rw [result] at answered
        cases answered
  | ok settled =>
      rw [result] at answered
      cases answered
      rw [wrapped]
      exact unsuccessful.answers settled result

/-- Every call has one of the effects. -/
theorem perform_effect (store : Store) (call : SequentialCall) :
    CallEffect store call (call.perform store).1 (call.perform store).2 := by
  cases call with
  | upsert generated upsertRequest =>
      change CallEffect store _ ((upsertDocument generated upsertRequest store).1.map .upsert)
        (upsertDocument generated upsertRequest store).2
      rcases upsertDocument_effect generated upsertRequest store with
        ⟨documentUuid, inside, accepted, done⟩ | unsuccessful
      · rw [done]
        unfold upsertedUuid at accepted ⊢
        unfold upsertedResult
        cases found : findDocument store (.id upsertRequest.meadowlarkId) with
        | none =>
            rw [found] at accepted
            exact .inserted inside found accepted
        | some existing =>
            rw [found] at accepted
            exact .overwritten found accepted
      · exact unsuccessful.failed fun _ => rfl
  | update generated updateRequest =>
      change CallEffect store _
        ((updateDocumentByDocumentUuid generated updateRequest store).1.map .update)
        (updateDocumentByDocumentUuid generated updateRequest store).2
      rcases updateDocument_effect generated updateRequest store with
        ⟨existing, admitted, found, done⟩ | ⟨documentUuid, inside, existing, admitted, moves, done⟩ |
          unsuccessful
      · rw [done]
        exact .replaced admitted found
      · rw [done]
        exact .moved inside admitted moves
      · exact unsuccessful.failed fun _ => rfl
  | delete generated deleteRequest =>
      change CallEffect store _
        ((deleteDocumentByDocumentUuid generated deleteRequest store).1.map .delete)
        (deleteDocumentByDocumentUuid generated deleteRequest store).2
      rcases deleteDocument_effect generated deleteRequest store with
        ⟨deleted, accepted, done⟩ | unsuccessful
      · rw [done]
        exact .deleted accepted
      · exact unsuccessful.failed fun _ => rfl

end Meadowlark.Mongo
