import Meadowlark.Proof.Mongo.Sequential

namespace Meadowlark.Mongo
open Meadowlark.Core Systems

section Upsert
variable [NodeRuntime] {committed view : Store}

/-- The missing identities of one list of references. -/
def missingFrom (store : Store) (projection : Projection) (references : List DocumentReference) :
    List MissingIdentity :=
  let ids := references.map getMeadowlarkIdForDocumentReference
  let found := (findDocuments store (.aliasMeadowlarkIds ids)).map
    (projection.apply (.aliasMeadowlarkIds ids))
  if ids.length ≠ found.length then findMissingReferences found ids references else []

def missingReferences (store : Store) (documentInfo : DocumentInfo) : List MissingIdentity :=
  missingFrom store .onlyReturnAliasMeadowlarkId documentInfo.documentReferences ++
    missingFrom store .onlyReturnId documentInfo.descriptorReferences

theorem run_validateReferences (documentInfo : DocumentInfo) :
    run committed (validateReferences documentInfo.documentReferences
      documentInfo.descriptorReferences) view =
      .ok (missingReferences view documentInfo, view) := rfl

/-- The conditions under which an upsert writes its document. -/
structure UpsertAccepted (committed view : Store) (upsertRequest : UpsertRequest)
    (documentUuid : DocumentUuid) (document : MeadowlarkDocument) : Prop where
  current : ∀ existing ∈ findDocument view (.id upsertRequest.meadowlarkId),
    existing.lastModifiedAt < upsertRequest.documentInfo.requestTimestamp
  unclaimed : findDocument view (.id upsertRequest.meadowlarkId) = none →
    ∀ superclassInfo ∈ upsertRequest.documentInfo.superclassInfo,
      findDocument view
        (.aliasMeadowlarkId (getMeadowlarkIdForSuperclassInfo superclassInfo)) = none
  valid : upsertRequest.validateDocumentReferencesExist = true →
    missingReferences view upsertRequest.documentInfo = []
  lockable : Lockable view (holderUuids committed document.outboundRefs ++ [documentUuid])

/-- The uuid of the document that the id already names, or the generated one. -/
def upsertedUuid (view : Store) (id : MeadowlarkId) (generated : DocumentUuid) : DocumentUuid :=
  ((findDocument view (.id id)).map (·.documentUuid)).getD generated

/-- The result of an accepted upsert. -/
def upsertedResult (view : Store) (id : MeadowlarkId) (documentUuid : DocumentUuid) :
    UpsertResult :=
  if (findDocument view (.id id)).isNone then .insertSuccess documentUuid
  else .updateSuccess documentUuid

omit [NodeRuntime] in
theorem upsertedResult_succeeded (view : Store) (id : MeadowlarkId)
    (documentUuid : DocumentUuid) :
    (upsertedResult view id documentUuid).succeeded = true := by
  unfold upsertedResult
  split <;> rfl

theorem run_checkSuperclassIdentity (committed view : Store) (upsertRequest : UpsertRequest) (isInsert : Bool) :
    ∃ failure, run committed (checkSuperclassIdentity upsertRequest isInsert) view =
        .ok (failure, view) ∧
      (failure = none ↔ (isInsert = true → ∀ superclassInfo ∈
        upsertRequest.documentInfo.superclassInfo, findDocument view
          (.aliasMeadowlarkId (getMeadowlarkIdForSuperclassInfo superclassInfo)) = none)) ∧
      ∀ result ∈ failure, result.succeeded = false := by
  unfold checkSuperclassIdentity
  split
  · rename_i superclassInfo present
    rw [run_bind_ok (run_findOne_whole _)]
    cases inUse : findDocument view
        (.aliasMeadowlarkId (getMeadowlarkIdForSuperclassInfo superclassInfo)) with
    | none =>
        refine ⟨none, rfl, ?_, by simp⟩
        simp [present, inUse]
    | some document =>
        refine ⟨_, rfl, ?_, ?_⟩
        · simp [present, inUse]
        · rintro result same
          cases same
          rfl
  · rename_i skipped
    refine ⟨none, rfl, ?_, by simp⟩
    refine ⟨fun _ insert superclassInfo present => ?_, fun _ => rfl⟩
    exact absurd present (skipped superclassInfo insert)

theorem run_checkUpsertReferences (committed view : Store) (upsertRequest : UpsertRequest)
    (isInsert : Bool) :
    ∃ failure, run committed (checkUpsertReferences upsertRequest isInsert) view =
        .ok (failure, view) ∧
      (failure = none ↔ (upsertRequest.validateDocumentReferencesExist = true →
        missingReferences view upsertRequest.documentInfo = [])) ∧
      ∀ result ∈ failure, result.succeeded = false := by
  unfold checkUpsertReferences
  split
  · rename_i validates
    rw [run_bind_ok (run_validateReferences _)]
    split
    · rename_i clean
      exact ⟨none, rfl, by simp [clean], by simp⟩
    · rename_i missing
      refine ⟨_, rfl, by simp [validates, missing], ?_⟩
      rintro result same
      cases same
      split <;> rfl
  · rename_i unvalidated
    exact ⟨none, rfl, by simp [unvalidated], by simp⟩

omit [NodeRuntime] in
theorem run_writeDocument {upsertRequest : UpsertRequest}
    {documentUuid : DocumentUuid} {document : MeadowlarkDocument}
    (same : document.id = upsertRequest.meadowlarkId)
    (newer : ∀ existing ∈ findDocument view (.id upsertRequest.meadowlarkId),
      existing.lastModifiedAt < document.lastModifiedAt)
    (lockable : Lockable view (holderUuids committed document.outboundRefs ++ [documentUuid])) :
    run committed (writeDocument upsertRequest documentUuid document) view =
      .ok (upsertedResult view upsertRequest.meadowlarkId documentUuid,
        view.put (.document document)) := by
  unfold writeDocument
  rw [run_bind_ok (run_lockReferencedDocuments lockable), run_bind_ok (run_replaceOne same),
    run_pure]
  unfold upsertedResult
  cases found : findDocument view (.id upsertRequest.meadowlarkId) with
  | none => rfl
  | some existing =>
      have different : existing ≠ document := by
        rintro rfl
        exact lt_irrefl _ (newer existing found)
      simp [different]

/-- An accepted upsert stores its document. -/
theorem run_upsert_accepted {generated : DocumentUuid}
    {upsertRequest : UpsertRequest} {documentFromUpdate : Option MeadowlarkDocument}
    {document : MeadowlarkDocument}
    (chosen : document = documentFromUpdate.getD (documentFromUpsert upsertRequest generated
      (findDocument view (.id upsertRequest.meadowlarkId))))
    (same : document.id = upsertRequest.meadowlarkId)
    (stamped : document.lastModifiedAt = upsertRequest.documentInfo.requestTimestamp)
    (accepted : UpsertAccepted committed view upsertRequest
      (upsertedUuid view upsertRequest.meadowlarkId generated) document) :
    run committed (upsertDocumentTransaction generated upsertRequest documentFromUpdate) view =
      .ok (upsertedResult view upsertRequest.meadowlarkId
          (upsertedUuid view upsertRequest.meadowlarkId generated),
        view.put (.document document)) := by
  have fresh : ((findDocument view (.id upsertRequest.meadowlarkId)).any fun existing =>
      existing.lastModifiedAt ≥ upsertRequest.documentInfo.requestTimestamp) = false := by
    cases found : findDocument view (.id upsertRequest.meadowlarkId) with
    | none => rfl
    | some existing => simpa using accepted.current existing found
  obtain ⟨conflict, conflictRun, conflictNone, -⟩ := run_checkSuperclassIdentity
    committed view upsertRequest
    (findDocument view (.id upsertRequest.meadowlarkId)).isNone
  obtain ⟨invalid, invalidRun, invalidNone, -⟩ := run_checkUpsertReferences
    committed view upsertRequest
    (findDocument view (.id upsertRequest.meadowlarkId)).isNone
  obtain rfl := conflictNone.mpr fun insert =>
    accepted.unclaimed (Option.isNone_iff_eq_none.mp insert)
  obtain rfl := invalidNone.mpr accepted.valid
  unfold upsertDocumentTransaction
  rw [run_bind_ok (run_findOne_whole _)]
  simp only [fresh, Bool.false_eq_true, if_false]
  rw [run_bind_ok conflictRun, run_bind_ok invalidRun, ← chosen]
  exact run_writeDocument same (fun existing found => stamped ▸ accepted.current existing found)
    accepted.lockable

/-- Every other upsert fails. -/
theorem run_upsert_rejected {generated : DocumentUuid} {upsertRequest : UpsertRequest}
    {documentFromUpdate : Option MeadowlarkDocument} {document : MeadowlarkDocument}
    (chosen : document = documentFromUpdate.getD (documentFromUpsert upsertRequest generated
      (findDocument view (.id upsertRequest.meadowlarkId))))
    (rejected : ¬ UpsertAccepted committed view upsertRequest
      (upsertedUuid view upsertRequest.meadowlarkId generated) document) :
    Fails UpsertResult.succeeded
      (run committed (upsertDocumentTransaction generated upsertRequest documentFromUpdate)
        view) := by
  obtain ⟨conflict, conflictRun, conflictNone, conflictFails⟩ := run_checkSuperclassIdentity
    committed view upsertRequest
    (findDocument view (.id upsertRequest.meadowlarkId)).isNone
  obtain ⟨invalid, invalidRun, invalidNone, invalidFails⟩ := run_checkUpsertReferences
    committed view upsertRequest
    (findDocument view (.id upsertRequest.meadowlarkId)).isNone
  unfold upsertDocumentTransaction
  rw [run_bind_ok (run_findOne_whole _)]
  split
  · exact rfl
  · rename_i fresh
    rw [run_bind_ok conflictRun]
    cases conflict with
    | some failure => exact conflictFails failure rfl
    | none =>
        simp only
        rw [run_bind_ok invalidRun]
        cases invalid with
        | some failure => exact invalidFails failure rfl
        | none =>
            have refused : ¬ Lockable view (holderUuids committed document.outboundRefs ++
                [upsertedUuid view upsertRequest.meadowlarkId generated]) := by
              intro lockable
              apply rejected
              refine ⟨?_, ?_, invalidNone.mp rfl, lockable⟩
              · intro existing found
                rw [Option.mem_def.mp found] at fresh
                simpa using fresh
              · intro absent
                exact conflictNone.mp rfl (by rw [absent]; rfl)
            simp only [← chosen]
            unfold writeDocument
            exact fails_bind_error (run_lockReferencedDocuments_refused refused)

end Upsert

section Delete
variable {committed view : Store}

/-- The conditions under which a delete removes the document. -/
structure DeleteAccepted (view : Store) (documentUuid : DocumentUuid) (validate : Bool)
    (deleted : MeadowlarkDocument) : Prop where
  found : findDocument view (.documentUuid documentUuid) = some deleted
  unreferenced : validate = true →
    findDocument view (.outboundRefs deleted.aliasMeadowlarkIds) = none
  lockable : Lockable view [documentUuid]

theorem run_performDelete_accepted {documentUuid : DocumentUuid} {deleted : MeadowlarkDocument}
    (found : findDocument view (.documentUuid documentUuid) = some deleted)
    (lockable : Lockable view [documentUuid]) :
    run committed (performDelete documentUuid) view =
      .ok (.deleteSuccess, view.erase [.document deleted.id]) := by
  unfold performDelete
  rw [run_bind_ok (run_lockDocuments lockable), run_bind_ok (run_deleteOne_some found)]
  rfl

theorem run_performDelete_rejected {documentUuid : DocumentUuid}
    (rejected : ∀ deleted, findDocument view (.documentUuid documentUuid) = some deleted →
      ¬ Lockable view [documentUuid]) :
    Fails DeleteResult.succeeded (run committed (performDelete documentUuid) view) := by
  unfold performDelete
  by_cases lockable : Lockable view [documentUuid]
  · rw [run_bind_ok (run_lockDocuments lockable)]
    cases found : findDocument view (.documentUuid documentUuid) with
    | none =>
        rw [run_bind_ok (run_deleteOne_none found)]
        exact rfl
    | some deleted => exact absurd lockable (rejected deleted found)
  · exact fails_bind_error (run_lockDocuments_refused lockable)

/-- The check reports an absent document or a document that is referenced. -/
theorem run_checkForReferencesToDocument (committed view : Store) (documentUuid : DocumentUuid) :
    ∃ failure, run committed (checkForReferencesToDocument documentUuid) view =
        .ok (failure, view) ∧
      (failure = none ↔ ∃ deleted,
        findDocument view (.documentUuid documentUuid) = some deleted ∧
          findDocument view (.outboundRefs deleted.aliasMeadowlarkIds) = none) ∧
      ∀ result ∈ failure, result.succeeded = false := by
  unfold checkForReferencesToDocument
  rw [run_bind_ok (run_findOne_whole _)]
  cases found : findDocument view (.documentUuid documentUuid) with
  | none =>
      refine ⟨some .deleteFailureNotExists, rfl, by simp, ?_⟩
      rintro result same
      cases same
      rfl
  | some deleted =>
      simp only
      rw [run_bind_ok (run_findOne _ _)]
      cases referring : findDocument view (.outboundRefs deleted.aliasMeadowlarkIds) with
      | none => exact ⟨none, rfl, by simp [referring], by simp⟩
      | some document =>
          refine ⟨_, rfl, by simp [referring], ?_⟩
          rintro result same
          cases same
          rfl

theorem run_delete_accepted {documentUuid : DocumentUuid} {validate : Bool}
    {deleted : MeadowlarkDocument} (accepted : DeleteAccepted view documentUuid validate deleted) :
    run committed (deleteDocumentByMeadowlarkIdTransaction documentUuid validate) view =
      .ok (.deleteSuccess, view.erase [.document deleted.id]) := by
  have performed : run committed (performDelete documentUuid) view =
      .ok (.deleteSuccess, view.erase [.document deleted.id]) :=
    run_performDelete_accepted accepted.found accepted.lockable
  unfold deleteDocumentByMeadowlarkIdTransaction
  split
  · rename_i validates
    obtain ⟨failure, checked, clean, -⟩ :=
      run_checkForReferencesToDocument committed view documentUuid
    obtain rfl := clean.mpr ⟨deleted, accepted.found, accepted.unreferenced validates⟩
    rw [run_bind_ok checked]
    exact performed
  · exact performed

theorem run_delete_rejected {documentUuid : DocumentUuid} {validate : Bool}
    (rejected : ∀ deleted, ¬ DeleteAccepted view documentUuid validate deleted) :
    Fails DeleteResult.succeeded
      (run committed (deleteDocumentByMeadowlarkIdTransaction documentUuid validate) view) := by
  unfold deleteDocumentByMeadowlarkIdTransaction
  split
  · obtain ⟨failure, checked, clean, fails⟩ :=
      run_checkForReferencesToDocument committed view documentUuid
    rw [run_bind_ok checked]
    cases failure with
    | some result => exact fails result rfl
    | none =>
        obtain ⟨deleted, found, unreferenced⟩ := clean.mp rfl
        apply run_performDelete_rejected
        intro other otherFound lockable
        obtain rfl : deleted = other := Option.some.inj (found.symm.trans otherFound)
        exact rejected deleted ⟨found, fun _ => unreferenced, lockable⟩
  · rename_i unvalidated
    apply run_performDelete_rejected
    intro deleted found lockable
    exact rejected deleted ⟨found, fun validates => absurd validates unvalidated, lockable⟩

end Delete

section Update
variable [NodeRuntime] {committed view : Store}

/-- The update passes its reference check and takes its locks. -/
structure UpdateAdmitted (committed view : Store) (updateRequest : UpdateRequest) : Prop where
  valid : updateRequest.validateDocumentReferencesExist = true →
    missingReferences view updateRequest.documentInfo = []
  lockable : Lockable view (holderUuids committed
    (documentFromUpdateRequest updateRequest).outboundRefs ++ [updateRequest.documentUuid])

/-- The document that a replacement in place would overwrite. -/
def replaceable (view : Store) (updateRequest : UpdateRequest) : Option MeadowlarkDocument :=
  findDocument view (.replaceable updateRequest.meadowlarkId updateRequest.documentUuid
    updateRequest.documentInfo.requestTimestamp)

/-- The new form of a document that changes its identity. -/
def movedDocument (updateRequest : UpdateRequest) (existing : MeadowlarkDocument) :
    MeadowlarkDocument :=
  { documentFromUpdateRequest updateRequest with createdAt := existing.createdAt }

/-- The view of an identity change after its delete. -/
abbrev withoutDocument (view : Store) (existing : MeadowlarkDocument) : Store :=
  view.erase [.document existing.id]

/-- The conditions under which an update changes the identity of a document. -/
structure UpdateMoves (committed view : Store) (generated : DocumentUuid)
    (updateRequest : UpdateRequest) (existing : MeadowlarkDocument) : Prop where
  allowed : updateRequest.resourceInfo.allowIdentityUpdates = true
  unmatched : replaceable view updateRequest = none
  newer : existing.lastModifiedAt < updateRequest.documentInfo.requestTimestamp
  deletable : DeleteAccepted view updateRequest.documentUuid true existing
  insertable : UpsertAccepted committed (withoutDocument view existing)
    (reinsertRequest updateRequest)
    (upsertedUuid (withoutDocument view existing) updateRequest.meadowlarkId generated)
    (movedDocument updateRequest existing)

theorem run_checkForInvalidReferences (committed view : Store) (updateRequest : UpdateRequest) :
    ∃ failure, run committed (checkForInvalidReferences updateRequest) view =
        .ok (failure, view) ∧
      (failure = none ↔ missingReferences view updateRequest.documentInfo = []) ∧
      ∀ result ∈ failure, result.succeeded = false := by
  unfold checkForInvalidReferences
  rw [run_bind_ok (run_validateReferences _)]
  split
  · rename_i clean
    exact ⟨none, rfl, by simp [clean], by simp⟩
  · rename_i missing
    refine ⟨_, rfl, by simp [missing], ?_⟩
    rintro result same
    cases same
    rfl

omit [NodeRuntime] in
theorem run_tryUpdateByReplacement_some {updateRequest : UpdateRequest}
    {document existing : MeadowlarkDocument}
    (stamped : document.lastModifiedAt = updateRequest.documentInfo.requestTimestamp)
    (found : replaceable view updateRequest = some existing) :
    run committed (tryUpdateByReplacement document updateRequest) view =
      .ok (some .updateSuccess, view.put (.document (setFields existing document))) := by
  unfold tryUpdateByReplacement
  rw [stamped, run_bind_ok (run_updateOne_some found)]
  rfl

omit [NodeRuntime] in
theorem run_tryUpdateByReplacement_none {updateRequest : UpdateRequest}
    {document : MeadowlarkDocument}
    (stamped : document.lastModifiedAt = updateRequest.documentInfo.requestTimestamp)
    (absent : replaceable view updateRequest = none) :
    run committed (tryUpdateByReplacement document updateRequest) view = .ok (none, view) := by
  unfold tryUpdateByReplacement
  rw [stamped, run_bind_ok (run_updateOne_none absent)]
  rfl

omit [NodeRuntime] in
theorem run_findUpdatableDocument (committed view : Store) (document : MeadowlarkDocument)
    (updateRequest : UpdateRequest) :
    ∃ outcome, run committed (findUpdatableDocument document updateRequest) view =
        .ok (outcome, view) ∧
      (∀ existing, outcome = .ok existing ↔
        findDocument view (.documentUuid updateRequest.documentUuid) = some existing ∧
          existing.lastModifiedAt < document.lastModifiedAt) ∧
      ∀ result, outcome = .error result → result.succeeded = false := by
  unfold findUpdatableDocument
  rw [run_bind_ok (run_findOne_whole _)]
  refine ⟨_, rfl, ?_⟩
  cases found : findDocument view (.documentUuid updateRequest.documentUuid) with
  | none =>
      refine ⟨by simp, ?_⟩
      rintro result same
      cases same
      rfl
  | some documentByUuid =>
      by_cases stale : documentByUuid.lastModifiedAt ≥ document.lastModifiedAt
      · simp only [stale, if_true]
        constructor
        · intro existing
          simp only [reduceCtorEq, Option.some.injEq, false_iff, not_and, not_lt]
          rintro rfl
          exact stale
        · rintro result same
          cases same
          rfl
      · simp only [stale, if_false]
        constructor
        · intro existing
          simp only [Except.ok.injEq, Option.some.injEq, iff_self_and]
          rintro rfl
          exact not_le.mp stale
        · rintro result same
          cases same

theorem run_insertUpdatedDocument_accepted {generated : DocumentUuid}
    {updateRequest : UpdateRequest} {document : MeadowlarkDocument}
    (same : document.id = updateRequest.meadowlarkId)
    (stamped : document.lastModifiedAt = updateRequest.documentInfo.requestTimestamp)
    (accepted : UpsertAccepted committed view (reinsertRequest updateRequest)
      (upsertedUuid view updateRequest.meadowlarkId generated) document) :
    run committed (insertUpdatedDocument generated updateRequest document) view =
      .ok (.updateSuccess, view.put (.document document)) := by
  have upserted : run committed (upsertDocumentTransaction generated
      (reinsertRequest updateRequest) (some document)) view =
        .ok (upsertedResult view updateRequest.meadowlarkId
          (upsertedUuid view updateRequest.meadowlarkId generated),
          view.put (.document document)) := run_upsert_accepted rfl same stamped accepted
  unfold insertUpdatedDocument
  rw [run_bind_ok upserted]
  unfold upsertedResult
  cases (findDocument view (.id updateRequest.meadowlarkId)).isNone with
  | true => rfl
  | false => rfl

/-- A failed upsert makes the whole update fail. -/
theorem run_insertUpdatedDocument_rejected {generated : DocumentUuid}
    {updateRequest : UpdateRequest} {document : MeadowlarkDocument}
    (rejected : ¬ UpsertAccepted committed view (reinsertRequest updateRequest)
      (upsertedUuid view updateRequest.meadowlarkId generated) document) :
    Fails UpdateResult.succeeded
      (run committed (insertUpdatedDocument generated updateRequest document) view) := by
  have fails : Fails UpsertResult.succeeded (run committed (upsertDocumentTransaction generated
      (reinsertRequest updateRequest) (some document)) view) := run_upsert_rejected rfl rejected
  unfold insertUpdatedDocument
  cases outcome : run committed (upsertDocumentTransaction generated
      (reinsertRequest updateRequest) (some document)) view with
  | error error => exact fails_bind_error outcome
  | ok done =>
      obtain ⟨result, following⟩ := done
      rw [outcome] at fails
      rw [run_bind_ok outcome]
      cases result with
      | insertSuccess documentUuid => cases fails
      | updateSuccess documentUuid => cases fails
      | insertFailureReference message infos => exact rfl
      | insertFailureConflict message infos => exact rfl
      | updateFailureReference message infos => exact rfl
      | upsertFailureWriteConflict message => exact rfl
      | unknownFailure message => exact rfl

theorem run_deleteAndInsert_accepted {generated : DocumentUuid} {updateRequest : UpdateRequest}
    {document existing : MeadowlarkDocument} (same : document.id = updateRequest.meadowlarkId)
    (stamped : document.lastModifiedAt = updateRequest.documentInfo.requestTimestamp)
    (deletable : DeleteAccepted view updateRequest.documentUuid true existing)
    (insertable : UpsertAccepted committed (withoutDocument view existing)
      (reinsertRequest updateRequest)
      (upsertedUuid (withoutDocument view existing) updateRequest.meadowlarkId generated)
      document) :
    run committed (deleteAndInsert generated document updateRequest) view =
      .ok (.updateSuccess, (withoutDocument view existing).put (.document document)) := by
  unfold deleteAndInsert
  rw [run_bind_ok (run_delete_accepted deletable)]
  exact run_insertUpdatedDocument_accepted same stamped insertable

theorem run_deleteAndInsert_rejected {generated : DocumentUuid} {updateRequest : UpdateRequest}
    {document existing : MeadowlarkDocument}
    (found : findDocument view (.documentUuid updateRequest.documentUuid) = some existing)
    (rejected : DeleteAccepted view updateRequest.documentUuid true existing →
      ¬ UpsertAccepted committed (withoutDocument view existing) (reinsertRequest updateRequest)
        (upsertedUuid (withoutDocument view existing) updateRequest.meadowlarkId generated)
        document) :
    Fails UpdateResult.succeeded
      (run committed (deleteAndInsert generated document updateRequest) view) := by
  unfold deleteAndInsert
  by_cases deletable : DeleteAccepted view updateRequest.documentUuid true existing
  · rw [run_bind_ok (run_delete_accepted deletable)]
    exact run_insertUpdatedDocument_rejected (rejected deletable)
  · have undeletable : ∀ deleted,
        ¬ DeleteAccepted view updateRequest.documentUuid true deleted := by
      intro deleted accepted
      obtain rfl : existing = deleted := Option.some.inj (found.symm.trans accepted.found)
      exact deletable accepted
    have fails : Fails DeleteResult.succeeded (run committed
        (deleteDocumentByMeadowlarkIdTransaction updateRequest.documentUuid true) view) :=
      run_delete_rejected undeletable
    cases outcome : run committed
        (deleteDocumentByMeadowlarkIdTransaction updateRequest.documentUuid true) view with
    | error error => exact fails_bind_error outcome
    | ok done =>
        obtain ⟨result, following⟩ := done
        rw [outcome] at fails
        rw [run_bind_ok outcome]
        cases result with
        | deleteSuccess => cases fails
        | deleteFailureReference infos => exact rfl
        | deleteFailureNotExists => exact rfl
        | deleteFailureWriteConflict message => exact rfl
        | unknownFailure message => exact rfl

theorem run_updateValidDocument_replaced {generated : DocumentUuid}
    {updateRequest : UpdateRequest} {existing : MeadowlarkDocument}
    (lockable : Lockable view (holderUuids committed
      (documentFromUpdateRequest updateRequest).outboundRefs ++ [updateRequest.documentUuid]))
    (found : replaceable view updateRequest = some existing) :
    run committed (updateValidDocument generated updateRequest) view =
      .ok (.updateSuccess, view.put
        (.document (setFields existing (documentFromUpdateRequest updateRequest)))) := by
  unfold updateValidDocument
  split
  · unfold updateAllowingIdentityChange
    rw [run_bind_ok (run_lockReferencedDocuments lockable),
      run_bind_ok (run_tryUpdateByReplacement_some rfl found)]
    rfl
  · unfold updateDisallowingIdentityChange
    rw [run_bind_ok (run_lockReferencedDocuments lockable),
      run_bind_ok (run_tryUpdateByReplacement_some rfl found)]
    rfl

theorem run_updateValidDocument_moved {generated : DocumentUuid}
    {updateRequest : UpdateRequest} {existing : MeadowlarkDocument}
    (lockable : Lockable view (holderUuids committed
      (documentFromUpdateRequest updateRequest).outboundRefs ++ [updateRequest.documentUuid]))
    (moves : UpdateMoves committed view generated updateRequest existing) :
    run committed (updateValidDocument generated updateRequest) view =
      .ok (.updateSuccess, (withoutDocument view existing).put
        (.document (movedDocument updateRequest existing))) := by
  obtain ⟨outcome, searched, updatable, -⟩ := run_findUpdatableDocument committed view
    (documentFromUpdateRequest updateRequest) updateRequest
  obtain rfl := (updatable existing).mpr ⟨moves.deletable.found, moves.newer⟩
  unfold updateValidDocument
  rw [if_pos moves.allowed]
  unfold updateAllowingIdentityChange
  rw [run_bind_ok (run_lockReferencedDocuments lockable),
    run_bind_ok (run_tryUpdateByReplacement_none rfl moves.unmatched)]
  simp only
  rw [run_bind_ok searched]
  exact run_deleteAndInsert_accepted rfl rfl moves.deletable moves.insertable

theorem run_updateValidDocument_refused {generated : DocumentUuid} {updateRequest : UpdateRequest}
    (refused : ¬ Lockable view (holderUuids committed
      (documentFromUpdateRequest updateRequest).outboundRefs ++ [updateRequest.documentUuid])) :
    Fails UpdateResult.succeeded
      (run committed (updateValidDocument generated updateRequest) view) := by
  unfold updateValidDocument
  split
  · exact fails_bind_error (run_lockReferencedDocuments_refused refused)
  · exact fails_bind_error (run_lockReferencedDocuments_refused refused)

theorem run_updateValidDocument_rejected {generated : DocumentUuid}
    {updateRequest : UpdateRequest} (absent : replaceable view updateRequest = none)
    (rejected : ∀ existing, ¬ UpdateMoves committed view generated updateRequest existing) :
    Fails UpdateResult.succeeded
      (run committed (updateValidDocument generated updateRequest) view) := by
  obtain ⟨outcome, searched, updatable, fails⟩ := run_findUpdatableDocument committed view
    (documentFromUpdateRequest updateRequest) updateRequest
  by_cases lockable : Lockable view (holderUuids committed
      (documentFromUpdateRequest updateRequest).outboundRefs ++ [updateRequest.documentUuid])
  · unfold updateValidDocument
    split
    · rename_i allowed
      unfold updateAllowingIdentityChange
      rw [run_bind_ok (run_lockReferencedDocuments lockable),
        run_bind_ok (run_tryUpdateByReplacement_none rfl absent)]
      simp only
      rw [run_bind_ok searched]
      cases outcome with
      | error result => exact fails result rfl
      | ok existing =>
          obtain ⟨found, newer⟩ := (updatable existing).mp rfl
          apply run_deleteAndInsert_rejected found
          intro deletable insertable
          exact rejected existing ⟨allowed, absent, newer, deletable, insertable⟩
    · unfold updateDisallowingIdentityChange
      rw [run_bind_ok (run_lockReferencedDocuments lockable),
        run_bind_ok (run_tryUpdateByReplacement_none rfl absent)]
      simp only
      rw [run_bind_ok searched]
      cases outcome with
      | error result => exact fails result rfl
      | ok existing => exact rfl
  · exact run_updateValidDocument_refused lockable

theorem run_updateDocument_valid {generated : DocumentUuid} {updateRequest : UpdateRequest}
    (valid : updateRequest.validateDocumentReferencesExist = true →
      missingReferences view updateRequest.documentInfo = []) :
    run committed (updateDocumentByDocumentUuidTransaction generated updateRequest) view =
      run committed (updateValidDocument generated updateRequest) view := by
  unfold updateDocumentByDocumentUuidTransaction
  split
  · rename_i validates
    obtain ⟨failure, checked, clean, -⟩ :=
      run_checkForInvalidReferences committed view updateRequest
    obtain rfl := clean.mpr (valid validates)
    rw [run_bind_ok checked]
  · rfl

theorem run_updateDocument_invalid {generated : DocumentUuid} {updateRequest : UpdateRequest}
    (invalid : ¬ (updateRequest.validateDocumentReferencesExist = true →
      missingReferences view updateRequest.documentInfo = [])) :
    Fails UpdateResult.succeeded
      (run committed (updateDocumentByDocumentUuidTransaction generated updateRequest) view) := by
  obtain ⟨validates, missing⟩ := Classical.not_imp.mp invalid
  obtain ⟨failure, checked, clean, fails⟩ :=
    run_checkForInvalidReferences committed view updateRequest
  unfold updateDocumentByDocumentUuidTransaction
  rw [if_pos validates, run_bind_ok checked]
  cases failure with
  | none => exact absurd (clean.mp rfl) missing
  | some result => exact fails result rfl

/-- An update replaces the document in place, moves it to a new identity or fails. -/
theorem run_update_cases (committed view : Store) (generated : DocumentUuid)
    (updateRequest : UpdateRequest) :
    (∃ existing, UpdateAdmitted committed view updateRequest ∧
        replaceable view updateRequest = some existing ∧
        run committed (updateDocumentByDocumentUuidTransaction generated updateRequest) view =
          .ok (.updateSuccess, view.put
            (.document (setFields existing (documentFromUpdateRequest updateRequest))))) ∨
      (∃ existing, UpdateAdmitted committed view updateRequest ∧
        UpdateMoves committed view generated updateRequest existing ∧
        run committed (updateDocumentByDocumentUuidTransaction generated updateRequest) view =
          .ok (.updateSuccess, (withoutDocument view existing).put
            (.document (movedDocument updateRequest existing)))) ∨
      Fails UpdateResult.succeeded
        (run committed (updateDocumentByDocumentUuidTransaction generated updateRequest) view) := by
  by_cases valid : updateRequest.validateDocumentReferencesExist = true →
      missingReferences view updateRequest.documentInfo = []
  · rw [run_updateDocument_valid valid]
    by_cases lockable : Lockable view (holderUuids committed
        (documentFromUpdateRequest updateRequest).outboundRefs ++ [updateRequest.documentUuid])
    · cases found : replaceable view updateRequest with
      | some existing =>
          left
          exact ⟨existing, ⟨valid, lockable⟩, rfl,
            run_updateValidDocument_replaced lockable found⟩
      | none =>
          right
          by_cases moves : ∃ existing, UpdateMoves committed view generated updateRequest existing
          · obtain ⟨existing, moves⟩ := moves
            left
            exact ⟨existing, ⟨valid, lockable⟩, moves,
              run_updateValidDocument_moved lockable moves⟩
          · right
            exact run_updateValidDocument_rejected found fun existing moved =>
              moves ⟨existing, moved⟩
    · right
      right
      exact run_updateValidDocument_refused lockable
  · right
    right
    exact run_updateDocument_invalid valid

end Update
end Meadowlark.Mongo
