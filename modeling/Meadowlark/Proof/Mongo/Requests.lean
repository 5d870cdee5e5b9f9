import Meadowlark.Construction.Mongo.Ownership
import Meadowlark.Proof.Core.Requests
import Meadowlark.Proof.Mongo.UpdateFrame

namespace Meadowlark.Mongo
open Meadowlark.Core Systems
variable [NodeRuntime]

section Effects
variable {store following : Store} {call : SequentialCall}
  {result : Except DriverError RepositoryResult}

/-- What an accepted call writes is newer than what it finds, so the store changes. -/
theorem CallEffect.changes (effect : CallEffect store call result following)
    {answer : RepositoryResult} (answered : result = .ok answer)
    (succeeded : answer.succeeded = true) : following ≠ store := by
  intro same
  cases effect with
  | @inserted generated upsertRequest documentUuid inside absent accepted =>
      have stored : documentFromUpsert upsertRequest documentUuid none ∈ documents store := by
        rw [← same]
        exact (mem_documents_put _ _ _).mpr (.inr rfl)
      have unmatched := findDocument_none absent stored
      simp [Filter.matches, documentFromUpsert, meadowlarkDocumentFrom] at unmatched
  | @overwritten generated upsertRequest existing found accepted =>
      have stored : overwrittenDocument upsertRequest existing ∈ documents store := by
        rw [← same]
        exact (mem_documents_put _ _ _).mpr (.inr rfl)
      obtain ⟨existingStored, named⟩ := findDocument_id found
      have identical := documents_eq_of_id stored existingStored named.symm
      have newer := accepted.current existing found
      rw [← identical] at newer
      exact lt_irrefl _ newer
  | @replaced generated updateRequest existing admitted found =>
      have stored : setFields existing (documentFromUpdateRequest updateRequest) ∈
          documents store := by
        rw [← same]
        exact (mem_documents_put _ _ _).mpr (.inr rfl)
      obtain ⟨existingStored, matched⟩ := findDocument_some found
      have identical := documents_eq_of_id stored existingStored rfl
      have newer : existing.lastModifiedAt < updateRequest.documentInfo.requestTimestamp := by
        simp [Filter.matches] at matched
        exact matched.2.2
      rw [← identical] at newer
      exact lt_irrefl _ newer
  | @moved generated updateRequest documentUuid existing inside admitted moves =>
      obtain ⟨existingStored, -⟩ := findDocument_some moves.deletable.found
      have newer := moves.newer
      rw [← same] at existingStored
      rcases (mem_documents_put _ _ _).mp existingStored with ⟨kept, -⟩ | identical
      · exact ((mem_documents_erase _ _ _).mp kept).2 rfl
      · rw [identical] at newer
        exact lt_irrefl _ newer
  | @deleted generated deleteRequest deleted accepted =>
      have stored := (findDocument_some accepted.found).1
      rw [← same] at stored
      exact ((mem_documents_erase _ _ _).mp stored).2 rfl
  | failed unsuccessful =>
      rw [unsuccessful answer answered] at succeeded
      cases succeeded

/-- A call that answers no success leaves the store as it is. -/
theorem CallEffect.keeps (effect : CallEffect store call result following)
    (failed : ∀ answer, result = .ok answer → answer.succeeded = false) : following = store := by
  cases effect with
  | failed unsuccessful => rfl
  | _ => cases failed _ rfl

end Effects

section Writes
variable {store : Store} {generated : GeneratedUuids} {write : WriteRequest}

/-- The repository call that a handler makes for a write. -/
def callOf (generated : GeneratedUuids) : WriteRequest → SequentialCall
  | .upsert request => .upsert generated request
  | .update request => .update generated request
  | .delete request => .delete generated request

theorem contents_callOf (generated : GeneratedUuids) (write : WriteRequest) (store : Store) :
    write.contents (documentStore generated) store =
      ((callOf generated write).perform store).2 := by
  cases write with
  | upsert request => rfl
  | update request => rfl
  | delete request => rfl

omit [NodeRuntime] in
theorem serveCall_ok {Result : Type} {outcome : Except DriverError Result × Store} {result : Result} :
    (serveCall outcome).1 = .ok result ↔ outcome.1 = .ok result := by
  obtain ⟨settled, following⟩ := outcome
  cases settled with
  | error error => exact iff_of_false (fun same => by cases same) fun same => by cases same
  | ok answer => exact (Except.ok.injEq ..).to_iff.trans (Except.ok.injEq ..).symm.to_iff

omit [NodeRuntime] in
/-- A wrapped answer is a success exactly when the answer is one. -/
theorem answers_success_iff {Result : Type} {succeeded : Result → Bool}
    {wrap : Result → RepositoryResult} (wrapped : ∀ result, (wrap result).succeeded = succeeded result)
    {settled : Except DriverError Result} :
    (∃ result, settled = .ok result ∧ succeeded result = true) ↔
      ∃ answer, settled.map wrap = .ok answer ∧ answer.succeeded = true := by
  cases settled with
  | error error =>
      apply iff_of_false
      · rintro ⟨result, answered, -⟩
        cases answered
      · rintro ⟨answer, answered, -⟩
        cases answered
  | ok result =>
      constructor
      · rintro ⟨_, ⟨⟩, success⟩
        exact ⟨_, rfl, (wrapped result).trans success⟩
      · rintro ⟨_, ⟨⟩, success⟩
        exact ⟨_, rfl, (wrapped result).symm.trans success⟩

theorem succeeds_callOf : write.Succeeds (documentStore generated) store ↔
    ∃ answer, ((callOf generated write).perform store).1 = .ok answer ∧ answer.succeeded = true := by
  cases write with
  | upsert request =>
      refine Iff.trans ?_ (answers_success_iff fun result => rfl)
      exact exists_congr fun result => and_congr_left fun _ => serveCall_ok
  | update request =>
      refine Iff.trans ?_ (answers_success_iff fun result => rfl)
      exact exists_congr fun result => and_congr_left fun _ => serveCall_ok
  | delete request =>
      refine Iff.trans ?_ (answers_success_iff fun result => rfl)
      exact exists_congr fun result => and_congr_left fun _ => serveCall_ok

/-- A write changes the store exactly when it succeeds. -/
theorem contents_unchanged_iff : write.contents (documentStore generated) store = store ↔
    ¬ write.Succeeds (documentStore generated) store := by
  have effect := perform_effect store (callOf generated write)
  rw [contents_callOf, succeeds_callOf]
  constructor
  · rintro same ⟨answer, answered, succeeded⟩
    exact effect.changes answered succeeded same
  · intro failed
    apply effect.keeps
    intro answer answered
    exact Bool.eq_false_iff.mpr fun succeeded => failed ⟨answer, answered, succeeded⟩

/-- The store and the request let the write through for some generated uuid. -/
def WriteAccepted (store : Store) : WriteRequest → Prop
  | .upsert request => ∃ documentUuid, UpsertAccepted store store request
      (upsertedUuid store request.meadowlarkId documentUuid)
      (documentFromUpsert request documentUuid (findDocument store (.id request.meadowlarkId)))
  | .update request => UpdateAdmitted store store request ∧
      ((replaceable store request).isSome = true ∨
        ∃ documentUuid existing, UpdateMoves store store documentUuid request existing)
  | .delete request => ∃ deleted, DeleteAccepted store request.documentUuid
      request.validateNoReferencesToDocument deleted

/-- A write succeeds for some generated uuids exactly when it is accepted. -/
theorem writeAccepted_iff :
    (∃ generated, write.Succeeds (documentStore generated) store) ↔ WriteAccepted store write := by
  constructor
  · rintro ⟨generated, succeeds⟩
    cases write with
    | upsert request =>
        obtain ⟨result, answered, succeeded⟩ := succeeds
        rcases upsertDocument_effect generated request store with
          ⟨documentUuid, -, accepted, -⟩ | unsuccessful
        · exact ⟨documentUuid, accepted⟩
        · rw [unsuccessful.answers result (serveCall_ok.mp answered)] at succeeded
          cases succeeded
    | update request =>
        obtain ⟨result, answered, succeeded⟩ := succeeds
        rcases updateDocument_effect generated request store with
          ⟨existing, admitted, found, -⟩ | ⟨documentUuid, -, existing, admitted, moves, -⟩ |
            unsuccessful
        · exact ⟨admitted, .inl (Option.isSome_iff_exists.mpr ⟨existing, found⟩)⟩
        · exact ⟨admitted, .inr ⟨documentUuid, existing, moves⟩⟩
        · rw [unsuccessful.answers result (serveCall_ok.mp answered)] at succeeded
          cases succeeded
    | delete request =>
        obtain ⟨result, answered, succeeded⟩ := succeeds
        rcases deleteDocument_effect generated request store with
          ⟨deleted, accepted, -⟩ | unsuccessful
        · exact ⟨deleted, accepted⟩
        · rw [unsuccessful.answers result (serveCall_ok.mp answered)] at succeeded
          cases succeeded
  · intro accepted
    cases write with
    | upsert request =>
        obtain ⟨documentUuid, accepted⟩ := accepted
        have done := @upsertDocument_accepted _ ⟨documentUuid, []⟩ request store accepted
        exact ⟨⟨documentUuid, []⟩, _, serveCall_ok.mpr (congrArg Prod.fst done),
          upsertedResult_succeeded _ _ _⟩
    | update request =>
        obtain ⟨admitted, replaced | ⟨documentUuid, existing, moves⟩⟩ := accepted
        · obtain ⟨existing, found⟩ := Option.isSome_iff_exists.mp replaced
          have done := updateDocument_replaced ⟨request.documentUuid, []⟩ admitted found
          exact ⟨⟨request.documentUuid, []⟩, _, serveCall_ok.mpr (congrArg Prod.fst done), rfl⟩
        · have done := @updateDocument_moved _ ⟨documentUuid, []⟩ request store existing admitted moves
          exact ⟨⟨documentUuid, []⟩, _, serveCall_ok.mpr (congrArg Prod.fst done), rfl⟩
    | delete request =>
        obtain ⟨deleted, accepted⟩ := accepted
        have done := deleteDocument_accepted ⟨request.documentUuid, []⟩ accepted
        exact ⟨⟨request.documentUuid, []⟩, _, serveCall_ok.mpr (congrArg Prod.fst done), rfl⟩

end Writes

section Lookup
variable {store : Store} {document : MeadowlarkDocument} {documentUuid : DocumentUuid}

/-- What the frontend finds out about a document. -/
def storedDocument (document : MeadowlarkDocument) : StoredDocument where
  projectName := document.projectName
  resourceName := document.resourceName
  createdBy := document.createdBy
  edfiDoc := document.edfiDoc
  lastModifiedAt := document.lastModifiedAt

/-- The check and the read look for the same uuid. -/
theorem serves_of_found (generated : GeneratedUuids)
    (found : findDocument store (.documentUuid documentUuid) = some document) :
    (documentStore generated).Serves store documentUuid (storedDocument document) where
  checked frontendRequest named := by
    have searched : run store (findOne (.documentUuid documentUuid) .whole false) store =
        .ok (some document, store) := by
      rw [← found]
      exact run_findOne_whole _
    have answered : run store (rejectByOwnershipSecurity frontendRequest) store =
        .ok (accessTo frontendRequest document.createdBy, store) := by
      unfold rejectByOwnershipSecurity accessTo
      by_cases reads : ReadsDescriptor frontendRequest
      · rw [if_pos reads]
        exact congrArg (run store · store) (if_pos reads)
      · rw [if_neg reads]
        refine (congrArg (run store · store) (if_neg reads)).trans ?_
        rw [named]
        dsimp only
        rw [run_bind_ok searched, run_pure]
        rfl
    unfold run at answered
    dsimp only [documentStore]
    rw [answered]
    rfl
  read getRequest named := by
    change (Except.ok (getDocumentByDocumentUuid getRequest store), store) = _
    unfold getDocumentByDocumentUuid
    rw [named, found]
    rfl

end Lookup
end Meadowlark.Mongo
