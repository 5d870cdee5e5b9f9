import Meadowlark.Proof.Mongo.Effects

namespace Meadowlark.Mongo
open Meadowlark.Core Systems

/-- The promise of a successful update about the whole collection. -/
structure KeepsFrame (store : Store) (updateRequest : UpdateRequest) (following : Store) :
    Prop where
  updated : ∃ document ∈ documents following,
    document.documentUuid = updateRequest.documentUuid ∧
      document.edfiDoc = updateRequest.edfiDoc ∧
      document.id = updateRequest.meadowlarkId ∧
      document.documentIdentity = updateRequest.documentInfo.documentIdentity
  kept : ∀ document ∈ documents store,
    document.documentUuid ≠ updateRequest.documentUuid → document ∈ documents following
  counted : (documents following).length = (documents store).length
  unclaimed : ∀ document ∈ documents store, document.id = updateRequest.meadowlarkId →
    document.documentUuid = updateRequest.documentUuid

/-- An identity change reaches the id of another document, which is older than the request.
Nothing that comes before the second write refuses it. -/
structure OverwritesOther [NodeRuntime] (store : Store) (updateRequest : UpdateRequest)
    (existing other : MeadowlarkDocument) : Prop where
  allowed : updateRequest.resourceInfo.allowIdentityUpdates = true
  valid : updateRequest.validateDocumentReferencesExist = true →
    missingReferences store updateRequest.documentInfo = []
  found : findDocument store (.documentUuid updateRequest.documentUuid) = some existing
  newer : existing.lastModifiedAt < updateRequest.documentInfo.requestTimestamp
  unreferenced : findDocument store (.outboundRefs existing.aliasMeadowlarkIds) = none
  claimed : findDocument store (.id updateRequest.meadowlarkId) = some other
  otherNewer : other.lastModifiedAt < updateRequest.documentInfo.requestTimestamp
  different : other.documentUuid ≠ updateRequest.documentUuid
  lockable : Lockable store (holderUuids store
    (referencedDocumentIdsFrom updateRequest.documentInfo) ++ [updateRequest.documentUuid])
  otherLockable : Lockable store (holderUuids store
    (referencedDocumentIdsFrom updateRequest.documentInfo) ++ [other.documentUuid])

section Views
variable {store : Store} {updateRequest : UpdateRequest} {existing other : MeadowlarkDocument}

theorem replaceable_some (found : replaceable store updateRequest = some existing) :
    existing ∈ documents store ∧ existing.id = updateRequest.meadowlarkId ∧
      existing.documentUuid = updateRequest.documentUuid := by
  have inside := findDocument_some found
  have matched : existing.id = updateRequest.meadowlarkId ∧
      existing.documentUuid = updateRequest.documentUuid ∧
        existing.lastModifiedAt < updateRequest.documentInfo.requestTimestamp := by
    simpa [Filter.matches] using inside.2
  exact ⟨inside.1, matched.1, matched.2.1⟩

/-- Without a replaceable document no document carries the id, the uuid and an older time. -/
theorem replaceable_none (absent : replaceable store updateRequest = none)
    (stored : other ∈ documents store) (sameId : other.id = updateRequest.meadowlarkId)
    (newer : other.lastModifiedAt < updateRequest.documentInfo.requestTimestamp) :
    other.documentUuid ≠ updateRequest.documentUuid := by
  intro sameUuid
  have refused := findDocument_none absent stored
  simp [Filter.matches, sameId, sameUuid, newer] at refused

theorem findDocument_id {id : MeadowlarkId} (found : findDocument store (.id id) = some other) :
    other ∈ documents store ∧ other.id = id := by
  have inside := findDocument_some found
  exact ⟨inside.1, by simpa [Filter.matches] using inside.2⟩

theorem findDocument_documentUuid {documentUuid : DocumentUuid}
    (found : findDocument store (.documentUuid documentUuid) = some other) :
    other ∈ documents store ∧ other.documentUuid = documentUuid := by
  have inside := findDocument_some found
  exact ⟨inside.1, by simpa [Filter.matches] using inside.2⟩

/-- A search by id finds the stored document with that id. -/
theorem findDocument_id_eq {id : MeadowlarkId} (stored : other ∈ documents store)
    (same : other.id = id) : findDocument store (.id id) = some other := by
  cases found : findDocument store (.id id) with
  | none =>
      have refused := findDocument_none found stored
      simp [Filter.matches, same] at refused
  | some document =>
      obtain ⟨documentStored, documentSame⟩ := findDocument_id found
      rw [documents_eq_of_id documentStored stored (documentSame.trans same.symm)]

/-- The search by id does not see the removal of another document. -/
theorem findDocument_id_without {id : MeadowlarkId} (different : existing.id ≠ id) :
    findDocument (withoutDocument store existing) (.id id) = findDocument store (.id id) := by
  cases found : findDocument store (.id id) with
  | none =>
      cases after : findDocument (withoutDocument store existing) (.id id) with
      | none => rfl
      | some document =>
          obtain ⟨stored, same⟩ := findDocument_id after
          have before := ((mem_documents_erase _ _ _).mp stored).1
          have refused := findDocument_none found before
          simp [Filter.matches, same] at refused
  | some document =>
      obtain ⟨stored, same⟩ := findDocument_id found
      apply findDocument_id_eq _ same
      exact (mem_documents_erase _ _ _).mpr ⟨stored, fun equal => different (equal ▸ same)⟩

/-- A lock does not see the removal of a document. -/
theorem lockable_without (documentUuids : List DocumentUuid) :
    Lockable (withoutDocument store existing) documentUuids ↔ Lockable store documentUuids := by
  simp [Lockable]

theorem Lockable.last {documentUuids : List DocumentUuid} {documentUuid : DocumentUuid}
    (lockable : Lockable store (documentUuids ++ [documentUuid])) :
    Lockable store [documentUuid] :=
  ⟨List.nodup_singleton documentUuid, fun requested inside =>
    lockable.2 requested (List.mem_append_right _ inside)⟩

end Views

section Frame
variable [NodeRuntime] {store : Store} {updateRequest : UpdateRequest} {existing other : MeadowlarkDocument}

/-- A replacement in place keeps the frame. -/
theorem replaced_keepsFrame (found : replaceable store updateRequest = some existing) :
    KeepsFrame store updateRequest (store.put
      (.document (setFields existing (documentFromUpdateRequest updateRequest)))) := by
  obtain ⟨stored, sameId, sameUuid⟩ := replaceable_some found
  have owner : ∀ document ∈ documents store, document.id = existing.id →
      document.documentUuid = updateRequest.documentUuid := by
    intro document documentStored same
    rw [documents_eq_of_id documentStored stored same]
    exact sameUuid
  constructor
  · refine ⟨setFields existing (documentFromUpdateRequest updateRequest), ?_, sameUuid, rfl,
      sameId, rfl⟩
    exact (mem_documents_put _ _ _).mpr (.inr rfl)
  · intro document documentStored different
    apply (mem_documents_put _ _ _).mpr
    left
    exact ⟨documentStored, fun same => different (owner document documentStored same)⟩
  · exact length_documents_put store stored rfl
  · intro document documentStored same
    exact owner document documentStored (same.trans sameId.symm)

/-- A move to an unused identity keeps the frame. -/
theorem moved_keepsFrame
    (found : findDocument store (.documentUuid updateRequest.documentUuid) = some existing)
    (unused : findDocument (withoutDocument store existing) (.id updateRequest.meadowlarkId) = none) :
    KeepsFrame store updateRequest ((withoutDocument store existing).put
      (.document (movedDocument updateRequest existing))) := by
  obtain ⟨stored, sameUuid⟩ := findDocument_documentUuid found
  have fresh : ∀ document ∈ documents (withoutDocument store existing),
      document.id ≠ updateRequest.meadowlarkId := by
    intro document kept same
    have refused := findDocument_none unused kept
    simp [Filter.matches, same] at refused
  have survives : ∀ document ∈ documents store, document ≠ existing →
      document ∈ documents (withoutDocument store existing) := by
    intro document documentStored different
    apply (mem_documents_erase _ _ _).mpr
    exact ⟨documentStored, fun same => different (documents_eq_of_id documentStored stored same)⟩
  constructor
  · refine ⟨movedDocument updateRequest existing, ?_, rfl, rfl, rfl, rfl⟩
    exact (mem_documents_put _ _ _).mpr (.inr rfl)
  · intro document documentStored different
    have kept := survives document documentStored fun same => different (same ▸ sameUuid)
    exact (mem_documents_put _ _ _).mpr (.inl ⟨kept, fresh document kept⟩)
  · rw [length_documents_put_fresh _ fresh]
    exact (documents_perm_erase store stored).length_eq.symm
  · intro document documentStored same
    by_cases moved : document = existing
    · rw [moved]
      exact sameUuid
    · exact absurd same (fresh document (survives document documentStored moved))

/-- The conditions of an overwriting update let its identity change pass. -/
theorem OverwritesOther.moves (overwrites : OverwritesOther store updateRequest existing other)
    (generated : DocumentUuid) :
    UpdateAdmitted store store updateRequest ∧
      UpdateMoves store store generated updateRequest existing := by
  obtain ⟨stored, sameUuid⟩ := findDocument_documentUuid overwrites.found
  obtain ⟨otherStored, otherSame⟩ := findDocument_id overwrites.claimed
  have otherId : existing.id ≠ updateRequest.meadowlarkId := by
    intro same
    have equal := documents_eq_of_id stored otherStored (same.trans otherSame.symm)
    exact overwrites.different (equal ▸ sameUuid)
  have search : findDocument (withoutDocument store existing) (.id updateRequest.meadowlarkId) =
      some other := (findDocument_id_without otherId).trans overwrites.claimed
  have unmatched : replaceable store updateRequest = none := by
    cases found : replaceable store updateRequest with
    | none => rfl
    | some document =>
        obtain ⟨documentStored, documentId, documentUuid⟩ := replaceable_some found
        have equal := documents_eq_of_id documentStored otherStored
          (documentId.trans otherSame.symm)
        exact absurd (equal ▸ documentUuid) overwrites.different
  have sameHolder : upsertedUuid (withoutDocument store existing) updateRequest.meadowlarkId
      generated = other.documentUuid := by
    unfold upsertedUuid
    rw [search]
    rfl
  refine ⟨⟨overwrites.valid, overwrites.lockable⟩, overwrites.allowed, unmatched,
    overwrites.newer, ⟨overwrites.found, fun _ => overwrites.unreferenced,
      overwrites.lockable.last⟩, ?_⟩
  refine ⟨?_, ?_, fun validates => absurd validates (by simp [reinsertRequest]), ?_⟩
  · intro document documentFound
    obtain rfl : other = document := Option.some.inj (search.symm.trans documentFound)
    exact overwrites.otherNewer
  · intro absent
    rw [show findDocument (withoutDocument store existing)
      (.id (reinsertRequest updateRequest).meadowlarkId) = some other from search] at absent
    cases absent
  · rw [sameHolder, lockable_without]
    exact overwrites.otherLockable

/-- An identity change that finds another document at its new id overwrites it. -/
theorem UpdateMoves.overwrites {documentUuid : DocumentUuid}
    (admitted : UpdateAdmitted store store updateRequest)
    (moves : UpdateMoves store store documentUuid updateRequest existing)
    (claimed : findDocument (withoutDocument store existing) (.id updateRequest.meadowlarkId) =
      some other) :
    OverwritesOther store updateRequest existing other := by
  obtain ⟨kept, same⟩ := findDocument_id claimed
  obtain ⟨otherStored, different⟩ := (mem_documents_erase _ _ _).mp kept
  have otherNewer := moves.insertable.current other claimed
  have holder : upsertedUuid (withoutDocument store existing) updateRequest.meadowlarkId
      documentUuid = other.documentUuid := by
    unfold upsertedUuid
    rw [claimed]
    rfl
  have lockable := moves.insertable.lockable
  rw [holder, lockable_without] at lockable
  exact
    { allowed := moves.allowed
      valid := admitted.valid
      found := moves.deletable.found
      newer := moves.newer
      unreferenced := moves.deletable.unreferenced rfl
      claimed := findDocument_id_eq otherStored same
      otherNewer := otherNewer
      different := replaceable_none moves.unmatched otherStored same otherNewer
      lockable := admitted.lockable
      otherLockable := lockable }

/-- A successful update keeps the frame exactly when it does not overwrite another document. -/
theorem updateDocument_keepsFrame_iff (generated : GeneratedUuids)
    (updateRequest : UpdateRequest) (store : Store) :
    ((updateDocumentByDocumentUuid generated updateRequest store).1 = .ok .updateSuccess →
        KeepsFrame store updateRequest
          (updateDocumentByDocumentUuid generated updateRequest store).2) ↔
      ¬ ∃ existing other, OverwritesOther store updateRequest existing other := by
  constructor
  · rintro keeps ⟨existing, other, overwrites⟩
    obtain ⟨admitted, moves⟩ := overwrites.moves generated.first
    have done := updateDocument_moved admitted moves
    have frame := keeps (congrArg Prod.fst done)
    obtain ⟨otherStored, same⟩ := findDocument_id overwrites.claimed
    exact overwrites.different (frame.unclaimed other otherStored same)
  · intro apart success
    rcases updateDocument_effect generated updateRequest store with
      ⟨existing, -, found, done⟩ | ⟨documentUuid, -, existing, admitted, moves, done⟩ |
        unsuccessful
    · rw [done]
      exact replaced_keepsFrame found
    · rw [done]
      apply moved_keepsFrame moves.deletable.found
      cases claimed : findDocument (withoutDocument store existing)
          (.id updateRequest.meadowlarkId) with
      | none => rfl
      | some other => exact absurd ⟨existing, other, moves.overwrites admitted claimed⟩ apart
    · cases unsuccessful.answers _ success

end Frame

section Examples
open Sample

private def insertedSchool (schoolId : String) (timestamp : Int) : UpsertRequest :=
  @upsertRequest { resource "School" with allowIdentityUpdates := true } "schoolId" schoolId []
    none timestamp "client"

/-- Two schools are stored one after another. -/
private def twoSchools : Store :=
  let first := @upsertDocument runtime ⟨documentUuid "000000000001", []⟩ (insertedSchool "1" 1)
    Database.empty
  let second := @upsertDocument runtime ⟨documentUuid "000000000002", []⟩ (insertedSchool "2" 2)
    first.2
  second.2

/-- The first school takes over the identity of the second one. -/
private def takeover : UpdateRequest :=
  { insertedSchool "2" 3 with documentUuid := documentUuid "000000000001" }

theorem update_overwrites_school :
    let outcome := @updateDocumentByDocumentUuid runtime ⟨documentUuid "000000000003", []⟩
      takeover twoSchools
    outcome.1 = .ok .updateSuccess ∧ ¬ KeepsFrame twoSchools takeover outcome.2 := by
  intro outcome
  have lost : outcome.1 = .ok .updateSuccess ∧
      (documents outcome.2).length ≠ (documents twoSchools).length := by decide +kernel
  exact ⟨lost.1, fun frame => lost.2 frame.counted⟩

end Examples
end Meadowlark.Mongo
