import Meadowlark.Proof.Mongo.Effects

namespace Meadowlark.Mongo
open Meadowlark.Core Systems
variable [NodeRuntime]

/-- The client that first inserted the document of each uuid. -/
abbrev Creators := DocumentUuid → Option String

omit [NodeRuntime] in
/-- A successful insert records its client under the new uuid. -/
def recordCreator (creators : Creators) :
    SequentialCall → Except DriverError RepositoryResult → Creators
  | .upsert _ upsertRequest, .ok (.upsert (.insertSuccess documentUuid)) =>
      Function.update creators documentUuid (some upsertRequest.security.clientId)
  | _, _ => creators

omit [NodeRuntime] in
/-- Every stored document names the client that first inserted it. -/
def CreatorsStable (store : Store) (creators : Creators) : Prop :=
  ∀ document ∈ documents store, creators document.documentUuid = some document.createdBy

instance (store : Store) (creators : Creators) : Decidable (CreatorsStable store creators) :=
  inferInstanceAs (Decidable (∀ document ∈ documents store, _))

omit [NodeRuntime] in
/-- No stored document has a uuid that the call would generate. -/
def FreshUuids (store : Store) (call : SequentialCall) : Prop :=
  ∀ documentUuid ∈ call.generated.all, ∀ document ∈ documents store,
    document.documentUuid ≠ documentUuid

instance (store : Store) (call : SequentialCall) : Decidable (FreshUuids store call) :=
  inferInstanceAs (Decidable (∀ documentUuid ∈ call.generated.all, ∀ document ∈ documents store, _))

/-- Only its creator overwrites a stored document or moves it to a new identity.
An update in place keeps the creator in any case. -/
def CreatorWrites (store : Store) : SequentialCall → Prop
  | .upsert _ upsertRequest =>
      ∀ existing ∈ findDocument store (.id upsertRequest.meadowlarkId),
        UpsertAccepted store store upsertRequest existing.documentUuid
            (overwrittenDocument upsertRequest existing) →
          existing.createdBy = upsertRequest.security.clientId
  | .update generated updateRequest =>
      ∀ documentUuid ∈ generated.all, ∀ existing,
        UpdateMoves store store documentUuid updateRequest existing →
          existing.createdBy = updateRequest.security.clientId
  | .delete _ _ => True

variable {store : Store} {creators : Creators}

omit [NodeRuntime] in
/-- A stored document is put without a change of its creator. -/
theorem CreatorsStable.put {document : MeadowlarkDocument} (stable : CreatorsStable store creators)
    (own : creators document.documentUuid = some document.createdBy) :
    CreatorsStable (store.put (.document document)) creators := by
  intro other inside
  rcases (mem_documents_put _ _ _).mp inside with ⟨old, -⟩ | rfl
  · exact stable other old
  · exact own

omit [NodeRuntime] in
theorem CreatorsStable.without (stable : CreatorsStable store creators)
    (dropped : MeadowlarkDocument) : CreatorsStable (withoutDocument store dropped) creators :=
  fun document inside => stable document ((mem_documents_erase _ _ _).mp inside).1

/-- One call by a creator keeps every creator. -/
theorem CreatorsStable.call {call : SequentialCall} (stable : CreatorsStable store creators)
    (fresh : FreshUuids store call) (own : CreatorWrites store call) :
    CreatorsStable (call.perform store).2 (recordCreator creators call (call.perform store).1) := by
  have effect := perform_effect store call
  generalize (call.perform store).1 = result at effect ⊢
  generalize (call.perform store).2 = following at effect ⊢
  cases effect with
  | @inserted generated upsertRequest documentUuid inside absent accepted =>
      apply CreatorsStable.put
      · intro document stored
        change Function.update creators documentUuid _ document.documentUuid = _
        rw [Function.update_of_ne (fresh documentUuid inside document stored)]
        exact stable document stored
      · exact Function.update_self documentUuid _ creators
  | @overwritten generated upsertRequest existing found accepted =>
      apply CreatorsStable.put stable
      change creators existing.documentUuid = some upsertRequest.security.clientId
      rw [← own existing found accepted]
      exact stable existing (findDocument_some found).1
  | @replaced generated updateRequest existing admitted found =>
      exact CreatorsStable.put stable (stable existing (findDocument_some found).1)
  | @moved generated updateRequest documentUuid existing inside admitted moves =>
      have stored := (findDocument_some moves.deletable.found).1
      have same : existing.documentUuid = updateRequest.documentUuid := by
        simpa [Filter.matches] using (findDocument_some moves.deletable.found).2
      apply CreatorsStable.put (stable.without existing)
      change creators updateRequest.documentUuid = some updateRequest.security.clientId
      rw [← own documentUuid inside existing moves, ← same]
      exact stable existing stored
  | deleted accepted => exact stable.without _
  | failed unsuccessful =>
      have unrecorded : recordCreator creators call result = creators := by
        unfold recordCreator
        split
        · cases unsuccessful _ rfl
        · rfl
      rw [unrecorded]
      exact stable

/-- In every sequential run whose calls are made by the creators the creators are stable. -/
theorem observed_creatorsStable
    (observed : Observed (fun store call => FreshUuids store call ∧ CreatorWrites store call)
      recordCreator (fun _ => none) store creators) : CreatorsStable store creators := by
  induction observed with
  | empty => exact fun _ inside => absurd inside List.not_mem_nil
  | call observed permitted ih => exact ih.call permitted.1 permitted.2

end Meadowlark.Mongo
