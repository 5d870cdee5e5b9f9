import Meadowlark.Proof.Postgres.SideTables

namespace Meadowlark.Postgres
open Meadowlark.Core Systems

/-- The client that first inserted the document of each uuid. -/
abbrev Creators := DocumentUuid → Option String

section Calls
variable [ColumnTypes]

/-- A successful insert records its client under the stored form of the new uuid. -/
def recordCreator (creators : Creators) :
    RepositoryCall → Except SqlError RepositoryResult → Creators
  | .upsert _ upsertRequest, .ok (.upsert (.insertSuccess documentUuid)) =>
      match uuidColumn documentUuid with
      | .ok converted => Function.update creators converted (some upsertRequest.security.clientId)
      | .error _ => creators
  | _, _ => creators

/-- Every stored document names the client that first inserted it. -/
def CreatorsStable (tables : Tables) (creators : Creators) : Prop :=
  ∀ document ∈ tables.documents, creators document.documentUuid = some document.createdBy

instance (tables : Tables) (creators : Creators) : Decidable (CreatorsStable tables creators) :=
  inferInstanceAs (Decidable (∀ document ∈ tables.documents, _))

variable [NodeRuntime]

/-- Only its creator writes over a stored document. -/
def CreatorWrites (tables : Tables) : RepositoryCall → Prop
  | .upsert _ upsertRequest =>
      ∀ existing ∈ documentById tables upsertRequest.meadowlarkId,
        UpsertAccepted tables upsertRequest →
          existing.createdBy = upsertRequest.security.clientId
  | .update updateRequest =>
      ∀ existing documentUuid following,
        UpdateWrites tables updateRequest existing documentUuid following →
          existing.createdBy = updateRequest.security.clientId
  | .delete _ => True

variable {tables following : Tables} {creators : Creators}

omit [NodeRuntime] in
/-- An overwritten row keeps its creator when the creator writes it. -/
theorem CreatorsStable.update {updateRequest : UpdateRequest} {documentUuid : DocumentUuid}
    {existing : MeadowlarkDocument} (stable : CreatorsStable tables creators)
    (stored : existing ∈ tables.documents) (same : existing.documentUuid = documentUuid)
    (own : existing.createdBy = updateRequest.security.clientId)
    (done : tables.updateDocument updateRequest documentUuid = .ok following) :
    CreatorsStable following creators := by
  obtain ⟨-, -, origin, -, -⟩ := updateDocument_ok done
  intro row inside
  rcases origin row inside with ⟨old, -⟩ | ⟨document, -, -, created⟩
  · exact stable row old
  · obtain ⟨-, rowUuid, rowCreator⟩ := documentRow_ok created
    rw [rowUuid, rowCreator, ← own, ← same]
    exact stable existing stored

omit [NodeRuntime] in
/-- An inserted row gets the creator that is recorded for it. -/
theorem CreatorsStable.insert {updateRequest : UpdateRequest} {documentUuid : DocumentUuid}
    (stable : CreatorsStable tables creators)
    (done : tables.insertDocument updateRequest documentUuid = .ok following) :
    CreatorsStable following
      (Function.update creators documentUuid (some updateRequest.security.clientId)) := by
  obtain ⟨row, created, documents, -, -⟩ := insertDocument_ok done
  obtain ⟨-, rowUuid, rowCreator⟩ := documentRow_ok created
  have rowInside : row ∈ following.documents := by
    rw [documents]
    simp
  intro document inside
  by_cases same : document.documentUuid = documentUuid
  · have identical := documents_eq_of_uuid inside rowInside (same.trans rowUuid.symm)
    rw [same, Function.update_self, identical, rowCreator]
  · rw [Function.update_of_ne same]
    rw [documents, List.mem_append, List.mem_singleton] at inside
    rcases inside with old | rfl
    · exact stable document old
    · exact absurd rowUuid same

/-- One call by a creator keeps every creator. -/
theorem CreatorsStable.call {connection : Connection} {call : RepositoryCall}
    (stable : CreatorsStable connection.committed creators)
    (converted : UuidsConverted connection.committed) (clean : connection.Clean)
    (own : CreatorWrites connection.committed call) :
    CreatorsStable (connection.run (repositorySession call)).2.committed
      (recordCreator creators call (connection.run (repositorySession call)).1) := by
  obtain ⟨result, ⟨committed, block⟩, run, -, effect⟩ := repositorySession_effect clean call
  rw [run]
  dsimp only at effect ⊢
  cases effect with
  | @upserted generated documentUuid upsertRequest following writes =>
      have written := writes.written
      have uuid := writes.converted
      unfold upsertRow at written
      unfold upsertedUuid at uuid written ⊢
      unfold upsertedResult
      cases found : documentById connection.committed upsertRequest.meadowlarkId with
      | none =>
          rw [found] at written uuid
          change CreatorsStable _ (match uuidColumn generated with | .ok _ => _ | .error _ => _)
          rw [show uuidColumn generated = .ok documentUuid from uuid]
          have inserted : connection.committed.insertDocument
              { upsertRequest with documentUuid := generated } documentUuid = .ok following := written
          have kept := stable.insert inserted
          exact kept
      | some existing =>
          rw [found] at written uuid
          have stored := (documentById_some found).1
          have same : existing.documentUuid = documentUuid :=
            Except.ok.inj ((converted existing stored).symm.trans uuid)
          have updated : connection.committed.updateDocument
              { upsertRequest with documentUuid := existing.documentUuid } documentUuid =
                .ok following := written
          have kept := stable.update stored same (own existing found writes.accepted) updated
          exact kept
  | updated writes =>
      obtain ⟨stored, same⟩ := documentByUuid_some writes.found
      have kept := stable.update stored same (own _ _ _ writes) writes.written
      exact kept
  | deleted accepted =>
      exact fun document inside => stable document (List.mem_filter.mp inside).1
  | failed unsuccessful =>
      rename_i result
      have unrecorded : recordCreator creators call (.ok result) = creators := by
        cases result with
        | upsert result => cases result <;> first | (cases call <;> rfl) | cases unsuccessful
        | update result => cases call <;> rfl
        | delete result => cases call <;> rfl
      rw [unrecorded]
      exact stable

/-- In every sequential run whose calls are made by the creators the creators are stable. -/
theorem observed_creatorsStable
    (observed : Observed CreatorWrites recordCreator (fun _ => none) tables creators) :
    CreatorsStable tables creators := by
  have stable : CreatorsStable tables creators ∧ UuidsConverted tables := by
    induction observed with
    | empty => exact ⟨fun _ inside => absurd inside List.not_mem_nil,
        fun _ inside => absurd inside List.not_mem_nil⟩
    | call observed clean own ih => exact ⟨ih.1.call ih.2 clean own, ih.2.call clean _⟩
  exact stable.1

end Calls
end Meadowlark.Postgres
