import Meadowlark.Proof.Core.Statuses
import Meadowlark.Proof.Mongo.Confinement
import Meadowlark.Proof.Postgres.Confinement

namespace Meadowlark
open Meadowlark.Core Systems

namespace Postgres
variable [NodeRuntime] [ColumnTypes] {tables following : Tables} {connection : Connection}

omit [NodeRuntime] in
/-- A row of a new uuid makes the table longer. -/
theorem insertDocument_changes {updateRequest : UpdateRequest} {documentUuid : DocumentUuid}
    (done : tables.insertDocument updateRequest documentUuid = .ok following) :
    following.documents ≠ tables.documents := by
  obtain ⟨row, -, documents, -, -⟩ := insertDocument_ok done
  rw [documents]
  intro same
  have longer := congrArg List.length same
  rw [List.length_append, List.length_singleton] at longer
  omega

theorem UpsertWrites.changes {generated documentUuid : DocumentUuid} {request : UpsertRequest}
    (writes : UpsertWrites tables generated request documentUuid following)
    (converted : UuidsConverted tables) : following.documents ≠ tables.documents := by
  have row := writes.written
  have uuid := writes.converted
  unfold upsertRow at row
  cases found : documentById tables request.meadowlarkId with
  | none =>
      rw [found, if_pos (by rfl)] at row
      exact insertDocument_changes row
  | some existing =>
      obtain ⟨stored, named⟩ := documentById_some found
      rw [found, if_neg (by simp)] at row
      have same : existing.documentUuid = documentUuid := by
        unfold upsertedUuid at uuid
        rw [found] at uuid
        exact Except.ok.inj ((converted existing stored).symm.trans uuid)
      exact updateDocument_changes stored same (writes.accepted.current existing found) row

/-- The documents change exactly with a call that succeeds. -/
theorem CallEffect.documents_unchanged_iff {call : RepositoryCall} {result : RepositoryResult}
    (effect : CallEffect tables call result following) (converted : UuidsConverted tables) :
    following.documents = tables.documents ↔ ¬ result.succeeded = true := by
  cases effect with
  | upserted writes =>
      refine iff_of_false (writes.changes converted) (not_not.mpr ?_)
      change (upsertedResult _ _ _).succeeded = true
      unfold upsertedResult
      split <;> rfl
  | updated writes =>
      obtain ⟨stored, same⟩ := documentByUuid_some writes.found
      have changed := updateDocument_changes stored same writes.current writes.written
      exact iff_of_false changed (not_not.mpr rfl)
  | @deleted deleteRequest documentUuid accepted =>
      change (tables.documents.filter _) = tables.documents ↔
        ¬ (deletedResult tables documentUuid).succeeded = true
      rw [deletedResult_succeeded, List.filter_eq_self, documentByUuid, List.find?_isSome]
      simp
  | failed unsuccessful => exact iff_of_true rfl (by rw [unsuccessful]; exact nofun)

theorem documents_unchanged_iff (regular : Regular connection) (generated : DocumentUuid)
    (write : WriteRequest) :
    (write.contents (documentStore generated) connection).committed.documents =
        connection.committed.documents ↔
      ¬ write.Succeeds (documentStore generated) connection := by
  rcases regular.settled with clean | failed
  · obtain ⟨result, following, done, -, effect⟩ :=
      repositorySession_effect clean (callOf generated write)
    rw [contents_callOf, succeeds_callOf, done]
    rw [effect.documents_unchanged_iff regular.converted, not_iff_not]
    constructor
    · exact fun succeeded => ⟨result, rfl, succeeded⟩
    · rintro ⟨_, ⟨⟩, succeeded⟩
      exact succeeded
  · obtain ⟨committed, block⟩ := connection
    obtain rfl : block = .failed := failed
    have fails := fails_of_failed generated committed
    exact iff_of_true (congrArg Tables.documents (fails.kept write)) (fails.failed write)

theorem guardAnswer_regular (generated : DocumentUuid) (validated : FrontendRequest)
    (regular : Regular connection) :
    Regular (guardAnswer (documentStore generated) validated connection).2 :=
  (tagsKept.checked generated validated regular).1

end Postgres

/-- In either backend the status of a write tells whether a document has changed.
No read changes anything. -/
theorem status_tells_change [NodeRuntime] [DocumentProcessing] [Postgres.ColumnTypes]
    {Memory : Type} {services : Services Memory} (attentive : services.Attentive) :
    (∀ store memory generated queryHandler entryPoint frontendRequest,
      EntryPoint.writes entryPoint = true →
      StatusTells id store ((Mongo.documentStore generated).run services
        (entryPoint.run queryHandler frontendRequest) (store, memory))) ∧
    (∀ connection memory generated queryHandler entryPoint frontendRequest,
      Postgres.Regular connection → EntryPoint.writes entryPoint = true →
      StatusTells (fun connection => connection.committed.documents) connection
        ((Postgres.documentStore generated).run services
          (entryPoint.run queryHandler frontendRequest) (connection, memory))) ∧
    (∀ (world : Mongo.Store × Memory) (turn : Turn Mongo.GeneratedUuids),
      turn.entryPoint.writes = false →
      (turn.entryPoint = .query → turn.queryHandler.Quiet) →
      (turn.take Mongo.documentStore services world).1 = world.1) ∧
    ∀ (world : Postgres.Connection × Memory) (turn : Turn DocumentUuid), world.1.Settled →
      turn.entryPoint.writes = false →
      (turn.entryPoint = .query → turn.queryHandler.Quiet) →
      (turn.take Postgres.documentStore services world).1.committed = world.1.committed := by
  refine ⟨?_, ?_, ?_, ?_⟩
  · intro store memory generated queryHandler entryPoint frontendRequest writes
    apply statusTells_write attentive writes
    · intro validated
      exact Mongo.guardAnswer_store generated validated
    · intro validated write
      exact Mongo.contents_unchanged_iff
  · intro connection memory generated queryHandler entryPoint frontendRequest regular writes
    apply statusTells_write attentive writes
    · intro validated
      exact congrArg Postgres.Tables.documents
        (Postgres.guardAnswer_settled generated validated regular.settled).2
    · intro validated write
      exact Postgres.documents_unchanged_iff
        (Postgres.guardAnswer_regular generated validated regular) generated write
  · intro world turn reads quiet
    have leaves := @turn_leaves _ _ _ _ _ Mongo.documentStore services turn quiet world
    generalize (turn.take Mongo.documentStore services world).1 = left at leaves
    cases leaves with
    | found => rfl
    | checked validated => exact Mongo.guardAnswer_store _ _
    | read validated request => exact Mongo.guardAnswer_store _ _
    | written makes => exact absurd makes.writes (by rw [reads]; exact nofun)
  · intro world turn settled reads quiet
    have leaves := @turn_leaves _ _ _ _ _ Postgres.documentStore services turn quiet world
    generalize (turn.take Postgres.documentStore services world).1 = left at leaves
    cases leaves with
    | found => rfl
    | checked validated => exact (Postgres.guardAnswer_settled _ _ settled).2
    | read validated request =>
        obtain ⟨checked, same⟩ := Postgres.guardAnswer_settled turn.generated validated settled
        exact (Postgres.get_settled _ _ checked).2.trans same
    | written makes => exact absurd makes.writes (by rw [reads]; exact nofun)

section Examples
open Sample Postgres.Sample

private def unqueried : QueryHandlerPlugin := ⟨fun _ => pure ⟨.querySuccess, [], none, none⟩⟩

private def writtenSchool : FrontendRequest :=
  request "/v3.3b/ed-fi/schools" "first" (some "\x7b\"schoolId\": \"1\"\x7d")

private def statusUuid : DocumentUuid := documentUuid "000000000001"

private def readTurn {Generated : Type} (generated : Generated) : Turn Generated :=
  ⟨generated, unqueried, .getById, writtenSchool⟩

theorem status_tells_school :
    StatusTells id Database.empty ((@Mongo.documentStore runtime ⟨statusUuid, []⟩).run services
      (@EntryPoint.run runtime processing unqueried .upsert writtenSchool) (Database.empty, 1)) ∧
    StatusTells (fun connection => connection.committed.documents) ⟨Postgres.Tables.empty, .idle⟩
      ((@Postgres.documentStore runtime columns statusUuid).run services
        (@EntryPoint.run runtime processing unqueried .upsert writtenSchool)
        (⟨Postgres.Tables.empty, .idle⟩, 1)) ∧
    (@Turn.take runtime processing _ _ _ (@Mongo.documentStore runtime) services
      (readTurn ⟨statusUuid, []⟩) (Database.empty, 1)).1 = Database.empty ∧
    (@Turn.take runtime processing _ _ _ (@Postgres.documentStore runtime columns) services
      (readTurn statusUuid) (⟨Postgres.Tables.empty, .idle⟩, 1)).1.committed =
        Postgres.Tables.empty := by
  have tells := @status_tells_change runtime processing columns _ services fun _ _ => rfl
  have regular : @Postgres.Regular columns ⟨Postgres.Tables.empty, .idle⟩ :=
    @Postgres.Regular.mk columns _ (.inl (.inl rfl)) fun _ inside => nomatch inside
  exact ⟨tells.1 _ _ _ _ .upsert _ rfl, tells.2.1 _ _ _ _ .upsert _ regular rfl,
    tells.2.2.1 (Database.empty, 1) (readTurn ⟨statusUuid, []⟩) rfl (fun same => nomatch same),
    tells.2.2.2 (⟨Postgres.Tables.empty, .idle⟩, 1) (readTurn statusUuid) (.inl (.inl rfl)) rfl
      (fun same => nomatch same)⟩

end Examples
end Meadowlark
