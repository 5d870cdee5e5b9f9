import Meadowlark.Proof.Mongo.Creators
import Meadowlark.Proof.Postgres.Creators

namespace Meadowlark
open Meadowlark.Core

/-- In either backend the creators are stable when only creators write over stored documents. -/
theorem creators_stable [NodeRuntime] [Postgres.ColumnTypes] :
    (∀ store creators, Mongo.Observed
        (fun store call => Mongo.FreshUuids store call ∧ Mongo.CreatorWrites store call)
        Mongo.recordCreator (fun _ => none) store creators →
      Mongo.CreatorsStable store creators) ∧
    ∀ tables creators, Postgres.Observed Postgres.CreatorWrites Postgres.recordCreator
        (fun _ => none) tables creators →
      Postgres.CreatorsStable tables creators :=
  ⟨fun _ _ => Mongo.observed_creatorsStable, fun _ _ => Postgres.observed_creatorsStable⟩

section Examples
open Sample Postgres.Sample

private def generated : Mongo.GeneratedUuids := ⟨documentUuid "000000000001", []⟩

private def schoolUpsert (clientId : String) (timestamp : Int) : UpsertRequest :=
  upsertRequest (resource "School") "schoolId" "1" [] none timestamp clientId

/-- The second client has full access and stores the school of the first client again. -/
private def secondUpsert : UpsertRequest :=
  { schoolUpsert "second" 2 with security := ⟨.fullAccess, "second"⟩ }

theorem upsert_replaces_creator :
    (∃ store creators, @Mongo.Observed runtime _ (fun store call => Mongo.FreshUuids store call)
        Mongo.recordCreator (fun _ => none) store creators ∧
      ¬ Mongo.CreatorsStable store creators) ∧
    ∃ tables creators, @Postgres.Observed runtime columns _ (fun _ _ => True)
        (@Postgres.recordCreator columns) (fun _ => none) tables creators ∧
      ¬ Postgres.CreatorsStable tables creators := by
  constructor
  · have first := @Mongo.Observed.call runtime _ (fun store call => Mongo.FreshUuids store call)
      Mongo.recordCreator (fun _ => none) _ _ (.upsert generated (schoolUpsert "first" 1))
      (@Mongo.Observed.empty runtime _ _ _ _) (by decide +kernel)
    have second := @Mongo.Observed.call runtime _ _ _ _ _ _
      (.upsert ⟨documentUuid "000000000002", []⟩ secondUpsert) first (by decide +kernel)
    refine ⟨_, _, second, ?_⟩
    decide +kernel
  · have first := @Postgres.Observed.call runtime columns _ (fun _ _ => True)
      (@Postgres.recordCreator columns) (fun _ => none) ⟨Postgres.Tables.empty, .idle⟩ _
      (.upsert (documentUuid "000000000001") (schoolUpsert "first" 1))
      (@Postgres.Observed.empty runtime columns _ _ _ _) (.inl rfl) trivial
    have second := @Postgres.Observed.call runtime columns _ _ _ _ _ _
      (.upsert (documentUuid "000000000002") secondUpsert) first
      (@Postgres.call_clean runtime columns _ (.inl rfl) _) trivial
    refine ⟨_, _, second, ?_⟩
    decide +kernel

theorem creators_stable_school :
    (∃ store creators, @Mongo.Observed runtime _ (fun store call => Mongo.FreshUuids store call ∧
        @Mongo.CreatorWrites runtime store call) Mongo.recordCreator (fun _ => none) store creators ∧
      (∃ document ∈ Mongo.documents store, document.lastModifiedAt = 2) ∧
      Mongo.CreatorsStable store creators) ∧
    ∃ tables creators, @Postgres.Observed runtime columns _
        (@Postgres.CreatorWrites columns runtime) (@Postgres.recordCreator columns)
        (fun _ => none) tables creators ∧
      (∃ document ∈ tables.documents, document.lastModifiedAt = 2) ∧
      Postgres.CreatorsStable tables creators := by
  constructor
  · have inserted := @Mongo.Observed.call runtime _ (fun store call => Mongo.FreshUuids store call ∧
      @Mongo.CreatorWrites runtime store call) Mongo.recordCreator (fun _ => none) _ _
      (.upsert generated (schoolUpsert "first" 1)) (@Mongo.Observed.empty runtime _ _ _ _)
      ⟨by decide +kernel, fun existing found => nomatch found⟩
    have overwritten := @Mongo.Observed.call runtime _ _ _ _ _ _
      (.upsert ⟨documentUuid "000000000002", []⟩ (schoolUpsert "first" 2)) inserted
      ⟨by decide +kernel, by
        rintro existing found -
        exact (by decide +kernel : ∀ existing ∈ Mongo.documents (@Mongo.SequentialCall.perform runtime
            (.upsert generated (schoolUpsert "first" 1)) Systems.Database.empty).2,
          existing.createdBy = "first") existing (Mongo.findDocument_some found).1⟩
    exact ⟨_, _, overwritten, by decide +kernel,
      (@creators_stable runtime columns).1 _ _ overwritten⟩
  · have inserted := @Postgres.Observed.call runtime columns _
      (@Postgres.CreatorWrites columns runtime) (@Postgres.recordCreator columns) (fun _ => none)
      ⟨Postgres.Tables.empty, .idle⟩ _
      (.upsert (documentUuid "000000000001") (schoolUpsert "first" 1))
      (@Postgres.Observed.empty runtime columns _ _ _ _) (.inl rfl)
      (fun existing found => nomatch found)
    have overwritten := @Postgres.Observed.call runtime columns _ _ _ _ _ _
      (.upsert (documentUuid "000000000002") (schoolUpsert "first" 2)) inserted
      (@Postgres.call_clean runtime columns _ (.inl rfl) _) (by
        rintro existing found -
        exact (by decide +kernel : ∀ existing ∈ (@Postgres.Connection.run columns _
            ⟨Postgres.Tables.empty, .idle⟩ (@Postgres.repositorySession runtime
              (.upsert (documentUuid "000000000001") (schoolUpsert "first" 1)))).2.committed.documents,
          existing.createdBy = "first") existing (Postgres.documentById_some found).1)
    exact ⟨_, _, overwritten, by decide +kernel,
      (@creators_stable runtime columns).2 _ _ overwritten⟩

end Examples
end Meadowlark
