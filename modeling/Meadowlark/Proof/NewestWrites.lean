import Meadowlark.Proof.Mongo.NewestWrites
import Meadowlark.Proof.Postgres.NewestWrites

namespace Meadowlark
open Meadowlark.Core Systems

/-- In either backend the upserts of one identity leave the content of the newest request, in
whatever order they run, and a request that does not raise the timestamp is a write conflict. -/
theorem newest_write_wins [NodeRuntime] [Postgres.ColumnTypes] (meadowlarkId : MeadowlarkId) :
    (∀ store calls order,
      Mongo.Observed (fun store call => Mongo.FreshUuids store call) (fun _ _ _ => ()) () store () →
      Mongo.Competing store meadowlarkId calls → (calls.map Mongo.requestTimestamp).Nodup →
      order.Perm calls →
        LatestWins Mongo.upsertStep Mongo.requestTimestamp (Mongo.lastModified meadowlarkId)
          Mongo.Shows (fun answer => ∃ result, answer = .ok result ∧ result.succeeded = true)
          (· = .ok (.upsertFailureWriteConflict none)) calls order store) ∧
    ∀ tables lastWrites arrivals order,
      Postgres.Observed (fun _ call => call.Named) Postgres.recordWrite (fun _ => NoDocumentInfo)
        tables lastWrites →
      Postgres.Competing tables meadowlarkId arrivals →
      (arrivals.map Postgres.requestTimestamp).Nodup → order.Perm arrivals →
        LatestWins Postgres.upsertStep Postgres.requestTimestamp
          (Postgres.lastModified meadowlarkId) Postgres.Shows
          (fun answer => ∃ result, answer = .ok result ∧ result.succeeded = true)
          (· = .ok (.upsertFailureWriteConflict none)) arrivals order tables := by
  constructor
  · intro store calls order stored competing distinct ordered
    have orderly := Mongo.observed_orderly (fun _ _ fresh => fresh) stored
    exact competing.keepsNewest.latest_wins ordered distinct (fun _ listed => listed)
      (Mongo.between_start orderly)
  · intro tables lastWrites arrivals order stored competing distinct ordered
    exact competing.keepsNewest.latest_wins ordered distinct (fun _ listed => listed)
      ((Postgres.observed_imaged stored).between meadowlarkId)

section Examples
open Sample Postgres.Sample

private def agency : UpsertRequest :=
  upsertRequest (resource "LocalEducationAgency") "localEducationAgencyId" "2" []
    (some (superclass "EducationOrganization" "educationOrganizationId" "2")) 1 "client"

/-- A school of the agency, written again by other clients. -/
private def agencySchool (timestamp : Int) (clientId : String) : UpsertRequest :=
  upsertRequest (resource "School") "schoolId" "1"
    [reference "LocalEducationAgency" "localEducationAgencyId" "2"]
    (some (superclass "EducationOrganization" "educationOrganizationId" "1")) timestamp clientId

private def agencyUuids (digits : String) : Mongo.GeneratedUuids := ⟨documentUuid digits, []⟩

private def agencyStore : Mongo.Store :=
  (@Mongo.SequentialCall.perform runtime (.upsert (agencyUuids "000000000001") agency)
    Systems.Database.empty).2

private def agencyTables : Postgres.Connection :=
  (@Postgres.Connection.run columns _ ⟨Postgres.Tables.empty, .idle⟩
    (@Postgres.repositorySession runtime
      (.upsert (documentUuid "000000000001") agency))).2

private def schoolCalls : List (Mongo.GeneratedUuids × UpsertRequest) :=
  [(agencyUuids "000000000002", agencySchool 2 "first"),
    (agencyUuids "000000000003", agencySchool 3 "second")]

private def schoolArrivals : List Postgres.Arrival :=
  [⟨documentUuid "000000000002", agencySchool 2 "first", false⟩,
    ⟨documentUuid "000000000003", agencySchool 3 "second", true⟩]

private theorem agencyStore_observed :
    @Mongo.Observed runtime _ (fun store call => Mongo.FreshUuids store call) (fun _ _ _ => ()) ()
      agencyStore () :=
  @Mongo.Observed.call runtime _ (fun store call => Mongo.FreshUuids store call) (fun _ _ _ => ())
    () _ _ (.upsert (agencyUuids "000000000001") agency)
    (@Mongo.Observed.empty runtime _ _ _ _) (by decide +kernel)

private theorem agencyTables_observed :
    ∃ lastWrites, @Postgres.Observed runtime columns _ (fun _ call => call.Named)
      (@Postgres.recordWrite columns) (fun _ => NoDocumentInfo) agencyTables.committed
      lastWrites := by
  have named : Postgres.RepositoryCall.Named
      (.upsert (documentUuid "000000000001") agency) := by
    change _ ≠ _
    decide +kernel
  have observed := @Postgres.Observed.call runtime columns _ (fun _ call => call.Named)
    (@Postgres.recordWrite columns) (fun _ => NoDocumentInfo) ⟨Postgres.Tables.empty, .idle⟩ _ _
    (@Postgres.Observed.empty runtime columns _ _ _ _) (.inl rfl) named
  unfold agencyTables
  exact ⟨_, observed⟩

private theorem schoolCalls_competing :
    @Mongo.Competing runtime agencyStore (agencySchool 2 "first").meadowlarkId schoolCalls := by
  obtain ⟨stored, single⟩ : ∃ stored, Mongo.documents agencyStore = [stored] :=
    List.length_eq_one_iff.mp (by decide +kernel)
  have holds : ∀ document ∈ Mongo.documents agencyStore,
      document.id ≠ (agencySchool 2 "first").meadowlarkId ∧
        ∀ call ∈ schoolCalls,
          ∀ id ∈ @Mongo.referencedDocumentIdsFrom runtime call.2.documentInfo,
            id ≠ (agencySchool 2 "first").meadowlarkId ∧ id ∈ document.aliasMeadowlarkIds := by
    decide +kernel
  rw [single, List.forall_mem_singleton] at holds
  have refersOnce : ∀ call ∈ schoolCalls,
      (@Mongo.referencedDocumentIdsFrom runtime call.2.documentInfo).length = 1 := by
    decide +kernel
  refine @Mongo.Competing.mk runtime _ _ _ ?_ ?_ ?_ ?_
  · decide +kernel
  · decide +kernel
  · intro call listed
    obtain ⟨id, only⟩ := List.length_eq_one_iff.mp (refersOnce call listed)
    refine ⟨fun _ => stored, ?_, ?_⟩
    · rw [only]
      exact List.nodup_singleton _
    · intro other inside
      obtain ⟨foreign, held⟩ := holds.2 call listed other inside
      refine ⟨foreign, holds.1, fun document => ?_⟩
      rw [single, List.mem_singleton]
      constructor
      · exact And.left
      · rintro rfl
        exact ⟨rfl, held⟩
  · decide +kernel

private theorem schoolArrivals_competing :
    @Postgres.Competing runtime columns agencyTables.committed (agencySchool 2 "first").meadowlarkId
      schoolArrivals := by
  have storable : ∀ arrival ∈ schoolArrivals,
      arrival.upsertRequest.meadowlarkId.value.length ≤ 56 ∧
        arrival.upsertRequest.security.clientId.length ≤ 100 := by
    decide +kernel
  have fresh : ∀ arrival ∈ schoolArrivals, ∀ document ∈ agencyTables.committed.documents,
      document.documentUuid ≠ arrival.generated := by
    decide +kernel
  refine @Postgres.Competing.mk runtime columns _ _ _ ?_ ?_ ?_ ?_ ?_
  · decide +kernel
  · exact fun arrival listed => ⟨arrival.generated, rfl, fresh arrival listed⟩
  · exact fun arrival listed => @Postgres.Storable.mk columns _ (storable arrival listed).1
      (storable arrival listed).2 ⟨_, rfl⟩
  · decide +kernel
  · decide +kernel

/-- The later form of the school stays when it arrives first. -/
theorem newest_school_stays :
    @LatestWins _ _ _ _ _ (@Mongo.upsertStep runtime) Mongo.requestTimestamp
        (Mongo.lastModified (agencySchool 2 "first").meadowlarkId) (@Mongo.Shows runtime)
        (fun answer => ∃ result, answer = .ok result ∧ result.succeeded = true)
        (· = .ok (.upsertFailureWriteConflict none)) schoolCalls schoolCalls.reverse agencyStore ∧
      @LatestWins _ _ _ _ _ (@Postgres.upsertStep runtime columns) Postgres.requestTimestamp
        (Postgres.lastModified (agencySchool 2 "first").meadowlarkId) (@Postgres.Shows runtime columns)
        (fun answer => ∃ result, answer = .ok result ∧ result.succeeded = true)
        (· = .ok (.upsertFailureWriteConflict none)) schoolArrivals schoolArrivals.reverse
        agencyTables.committed := by
  have wins := @newest_write_wins runtime columns (agencySchool 2 "first").meadowlarkId
  obtain ⟨lastWrites, observed⟩ := agencyTables_observed
  constructor
  · exact wins.1 agencyStore schoolCalls schoolCalls.reverse agencyStore_observed
      schoolCalls_competing (by decide +kernel) (List.reverse_perm _)
  · exact wins.2 agencyTables.committed lastWrites schoolArrivals schoolArrivals.reverse observed
      schoolArrivals_competing (by decide +kernel) (List.reverse_perm _)

example : (Mongo.documents agencyStore).length = 1 := by decide +kernel

end Examples
end Meadowlark
