import Meadowlark.Proof.Mongo.Deletion
import Meadowlark.Proof.Postgres.Deletion

namespace Meadowlark
open Meadowlark.Core

section Backends
variable [NodeRuntime] [Postgres.ColumnTypes] {store : Mongo.Store}
  {connection : Postgres.Connection} {lastWrites : Postgres.LastWrites}

/-- After sequential runs of either backend a validated delete decides by the other documents.
The one exception of MongoDB is a document that is its own only referrer, and the one of
PostgreSQL is a uuid that its column refuses. -/
theorem deletes_decide_iff
    (stored : Mongo.Observed (fun store call => Mongo.FreshUuids store call) (fun _ _ _ => ()) ()
      store ())
    (observed : Postgres.Observed (fun _ call => call.Named) Postgres.recordWrite
      (fun _ => NoDocumentInfo) connection.committed lastWrites)
    (clean : connection.Clean) (generated : Mongo.GeneratedUuids) {deleteRequest : DeleteRequest}
    (validates : deleteRequest.validateNoReferencesToDocument = true) :
    ((∃ result, (Mongo.deleteDocumentByDocumentUuid generated deleteRequest store).1 = .ok result ∧
      DecidesByOthers (Mongo.documents store)
        (Mongo.documents (Mongo.deleteDocumentByDocumentUuid generated deleteRequest store).2)
        (·.documentUuid = deleteRequest.documentUuid) Mongo.RefersTo result) ↔
      ¬ Mongo.OnlySelfReferenced store deleteRequest.documentUuid) ∧
    (Postgres.DecidesRightly connection lastWrites deleteRequest ↔
      ∃ documentUuid, Postgres.uuidColumn deleteRequest.documentUuid = .ok documentUuid) := by
  have orderly := Mongo.observed_orderly (fun _ _ fresh => fresh) stored
  have imaged := Postgres.observed_imaged observed
  exact ⟨Mongo.deleteDocument_decides_iff orderly generated validates,
    Postgres.deleteDocument_decides_iff imaged clean validates⟩

/-- The reports of blocking documents are right, but for the conflicts of PostgreSQL: they describe
only the documents that have the claimed id as their own. -/
theorem blocking_documents_iff
    (stored : Mongo.Observed (fun store call => Mongo.FreshUuids store call) (fun _ _ _ => ()) ()
      store ())
    (observed : Postgres.Observed (fun _ call => call.Named) Postgres.recordWrite
      (fun _ => NoDocumentInfo) connection.committed lastWrites)
    (clean : connection.Clean) :
    (∀ generated upsertRequest failureMessage referringDocumentInfo,
        (Mongo.upsertDocument generated upsertRequest store).1 =
            .ok (.insertFailureConflict failureMessage referringDocumentInfo) →
          Mongo.ReportsConflict store upsertRequest referringDocumentInfo) ∧
    (∀ generated (deleteRequest : DeleteRequest) referringDocumentInfo,
        (Mongo.deleteDocumentByDocumentUuid generated deleteRequest store).1 =
            .ok (.deleteFailureReference referringDocumentInfo) →
          ReportsReferrers (Mongo.documents store) Mongo.referringDocumentInfoFrom
            (·.documentUuid = deleteRequest.documentUuid) Mongo.RefersTo referringDocumentInfo) ∧
    (∀ (deleteRequest : DeleteRequest) referringDocumentInfo,
        (connection.run (Postgres.deleteDocumentByDocumentUuid deleteRequest)).1 =
            .ok (.deleteFailureReference referringDocumentInfo) →
          ReportsReferrers connection.committed.documents Postgres.referringDocumentInfoFrom
            (Postgres.NamedBy deleteRequest) (Postgres.RefersTo lastWrites)
            referringDocumentInfo) ∧
    ∀ generated upsertRequest,
      Postgres.ReportsConflicts connection lastWrites generated upsertRequest ↔
        ∀ superclassId, Postgres.ClaimsTaken connection.committed upsertRequest superclassId →
          ∃ document ∈ connection.committed.documents, document.meadowlarkId = superclassId := by
  have orderly := Mongo.observed_orderly (fun _ _ fresh => fresh) stored
  have imaged := Postgres.observed_imaged observed
  refine ⟨?_, ?_, ?_, ?_⟩
  · intro generated upsertRequest failureMessage referringDocumentInfo
    exact Mongo.upsertDocument_reports
  · intro generated deleteRequest referringDocumentInfo
    exact Mongo.deleteDocument_reports orderly.unlocked
  · intro deleteRequest referringDocumentInfo
    exact Postgres.deleteDocument_reports imaged clean
  · exact Postgres.upsertDocument_reports_iff clean

end Backends

section Examples
open Sample Postgres.Sample

private def blockedSchool : UpsertRequest :=
  upsertRequest (resource "School") "schoolId" "1" []
    (some (superclass "EducationOrganization" "educationOrganizationId" "1")) 1 "client"

/-- The organization names the identity of its own parent, which is a school so far. -/
private def organizationUpsert : UpsertRequest :=
  upsertRequest (resource "EducationOrganization") "educationOrganizationId" "1"
    [reference "EducationOrganization" "educationOrganizationId" "1"] none 2 "client"

private def agencyUpsert : UpsertRequest :=
  upsertRequest (resource "LocalEducationAgency") "localEducationAgencyId" "1" []
    (some (superclass "EducationOrganization" "educationOrganizationId" "1")) 2 "client"

private def deleteOf (digits : String) : DeleteRequest :=
  deleteRequest (resource "EducationOrganization") (documentUuid digits) "client"

private def blockingUuids (digits : String) : Mongo.GeneratedUuids := ⟨documentUuid digits, []⟩

private def schoolAlone : Mongo.Store :=
  (@Mongo.SequentialCall.perform runtime (.upsert (blockingUuids "000000000001") blockedSchool)
    Systems.Database.empty).2

private def schoolAndOrganization : Mongo.Store :=
  (@Mongo.SequentialCall.perform runtime (.upsert (blockingUuids "000000000002") organizationUpsert)
    schoolAlone).2

private def schoolTables : Postgres.Connection :=
  (@Postgres.Connection.run columns _ ⟨Postgres.Tables.empty, .idle⟩
    (@Postgres.repositorySession runtime
      (.upsert (documentUuid "000000000001") blockedSchool))).2

private theorem schoolAndOrganization_validated :
    @Mongo.Observed runtime _ (fun store call => Mongo.FreshUuids store call ∧ call.validates)
      (fun _ _ _ => ()) () schoolAndOrganization () := by
  have first := @Mongo.Observed.call runtime _
    (fun store call => Mongo.FreshUuids store call ∧ call.validates) (fun _ _ _ => ()) () _ _
    (.upsert (blockingUuids "000000000001") blockedSchool) (@Mongo.Observed.empty runtime _ _ _ _)
    (by decide +kernel)
  exact @Mongo.Observed.call runtime _ _ _ _ _ _
    (.upsert (blockingUuids "000000000002") organizationUpsert) first (by decide +kernel)

private theorem schoolAndOrganization_observed :
    @Mongo.Observed runtime _ (fun store call => Mongo.FreshUuids store call) (fun _ _ _ => ()) ()
      schoolAndOrganization () :=
  @Mongo.Observed.imp _ runtime _ _ _ _ _ _ (fun _ _ allowed => allowed.1)
    schoolAndOrganization_validated

private theorem schoolTables_observed :
    ∃ lastWrites, @Postgres.Observed runtime columns _ (fun _ call => call.Named)
      (@Postgres.recordWrite columns) (fun _ => NoDocumentInfo) schoolTables.committed
      lastWrites := by
  have named : Postgres.RepositoryCall.Named
      (.upsert (documentUuid "000000000001") blockedSchool) := by
    change _ ≠ _
    decide +kernel
  have observed := @Postgres.Observed.call runtime columns _ (fun _ call => call.Named)
    (@Postgres.recordWrite columns) (fun _ => NoDocumentInfo) ⟨Postgres.Tables.empty, .idle⟩ _ _
    (@Postgres.Observed.empty runtime columns _ _ _ _) (.inl rfl) named
  unfold schoolTables
  exact ⟨_, observed⟩

private theorem schoolTables_clean : schoolTables.Clean := by
  unfold schoolTables
  exact @Postgres.call_clean runtime columns _ (.inl rfl) _

/-- Nothing else refers to the organization, but its delete is refused on its own account. -/
theorem self_reference_refuses_delete :
    ∃ store, @Mongo.Observed runtime _
        (fun store call => Mongo.FreshUuids store call ∧ call.validates) (fun _ _ _ => ()) () store
        () ∧
      (∃ document ∈ Mongo.documents store, document.documentUuid = documentUuid "000000000002" ∧
        ¬ ReferencedByOthers (Mongo.documents store) Mongo.RefersTo document) ∧
      (Mongo.deleteDocumentByDocumentUuid (blockingUuids "000000000003") (deleteOf "000000000002")
        store).1 ≠ .ok .deleteSuccess := by
  refine ⟨schoolAndOrganization, schoolAndOrganization_validated, ?_, ?_⟩
  · decide +kernel
  · decide +kernel

/-- The delete of the school is decided by the organization that refers to it. -/
theorem deletes_decide_school :
    ∃ result, (Mongo.deleteDocumentByDocumentUuid (blockingUuids "000000000003")
        (deleteOf "000000000001") schoolAndOrganization).1 = .ok result ∧
      DecidesByOthers (Mongo.documents schoolAndOrganization)
        (Mongo.documents (Mongo.deleteDocumentByDocumentUuid (blockingUuids "000000000003")
          (deleteOf "000000000001") schoolAndOrganization).2)
        (·.documentUuid = documentUuid "000000000001") Mongo.RefersTo result := by
  obtain ⟨lastWrites, observed⟩ := schoolTables_observed
  have decided := @deletes_decide_iff runtime columns _ schoolTables lastWrites
    schoolAndOrganization_observed observed schoolTables_clean (blockingUuids "000000000003")
    (deleteOf "000000000001") rfl
  exact decided.1.mpr (by decide +kernel)

/-- The agency claims the organization of the school, but no school is reported. -/
theorem superclass_conflict_unreported :
    ∃ connection lastWrites failureMessage,
      @Postgres.Observed runtime columns _ (fun _ call => call.Named)
          (@Postgres.recordWrite columns) (fun _ => NoDocumentInfo)
          (Postgres.Connection.committed connection) lastWrites ∧ connection.Clean ∧
        (@Postgres.Connection.run columns _ connection
          (@Postgres.upsertDocument runtime (documentUuid "000000000002") agencyUpsert)).1 =
            .ok (.insertFailureConflict failureMessage []) := by
  obtain ⟨lastWrites, observed⟩ := schoolTables_observed
  refine ⟨schoolTables, lastWrites, some (.text ("Insert failed: the identity is in use by " ++
    "'LocalEducationAgency' which is also a(n) 'EducationOrganization'")), observed,
    schoolTables_clean, ?_⟩
  decide +kernel

/-- The delete of the school names the organization that refers to it. -/
theorem blocking_documents_school :
    ∃ referringDocumentInfo,
      (Mongo.deleteDocumentByDocumentUuid (blockingUuids "000000000003") (deleteOf "000000000001")
        schoolAndOrganization).1 = .ok (.deleteFailureReference referringDocumentInfo) ∧
      ReportsReferrers (Mongo.documents schoolAndOrganization) Mongo.referringDocumentInfoFrom
        (·.documentUuid = documentUuid "000000000001") Mongo.RefersTo referringDocumentInfo := by
  obtain ⟨lastWrites, observed⟩ := schoolTables_observed
  have reports := @blocking_documents_iff runtime columns _ schoolTables lastWrites
    schoolAndOrganization_observed observed schoolTables_clean
  have refused : ∃ referringDocumentInfo,
      (Mongo.deleteDocumentByDocumentUuid (blockingUuids "000000000003") (deleteOf "000000000001")
        schoolAndOrganization).1 = .ok (.deleteFailureReference referringDocumentInfo) := by
    refine ⟨[⟨"Ed-Fi", "EducationOrganization", "3.3.1-b", documentUuid "000000000002",
      organizationUpsert.meadowlarkId⟩], ?_⟩
    decide +kernel
  obtain ⟨referringDocumentInfo, refused⟩ := refused
  exact ⟨referringDocumentInfo, refused, reports.2.1 _ _ _ refused⟩

example : (Mongo.deleteDocumentByDocumentUuid (blockingUuids "000000000003")
    (deleteOf "000000000001") Systems.Database.empty).1 =
      .ok .deleteFailureNotExists := by decide +kernel

end Examples
end Meadowlark
