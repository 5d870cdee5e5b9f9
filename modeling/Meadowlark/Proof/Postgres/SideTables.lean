import Meadowlark.Proof.Postgres.SequentialIntegrity
import Meadowlark.Systems.KeyedImage

namespace Meadowlark.Postgres
open Meadowlark.Core Systems
open scoped List

/-- Calls run one after another while an observer sees every call with its result. -/
inductive Observed [NodeRuntime] [ColumnTypes] {Observation : Type}
    (allowed : Tables → RepositoryCall → Prop)
    (observe : Observation → RepositoryCall → Except SqlError RepositoryResult → Observation)
    (initial : Observation) : Tables → Observation → Prop where
  | empty : Observed allowed observe initial Tables.empty initial
  | call {connection : Connection} {observation : Observation} {call : RepositoryCall}
      (reached : Observed allowed observe initial connection.committed observation)
      (clean : connection.Clean) (permitted : allowed connection.committed call) :
      Observed allowed observe initial (connection.run (repositorySession call)).2.committed
        (observe observation call (connection.run (repositorySession call)).1)

section Runs
variable [NodeRuntime] [ColumnTypes] {Observation : Type}
  {allowed : Tables → RepositoryCall → Prop}
  {observe : Observation → RepositoryCall → Except SqlError RepositoryResult → Observation}
  {initial observation : Observation} {connection : Connection} {calls : List RepositoryCall}

/-- What the observer has seen after the calls of a list. -/
def observeAll (observe : Observation → RepositoryCall → Except SqlError RepositoryResult → Observation)
    (connection : Connection) (observation : Observation) : List RepositoryCall → Observation
  | [] => observation
  | call :: rest =>
      observeAll observe (connection.run (repositorySession call)).2
        (observe observation call (connection.run (repositorySession call)).1) rest

theorem Observed.performAll
    (observed : Observed allowed observe initial connection.committed observation)
    (clean : connection.Clean) (permitted : PermittedAll allowed connection calls) :
    Observed allowed observe initial (performAll connection calls).committed
      (observeAll observe connection observation calls) := by
  induction calls generalizing connection observation with
  | nil => exact observed
  | cons call rest ih =>
      exact ih (observed.call clean permitted.1) (call_clean clean call) permitted.2

end Runs

section Rows
variable [NodeRuntime]

/-- The alias rows of a document whose last write had the document info: its own id and the id of
its superclass. -/
def aliasRowsOf (documentInfo : DocumentInfo) (document : MeadowlarkDocument) : List AliasRow :=
  (document.meadowlarkId ::
    (documentInfo.superclassInfo.map getMeadowlarkIdForSuperclassInfo).toList).map fun aliasId =>
      ⟨document.documentUuid, document.meadowlarkId, aliasId⟩

/-- A row for each reference to a document and then for each reference to a descriptor. -/
def referenceRowsOf (documentInfo : DocumentInfo) (document : MeadowlarkDocument) :
    List ReferenceRow :=
  (documentInfo.documentReferences ++ documentInfo.descriptorReferences).map fun reference =>
    ⟨document.meadowlarkId, getMeadowlarkIdForDocumentReference reference⟩

/-- The ids that a write inserts are those of its references in their order. -/
theorem outboundRefsFrom_eq (documentInfo : DocumentInfo) :
    outboundRefsFrom documentInfo =
      (documentInfo.documentReferences ++ documentInfo.descriptorReferences).map
        getMeadowlarkIdForDocumentReference :=
  List.map_append.symm

theorem referenceRowsOf_eq (documentInfo : DocumentInfo) (document : MeadowlarkDocument) :
    referenceRowsOf documentInfo document =
      (outboundRefsFrom documentInfo).map fun ref => ⟨document.meadowlarkId, ref⟩ := by
  rw [outboundRefsFrom_eq, List.map_map]
  rfl

/-- The document info of the last write of each uuid. -/
abbrev LastWrites := DocumentUuid → DocumentInfo

def LastWrites.record [ColumnTypes] (lastWrites : LastWrites) (documentUuid : DocumentUuid)
    (documentInfo : DocumentInfo) : LastWrites :=
  match uuidColumn documentUuid with
  | .ok converted => Function.update lastWrites converted documentInfo
  | .error _ => lastWrites

/-- A successful write is recorded under the uuid that its answer or its request names. -/
def recordWrite [ColumnTypes] (lastWrites : LastWrites) :
    RepositoryCall → Except SqlError RepositoryResult → LastWrites
  | .upsert _ upsertRequest, .ok (.upsert (.insertSuccess documentUuid)) =>
      lastWrites.record documentUuid upsertRequest.documentInfo
  | .upsert _ upsertRequest, .ok (.upsert (.updateSuccess documentUuid)) =>
      lastWrites.record documentUuid upsertRequest.documentInfo
  | .update updateRequest, .ok (.update .updateSuccess) =>
      lastWrites.record updateRequest.documentUuid updateRequest.documentInfo
  | _, _ => lastWrites

/-- The side tables are the image of the documents under their last writes. -/
structure SideTablesMatch (tables : Tables) (lastWrites : LastWrites) : Prop where
  aliases : tables.aliases ~ tables.documents.flatMap fun document =>
    aliasRowsOf (lastWrites document.documentUuid) document
  references : tables.references ~ tables.documents.flatMap fun document =>
    referenceRowsOf (lastWrites document.documentUuid) document

/-- The id of a written document is a hash, which is never empty. -/
def RepositoryCall.Named : RepositoryCall → Prop
  | .upsert _ upsertRequest => upsertRequest.meadowlarkId ≠ ⟨""⟩
  | .update updateRequest => updateRequest.meadowlarkId ≠ ⟨""⟩
  | .delete _ => True

instance : DecidablePred RepositoryCall.Named
  | .upsert _ upsertRequest => inferInstanceAs (Decidable (upsertRequest.meadowlarkId ≠ ⟨""⟩))
  | .update updateRequest => inferInstanceAs (Decidable (updateRequest.meadowlarkId ≠ ⟨""⟩))
  | .delete _ => inferInstanceAs (Decidable True)

theorem aliasRowsOf_owned (lastWrites : LastWrites) :
    Owned MeadowlarkDocument.meadowlarkId AliasRow.meadowlarkId fun document =>
      aliasRowsOf (lastWrites document.documentUuid) document := by
  intro document row inside
  obtain ⟨aliasId, -, rfl⟩ := List.mem_map.mp inside
  rfl

theorem referenceRowsOf_owned (lastWrites : LastWrites) :
    Owned MeadowlarkDocument.meadowlarkId ReferenceRow.parentMeadowlarkId fun document =>
      referenceRowsOf (lastWrites document.documentUuid) document := by
  intro document row inside
  obtain ⟨ref, -, rfl⟩ := List.mem_map.mp inside
  rfl

end Rows

section Split
variable {tables following : Tables} {existingId meadowlarkId : MeadowlarkId}
  {documentUuid : DocumentUuid}

/-- A write puts its row in the place of the document with the old id. -/
structure WritesInPlace (tables following : Tables) (existingId : MeadowlarkId)
    (documentUuid : DocumentUuid) (meadowlarkId : MeadowlarkId) : Prop
    extends DocumentWritten tables following existingId documentUuid meadowlarkId where
  place : meadowlarkId = existingId ∨ ∃ existing ∈ tables.documents,
    existing.meadowlarkId = existingId ∧ existing.documentUuid = documentUuid

/-- The other documents have other uuids. -/
theorem WritesInPlace.apart
    (written : WritesInPlace tables following existingId documentUuid meadowlarkId)
    {document : MeadowlarkDocument} (stored : document ∈ tables.documents)
    (different : document.meadowlarkId ≠ existingId) : document.documentUuid ≠ documentUuid := by
  intro same
  obtain ⟨row, inside, rowId, rowUuid⟩ := written.written
  rcases written.place with unmoved | ⟨existing, existingStored, existingId, existingUuid⟩
  · have identical := documents_eq_of_uuid (written.kept document stored different) inside
      (same.trans rowUuid.symm)
    exact different (by rw [identical, rowId, unmoved])
  · have identical := documents_eq_of_uuid stored existingStored (same.trans existingUuid.symm)
    exact different (identical ▸ existingId)

/-- The documents after a write are the other documents and one row. -/
theorem WritesInPlace.split
    (written : WritesInPlace tables following existingId documentUuid meadowlarkId) :
    ∃ row, row.meadowlarkId = meadowlarkId ∧ row.documentUuid = documentUuid ∧
      following.documents ~ tables.documents.filter (·.meadowlarkId ≠ existingId) ++ [row] := by
  obtain ⟨row, inside, rowId, rowUuid⟩ := written.written
  refine ⟨row, rowId, rowUuid, ?_⟩
  have others : (tables.documents.filter (·.meadowlarkId ≠ existingId)).Nodup :=
    tables.uniqueIds.of_map.filter _
  have new : row ∉ tables.documents.filter (·.meadowlarkId ≠ existingId) := by
    intro old
    obtain ⟨stored, different⟩ := List.mem_filter.mp old
    exact written.apart stored (by simpa using different) rowUuid
  have whole : (tables.documents.filter (·.meadowlarkId ≠ existingId) ++ [row]).Nodup := by
    rw [List.nodup_append]
    refine ⟨others, List.nodup_singleton row, ?_⟩
    intro document old other single same
    rw [List.mem_singleton] at single
    exact new (single ▸ same ▸ old)
  rw [List.perm_ext_iff_of_nodup following.uniqueIds.of_map whole]
  intro document
  rw [List.mem_append, List.mem_filter, List.mem_singleton, decide_eq_true_iff]
  constructor
  · intro documentInside
    rcases written.origin document documentInside with old | new
    · by_cases same : document.meadowlarkId = existingId
      · right
        rcases written.place with unmoved | ⟨existing, existingStored, existingSame, existingUuid⟩
        · exact documents_eq_of_id documentInside inside (by rw [same, rowId, unmoved])
        · have identical := documents_eq_of_id old existingStored (same.trans existingSame.symm)
          exact documents_eq_of_uuid documentInside inside
            (by rw [identical, existingUuid, rowUuid])
      · exact .inl ⟨old, same⟩
    · exact .inr (documents_eq_of_uuid documentInside inside (new.trans rowUuid.symm))
  · rintro (⟨old, different⟩ | rfl)
    · exact written.kept document old different
    · exact inside

end Split

section Steps
variable [NodeRuntime] {tables following : Tables} {lastWrites after : LastWrites}

/-- A write keeps the image when its document info is recorded. -/
theorem SideTablesMatch.rewrite {existingId meadowlarkId : MeadowlarkId}
    {documentUuid : DocumentUuid} {documentInfo : DocumentInfo}
    (image : SideTablesMatch tables lastWrites)
    (written : WritesInPlace tables following existingId documentUuid meadowlarkId)
    (recorded : after = Function.update lastWrites documentUuid documentInfo) :
    SideTablesMatch (following.rewrite existingId documentUuid meadowlarkId documentInfo) after := by
  obtain ⟨row, rowId, rowUuid, split⟩ := written.split
  have own : after documentUuid = documentInfo := by
    rw [recorded, Function.update_self]
  have others : ∀ document ∈ tables.documents, document.meadowlarkId ≠ existingId →
      after document.documentUuid = lastWrites document.documentUuid := by
    intro document stored different
    rw [recorded, Function.update_of_ne (written.apart stored different)]
  constructor
  · have result : _ ~ following.documents.flatMap fun document =>
        aliasRowsOf (after document.documentUuid) document :=
      image_write image.aliases (aliasRowsOf_owned lastWrites) split
        fun document stored different => by rw [others document stored different]
    simp only [own, aliasRowsOf, rowId, rowUuid] at result
    unfold Tables.rewrite
    rw [written.aliases]
    exact result
  · have result : _ ~ following.documents.flatMap fun document =>
        referenceRowsOf (after document.documentUuid) document :=
      image_write image.references (referenceRowsOf_owned lastWrites) split
        fun document stored different => by rw [others document stored different]
    simp only [own, referenceRowsOf_eq, rowId, rowUuid] at result
    unfold Tables.rewrite
    simp only [referenceRowsOf_eq]
    rw [written.references]
    exact result

/-- The alias rows of a uuid name the id of its document. -/
theorem SideTablesMatch.deletedId (image : SideTablesMatch tables lastWrites)
    {document : MeadowlarkDocument} (stored : document ∈ tables.documents) :
    deletedId tables document.documentUuid = document.meadowlarkId := by
  have named : ∀ row ∈ aliasRows tables document.documentUuid,
      row.meadowlarkId = document.meadowlarkId := by
    intro row inside
    obtain ⟨rowStored, same⟩ := List.mem_filter.mp inside
    obtain ⟨owner, ownerStored, ownerRow⟩ := List.mem_flatMap.mp (image.aliases.mem_iff.mp rowStored)
    obtain ⟨aliasId, -, rfl⟩ := List.mem_map.mp ownerRow
    have identical : owner = document :=
      documents_eq_of_uuid ownerStored stored (by simpa using same)
    rw [identical]
  have own : (⟨document.documentUuid, document.meadowlarkId, document.meadowlarkId⟩ : AliasRow) ∈
      aliasRows tables document.documentUuid := by
    apply List.mem_filter.mpr
    refine ⟨image.aliases.mem_iff.mpr (List.mem_flatMap.mpr ⟨document, stored, ?_⟩), by simp⟩
    exact List.mem_map.mpr ⟨document.meadowlarkId, List.mem_cons_self, rfl⟩
  unfold Postgres.deletedId meadowlarkIdFrom
  cases rows : aliasRows tables document.documentUuid with
  | nil =>
      rw [rows] at own
      cases own
  | cons first rest =>
      rw [rows] at named
      exact named first List.mem_cons_self

/-- A uuid without a document has no alias row. -/
theorem SideTablesMatch.deletedId_absent (image : SideTablesMatch tables lastWrites)
    {documentUuid : DocumentUuid}
    (absent : ∀ document ∈ tables.documents, document.documentUuid ≠ documentUuid) :
    Postgres.deletedId tables documentUuid = ⟨""⟩ := by
  have none : aliasRows tables documentUuid = [] := by
    unfold aliasRows
    rw [List.filter_eq_nil_iff]
    intro row inside
    obtain ⟨owner, ownerStored, ownerRow⟩ := List.mem_flatMap.mp (image.aliases.mem_iff.mp inside)
    obtain ⟨aliasId, -, rfl⟩ := List.mem_map.mp ownerRow
    simpa using absent owner ownerStored
  unfold Postgres.deletedId
  rw [none]
  rfl

/-- A delete drops one document with all of its rows. -/
theorem SideTablesMatch.without (image : SideTablesMatch tables lastWrites)
    (named : ∀ document ∈ tables.documents, document.meadowlarkId ≠ ⟨""⟩)
    (documentUuid : DocumentUuid) :
    SideTablesMatch (tables.without documentUuid (Postgres.deletedId tables documentUuid))
      lastWrites := by
  have dropped : tables.documents.filter (·.documentUuid ≠ documentUuid) =
      tables.documents.filter (·.meadowlarkId ≠ Postgres.deletedId tables documentUuid) := by
    apply List.filter_congr
    intro document stored
    rw [decide_eq_decide, not_iff_not]
    constructor
    · rintro rfl
      exact (image.deletedId stored).symm
    · intro same
      by_contra different
      by_cases absent : ∀ other ∈ tables.documents, other.documentUuid ≠ documentUuid
      · rw [image.deletedId_absent absent] at same
        exact named document stored same
      · push Not at absent
        obtain ⟨other, otherStored, rfl⟩ := absent
        rw [image.deletedId otherStored] at same
        exact different (congrArg _ (documents_eq_of_id stored otherStored same))
  constructor
  · change tables.aliases.filter _ ~ (tables.documents.filter _).flatMap _
    rw [dropped]
    exact image_filter image.aliases (aliasRowsOf_owned lastWrites) _
  · change tables.references.filter _ ~ (tables.documents.filter _).flatMap _
    rw [dropped]
    exact image_filter image.references (referenceRowsOf_owned lastWrites) _

end Steps

section Calls
variable [NodeRuntime] [ColumnTypes] {tables : Tables} {lastWrites : LastWrites}

theorem upsertRow_inPlace {generated documentUuid : DocumentUuid} {upsertRequest : UpsertRequest}
    {following : Tables} (stored : UuidsConverted tables)
    (writes : UpsertWrites tables generated upsertRequest documentUuid following) :
    WritesInPlace tables following upsertRequest.meadowlarkId documentUuid
      upsertRequest.meadowlarkId :=
  { upsertRow_written stored writes with place := .inl rfl }

theorem updateRow_inPlace {updateRequest : UpdateRequest} {existing : MeadowlarkDocument}
    {documentUuid : DocumentUuid} {following : Tables}
    (writes : UpdateWrites tables updateRequest existing documentUuid following) :
    WritesInPlace tables following existing.meadowlarkId documentUuid
      updateRequest.meadowlarkId := by
  obtain ⟨stored, same⟩ := documentByUuid_some writes.found
  exact { updateRow_written writes with place := .inr ⟨existing, stored, rfl, same⟩ }

/-- The invariant of runs whose documents are named. -/
structure Imaged (tables : Tables) (lastWrites : LastWrites) : Prop where
  image : SideTablesMatch tables lastWrites
  converted : UuidsConverted tables
  named : ∀ document ∈ tables.documents, document.meadowlarkId ≠ ⟨""⟩

theorem imaged_empty (lastWrites : LastWrites) : Imaged Tables.empty lastWrites where
  image := ⟨List.Perm.nil, List.Perm.nil⟩
  converted := fun _ inside => absurd inside List.not_mem_nil
  named := fun _ inside => absurd inside List.not_mem_nil

theorem Imaged.rewrite {following : Tables} {existingId meadowlarkId : MeadowlarkId}
    {documentUuid : DocumentUuid} {documentInfo : DocumentInfo} (imaged : Imaged tables lastWrites)
    (converted : uuidColumn documentUuid = .ok documentUuid) (named : meadowlarkId ≠ ⟨""⟩)
    (written : WritesInPlace tables following existingId documentUuid meadowlarkId) :
    Imaged (following.rewrite existingId documentUuid meadowlarkId documentInfo)
      (Function.update lastWrites documentUuid documentInfo) := by
  obtain ⟨row, rowId, rowUuid, split⟩ := written.split
  have origin : ∀ document ∈ following.documents, document ∈ tables.documents ∨ document = row := by
    intro document inside
    rcases List.mem_append.mp (split.mem_iff.mp inside) with old | new
    · exact .inl (List.mem_filter.mp old).1
    · exact .inr (List.mem_singleton.mp new)
  refine ⟨imaged.image.rewrite written rfl,
    imaged.converted.rewrite converted written.toDocumentWritten, ?_⟩
  · intro document inside
    rcases origin document inside with old | rfl
    · exact imaged.named document old
    · rw [rowId]
      exact named

omit [NodeRuntime] in
theorem recordWrite_failed {call : RepositoryCall} {result : RepositoryResult}
    (failed : result.succeeded = false) : recordWrite lastWrites call (.ok result) = lastWrites := by
  cases result with
  | upsert result => cases result <;> first | (cases call <;> rfl) | cases failed
  | update result => cases result <;> first | (cases call <;> rfl) | cases failed
  | delete result => cases result <;> cases call <;> rfl

omit [NodeRuntime] in
theorem recordWrite_upserted {generated documentUuid : DocumentUuid}
    {upsertRequest : UpsertRequest} :
    recordWrite lastWrites (.upsert generated upsertRequest)
        (.ok (.upsert (upsertedResult tables upsertRequest.meadowlarkId documentUuid))) =
      lastWrites.record documentUuid upsertRequest.documentInfo := by
  unfold upsertedResult
  split <;> rfl

omit [NodeRuntime] in
theorem record_converted {given documentUuid : DocumentUuid} {documentInfo : DocumentInfo}
    (converted : uuidColumn given = .ok documentUuid) :
    lastWrites.record given documentInfo = Function.update lastWrites documentUuid documentInfo := by
  unfold LastWrites.record
  rw [converted]

/-- One call keeps the side tables in step with the documents. -/
theorem Imaged.call {connection : Connection} {call : RepositoryCall}
    (imaged : Imaged connection.committed lastWrites) (clean : connection.Clean)
    (named : call.Named) :
    Imaged (connection.run (repositorySession call)).2.committed
      (recordWrite lastWrites call (connection.run (repositorySession call)).1) := by
  obtain ⟨result, ⟨committed, block⟩, run, -, effect⟩ := repositorySession_effect clean call
  rw [run]
  dsimp only at effect ⊢
  cases effect with
  | upserted writes =>
      rw [recordWrite_upserted, record_converted writes.converted]
      exact imaged.rewrite (uuidColumn_converted writes.converted) named
        (upsertRow_inPlace imaged.converted writes)
  | updated writes =>
      change Imaged _ (lastWrites.record _ _)
      rw [record_converted writes.converted]
      exact imaged.rewrite (uuidColumn_converted writes.converted) named (updateRow_inPlace writes)
  | deleted accepted =>
      refine ⟨imaged.image.without imaged.named _, ?_, ?_⟩
      · exact fun document inside => imaged.converted document (List.mem_filter.mp inside).1
      · exact fun document inside => imaged.named document (List.mem_filter.mp inside).1
  | failed unsuccessful =>
      rw [recordWrite_failed unsuccessful]
      exact imaged

theorem observed_imaged
    (observed : Observed (fun _ call => call.Named) recordWrite (fun _ => NoDocumentInfo) tables
      lastWrites) : Imaged tables lastWrites := by
  induction observed with
  | empty => exact imaged_empty _
  | call observed clean named ih => exact ih.call clean named

/-- After every sequential run the side tables are the image of the documents. -/
theorem observed_sideTablesMatch
    (observed : Observed (fun _ call => call.Named) recordWrite (fun _ => NoDocumentInfo) tables
      lastWrites) : SideTablesMatch tables lastWrites := (observed_imaged observed).image

end Calls

section Examples
open Core.Sample Sample

/-- A school of the agency, under its own id and the id of its superclass. -/
private def schoolOf (schoolId : String) (referenced : List DocumentReference) (timestamp : Int) :
    UpsertRequest :=
  @upsertRequest { resource "School" with allowIdentityUpdates := true } "schoolId" schoolId
    referenced (some (superclass "EducationOrganization" "educationOrganizationId" schoolId))
    timestamp "client"

private def agencyUpsert : UpsertRequest :=
  upsertRequest (resource "LocalEducationAgency") "localEducationAgencyId" "2" []
    (some (superclass "EducationOrganization" "educationOrganizationId" "2")) 1 "client"

private def agencyReference : DocumentReference :=
  reference "LocalEducationAgency" "localEducationAgencyId" "2"

/-- The first school loses a reference and then takes a new identity, and the second one goes. -/
private def sideTableCalls : List RepositoryCall :=
  [.upsert (documentUuid "000000000001") agencyUpsert,
    .upsert (documentUuid "000000000002") (schoolOf "1"
      [agencyReference, reference "EducationOrganization" "educationOrganizationId" "2"] 2),
    .upsert (documentUuid "000000000003") (schoolOf "1" [agencyReference] 3),
    .update { schoolOf "3" [agencyReference] 4 with documentUuid := documentUuid "000000000002" },
    .upsert (documentUuid "000000000004") (schoolOf "4" [agencyReference] 5),
    .delete (deleteRequest (resource "School") (documentUuid "000000000004") "client")]

theorem observed_sideTablesMatch_school :
    ∃ tables lastWrites,
      @Observed runtime columns _ (fun _ call => call.Named) (@recordWrite columns)
        (fun _ => NoDocumentInfo) tables lastWrites ∧
      (tables.documents.length = 2 ∧ tables.aliases.length = 4 ∧ tables.references.length = 1 ∧
        ∃ document ∈ tables.documents, document.meadowlarkId = (schoolOf "3" [] 4).meadowlarkId) ∧
      @SideTablesMatch runtime tables lastWrites := by
  have observed := @Observed.performAll runtime columns _ (fun _ call => call.Named)
    (@recordWrite columns) (fun _ => NoDocumentInfo) _ ⟨Tables.empty, .idle⟩ sideTableCalls
    (@Observed.empty runtime columns _ _ _ _) (.inl rfl)
    (@permittedAll_of_forall runtime columns _ _ (by decide +kernel) _)
  exact ⟨_, _, observed, by decide +kernel, @observed_sideTablesMatch runtime columns _ _ observed⟩

end Examples
end Meadowlark.Postgres
