import Meadowlark.Proof.Postgres.SequentialIntegrity

namespace Meadowlark.Postgres
open Meadowlark.Core Systems

/-- No alias belongs to two documents. -/
def AliasesUnique (tables : Tables) : Prop :=
  ∀ row ∈ tables.aliases, ∀ other ∈ tables.aliases,
    row.aliasMeadowlarkId = other.aliasMeadowlarkId → row.documentUuid = other.documentUuid

instance (tables : Tables) : Decidable (AliasesUnique tables) :=
  inferInstanceAs (Decidable (∀ row ∈ tables.aliases, ∀ other ∈ tables.aliases, _))

section Calls
variable [NodeRuntime]

/-- A request writes a concrete document, and its superclass is abstract. -/
structure Subclass (concrete : MeadowlarkId → Prop) (meadowlarkId : MeadowlarkId)
    (documentInfo : DocumentInfo) : Prop where
  instantiable : concrete meadowlarkId
  abstract : ∀ superclassInfo ∈ documentInfo.superclassInfo,
    ¬ concrete (getMeadowlarkIdForSuperclassInfo superclassInfo)

/-- Every superclass of the call is abstract. -/
def AbstractSuperclasses (concrete : MeadowlarkId → Prop) : RepositoryCall → Prop
  | .upsert _ upsertRequest =>
      Subclass concrete upsertRequest.meadowlarkId upsertRequest.documentInfo
  | .update updateRequest =>
      Subclass concrete updateRequest.meadowlarkId updateRequest.documentInfo
  | .delete _ => True

/-- The superclass id is an alias of no other document. -/
def ClaimsUnused (tables : Tables) (documentUuid : DocumentUuid) (documentInfo : DocumentInfo) :
    Prop :=
  ∀ superclassInfo ∈ documentInfo.superclassInfo, ∀ row ∈ tables.aliases,
    row.aliasMeadowlarkId = getMeadowlarkIdForSuperclassInfo superclassInfo →
      row.documentUuid = documentUuid

variable [ColumnTypes]

/-- A call that writes over a stored document claims an unused superclass identity.
The code asks for this on inserts only. -/
def ClaimingCall (tables : Tables) : RepositoryCall → Prop
  | .upsert _ upsertRequest =>
      ∀ existing ∈ documentById tables upsertRequest.meadowlarkId,
        UpsertAccepted tables upsertRequest →
          ClaimsUnused tables existing.documentUuid upsertRequest.documentInfo
  | .update updateRequest =>
      ∀ existing documentUuid following,
        UpdateWrites tables updateRequest existing documentUuid following →
          ClaimsUnused tables documentUuid updateRequest.documentInfo
  | .delete _ => True

/-- The invariant of runs with abstract superclasses. -/
structure Distinct (concrete : MeadowlarkId → Prop) (tables : Tables) : Prop where
  unique : AliasesUnique tables
  owned : AliasesOwned tables
  converted : UuidsConverted tables
  kinds : ∀ row ∈ tables.aliases,
    row.aliasMeadowlarkId = row.meadowlarkId ∨ ¬ concrete row.aliasMeadowlarkId

variable {concrete : MeadowlarkId → Prop} {tables : Tables}

omit [NodeRuntime] in
theorem distinct_empty : Distinct concrete Tables.empty where
  unique := fun _ inside => absurd inside List.not_mem_nil
  owned := fun _ inside => absurd inside List.not_mem_nil
  converted := fun _ inside => absurd inside List.not_mem_nil
  kinds := fun _ inside => absurd inside List.not_mem_nil

omit [ColumnTypes] in
theorem mem_newAliases {meadowlarkId aliasId : MeadowlarkId} {documentInfo : DocumentInfo} :
    aliasId ∈ meadowlarkId :: superclassAliasIds documentInfo ↔ aliasId = meadowlarkId ∨
      ∃ superclassInfo ∈ documentInfo.superclassInfo,
        getMeadowlarkIdForSuperclassInfo superclassInfo = aliasId := by
  unfold superclassAliasIds
  cases documentInfo.superclassInfo with
  | none => simp
  | some superclassInfo => simp [eq_comm]

/-- A write that claims an unused superclass identity keeps the aliases distinct. -/
theorem Distinct.rewrite {following : Tables} {existingId meadowlarkId : MeadowlarkId}
    {documentUuid : DocumentUuid} {documentInfo : DocumentInfo} (distinct : Distinct concrete tables)
    (converted : uuidColumn documentUuid = .ok documentUuid)
    (subclass : Subclass concrete meadowlarkId documentInfo)
    (written : DocumentWritten tables following existingId documentUuid meadowlarkId)
    (claims : ClaimsUnused tables documentUuid documentInfo) :
    Distinct concrete (following.rewrite existingId documentUuid meadowlarkId documentInfo) := by
  -- An old row with a new alias belongs to the written document.
  have old : ∀ row ∈ tables.aliases, row.meadowlarkId ≠ existingId →
      row.aliasMeadowlarkId ∈ meadowlarkId :: superclassAliasIds documentInfo →
        row.documentUuid = documentUuid := by
    intro row stored other listed
    rcases mem_newAliases.mp listed with same | ⟨superclassInfo, present, same⟩
    · have own : row.meadowlarkId = meadowlarkId := by
        rcases distinct.kinds row stored with own | unlisted
        · rw [← own, same]
        · exact absurd (same ▸ subclass.instantiable) unlisted
      obtain ⟨document, documentStored, documentId, documentRow⟩ := distinct.owned row stored
      obtain ⟨new, inside, newId, newUuid⟩ := written.written
      have kept := written.kept document documentStored fun same => other (documentId ▸ same)
      have identical := documents_eq_of_id kept inside (by rw [documentId, own, newId])
      rw [← documentRow, identical, newUuid]
    · exact claims superclassInfo present row stored same.symm
  refine ⟨?_, distinct.owned.rewrite written, distinct.converted.rewrite converted written, ?_⟩
  · intro row rowInside other otherInside same
    rcases mem_rewrite_aliases.mp rowInside with ⟨rowStored, rowOther⟩ | ⟨rowAlias, listed, rfl⟩
    · rw [written.aliases] at rowStored
      rcases mem_rewrite_aliases.mp otherInside with
        ⟨otherStored, -⟩ | ⟨otherAlias, listed, rfl⟩
      · rw [written.aliases] at otherStored
        exact distinct.unique row rowStored other otherStored same
      · exact old row rowStored rowOther (same ▸ listed)
    · rcases mem_rewrite_aliases.mp otherInside with
        ⟨otherStored, otherOther⟩ | ⟨otherAlias, -, rfl⟩
      · rw [written.aliases] at otherStored
        exact (old other otherStored otherOther (same ▸ listed)).symm
      · rfl
  · intro row inside
    rcases mem_rewrite_aliases.mp inside with ⟨stored, -⟩ | ⟨aliasId, listed, rfl⟩
    · rw [written.aliases] at stored
      exact distinct.kinds row stored
    · rcases mem_newAliases.mp listed with same | ⟨superclassInfo, present, rfl⟩
      · exact .inl same
      · exact .inr (subclass.abstract superclassInfo present)

/-- The superclass check covers every insert. -/
theorem UpsertWrites.claims {generated documentUuid : DocumentUuid}
    {upsertRequest : UpsertRequest} {following : Tables} (stored : UuidsConverted tables)
    (writes : UpsertWrites tables generated upsertRequest documentUuid following)
    (claiming : ClaimingCall tables (.upsert generated upsertRequest)) :
    ClaimsUnused tables documentUuid upsertRequest.documentInfo := by
  cases found : documentById tables upsertRequest.meadowlarkId with
  | none =>
      intro superclassInfo present row inside same
      exact absurd same (writes.accepted.unclaimed found superclassInfo present row inside)
  | some existing =>
      have converted := writes.converted
      unfold upsertedUuid at converted
      rw [found] at converted
      have same : existing.documentUuid = documentUuid :=
        Except.ok.inj ((stored existing (documentById_some found).1).symm.trans converted)
      exact same ▸ claiming existing found writes.accepted

/-- One call keeps the aliases distinct. -/
theorem Distinct.call {connection : Connection} {call : RepositoryCall}
    (distinct : Distinct concrete connection.committed) (clean : connection.Clean)
    (abstract : AbstractSuperclasses concrete call)
    (claiming : ClaimingCall connection.committed call) :
    Distinct concrete (connection.run (repositorySession call)).2.committed := by
  obtain ⟨result, ⟨committed, block⟩, run, -, effect⟩ := repositorySession_effect clean call
  rw [run]
  dsimp only at effect ⊢
  cases effect with
  | upserted writes =>
      exact distinct.rewrite (uuidColumn_converted writes.converted) abstract
        (upsertRow_written distinct.converted writes) (writes.claims distinct.converted claiming)
  | updated writes =>
      exact distinct.rewrite (uuidColumn_converted writes.converted) abstract
        (updateRow_written writes) (claiming _ _ _ writes)
  | deleted accepted =>
      refine ⟨?_, distinct.owned.without _, ?_, ?_⟩
      · intro row inside other otherInside
        exact distinct.unique row (List.mem_filter.mp inside).1 other
          (List.mem_filter.mp otherInside).1
      · exact fun document inside => distinct.converted document (List.mem_filter.mp inside).1
      · exact fun row inside => distinct.kinds row (List.mem_filter.mp inside).1
  | failed => exact distinct

/-- In every sequential run whose overwriting calls claim unused superclass identities no alias
belongs to two documents. -/
theorem reached_aliasesUnique (concrete : MeadowlarkId → Prop)
    (reached : Reached (fun tables call => AbstractSuperclasses concrete call ∧
      ClaimingCall tables call) tables) : AliasesUnique tables := by
  have distinct : Distinct concrete tables := by
    induction reached with
    | empty => exact distinct_empty
    | call reached clean permitted ih => exact ih.call clean permitted.1 permitted.2
  exact distinct.unique

end Calls

section Examples
open Core.Sample Sample

private def freshConnection : Connection := ⟨Tables.empty, .idle⟩

/-- An education organization of one kind is stored with the id of its superclass. -/
private def organizationUpsert (resourceName value : String) (timestamp : Int) : UpsertRequest :=
  @upsertRequest { resource resourceName with allowIdentityUpdates := true } "id" value []
    (some (superclass "EducationOrganization" "educationOrganizationId" value)) timestamp "client"

private def organizations : List RepositoryCall :=
  [.upsert (documentUuid "000000000001") (organizationUpsert "School" "1" 1),
    .upsert (documentUuid "000000000002") (organizationUpsert "LocalEducationAgency" "2" 2)]

/-- The school takes a new identity. -/
private def renameSchool (value : String) : RepositoryCall :=
  .update { organizationUpsert "School" value 3 with documentUuid := documentUuid "000000000001" }

private def organizationIds : List MeadowlarkId :=
  [(organizationUpsert "School" "1" 1).meadowlarkId,
    (organizationUpsert "School" "2" 1).meadowlarkId,
    (organizationUpsert "School" "3" 1).meadowlarkId,
    (organizationUpsert "LocalEducationAgency" "2" 2).meadowlarkId]

private theorem organization_abstract {resourceName value : String} {timestamp : Int}
    (listed : (organizationUpsert resourceName value timestamp).meadowlarkId ∈ organizationIds)
    (unlisted : @getMeadowlarkIdForSuperclassInfo runtime
      (superclass "EducationOrganization" "educationOrganizationId" value) ∉ organizationIds) :
    @Subclass runtime (· ∈ organizationIds)
      (organizationUpsert resourceName value timestamp).meadowlarkId
      (organizationUpsert resourceName value timestamp).documentInfo := by
  apply @Subclass.mk runtime _ _ _ listed
  rintro superclassInfo ⟨⟩
  exact unlisted

theorem renamed_school_shared_alias :
    ∃ concrete tables, @Reached runtime columns
        (fun _ call => @AbstractSuperclasses runtime concrete call) tables ∧
      ¬ AliasesUnique tables := by
  have permitted : @PermittedAll runtime columns (fun _ call =>
      @AbstractSuperclasses runtime (· ∈ organizationIds) call) freshConnection
      (organizations ++ [renameSchool "2"]) :=
    ⟨organization_abstract (by decide +kernel) (by decide +kernel),
      organization_abstract (by decide +kernel) (by decide +kernel),
      organization_abstract (by decide +kernel) (by decide +kernel), trivial⟩
  have shared : ¬ AliasesUnique (@performAll runtime columns freshConnection
      (organizations ++ [renameSchool "2"])).committed := by decide +kernel
  have reached := @Reached.performAll runtime columns _ freshConnection _
    (@Reached.empty runtime columns _) (.inl rfl) permitted
  exact ⟨_, _, reached, shared⟩

/-- The school takes an organization id that nobody has. -/
theorem reached_aliasesUnique_organizations :
    ∃ concrete tables, @Reached runtime columns (fun tables call =>
        @AbstractSuperclasses runtime concrete call ∧ @ClaimingCall runtime columns tables call)
        tables ∧
      (tables.aliases.length = 4 ∧ ∃ row ∈ tables.aliases, row.aliasMeadowlarkId =
        @getMeadowlarkIdForSuperclassInfo runtime
          (superclass "EducationOrganization" "educationOrganizationId" "3")) ∧
      AliasesUnique tables := by
  have unclaimed : ∀ (connection : Connection) (generated : DocumentUuid)
      (upsertRequest : UpsertRequest),
      documentById connection.committed upsertRequest.meadowlarkId = none →
        @ClaimingCall runtime columns connection.committed (.upsert generated upsertRequest) := by
    intro connection generated upsertRequest absent existing found
    rw [absent] at found
    cases found
  have unused : ∀ (connection : Connection) (updateRequest : UpdateRequest),
      (∀ superclassInfo ∈ updateRequest.documentInfo.superclassInfo,
        ∀ row ∈ connection.committed.aliases,
          row.aliasMeadowlarkId ≠ @getMeadowlarkIdForSuperclassInfo runtime superclassInfo) →
        @ClaimingCall runtime columns connection.committed (.update updateRequest) := by
    intro connection updateRequest free existing documentUuid following _ superclassInfo present row
      inside same
    exact absurd same (free superclassInfo present row inside)
  have permitted : @PermittedAll runtime columns (fun tables call =>
      @AbstractSuperclasses runtime (· ∈ organizationIds) call ∧
        @ClaimingCall runtime columns tables call) freshConnection
      (organizations ++ [renameSchool "3"]) :=
    ⟨⟨organization_abstract (by decide +kernel) (by decide +kernel),
        unclaimed freshConnection _ _ (by decide +kernel)⟩,
      ⟨organization_abstract (by decide +kernel) (by decide +kernel),
        unclaimed _ _ _ (by decide +kernel)⟩,
      ⟨organization_abstract (by decide +kernel) (by decide +kernel),
        unused _ _ (by decide +kernel)⟩, trivial⟩
  have reached := @Reached.performAll runtime columns _ freshConnection _
    (@Reached.empty runtime columns _) (.inl rfl) permitted
  exact ⟨_, _, reached, by decide +kernel, @reached_aliasesUnique runtime columns _ _ reached⟩

example : AliasesUnique Tables.empty := by decide +kernel

end Examples
end Meadowlark.Postgres
