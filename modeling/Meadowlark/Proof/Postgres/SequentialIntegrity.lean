import Meadowlark.Construction.Postgres.Backend
import Meadowlark.Proof.Postgres.Effects

namespace Meadowlark.Postgres
open Meadowlark.Core Systems

/-- Every referenced id is an alias of some row. -/
def ReferencesHeld (tables : Tables) : Prop :=
  ∀ reference ∈ tables.references, ∃ row ∈ tables.aliases,
    row.aliasMeadowlarkId = reference.referencedMeadowlarkId

instance (tables : Tables) : Decidable (ReferencesHeld tables) :=
  inferInstanceAs (Decidable (∀ reference ∈ tables.references, ∃ row ∈ tables.aliases, _))

/-- Every alias row belongs to the document with its id and its uuid. -/
def AliasesOwned (tables : Tables) : Prop :=
  ∀ row ∈ tables.aliases, ∃ document ∈ tables.documents,
    document.meadowlarkId = row.meadowlarkId ∧ document.documentUuid = row.documentUuid

section Rows
variable [ColumnTypes] {tables following : Tables}

/-- A stored uuid is already in the form of its column. -/
def UuidsConverted (tables : Tables) : Prop :=
  ∀ document ∈ tables.documents, uuidColumn document.documentUuid = .ok document.documentUuid

omit [ColumnTypes] in
theorem documents_eq_of_id {first second : MeadowlarkDocument}
    (firstStored : first ∈ tables.documents) (secondStored : second ∈ tables.documents)
    (same : first.meadowlarkId = second.meadowlarkId) : first = second :=
  List.inj_on_of_nodup_map tables.uniqueIds firstStored secondStored same

omit [ColumnTypes] in
theorem documents_eq_of_uuid {first second : MeadowlarkDocument}
    (firstStored : first ∈ tables.documents) (secondStored : second ∈ tables.documents)
    (same : first.documentUuid = second.documentUuid) : first = second :=
  List.inj_on_of_nodup_map tables.uniqueUuids firstStored secondStored same

theorem uuidColumn_converted {given documentUuid : DocumentUuid}
    (converted : uuidColumn given = .ok documentUuid) :
    uuidColumn documentUuid = .ok documentUuid := by
  unfold uuidColumn at converted
  split at converted
  · rename_i output found
    cases converted
    unfold uuidColumn
    rw [ColumnTypes.uuidInput_output found]
  · cases converted

omit [ColumnTypes] in
/-- The results of a mapped list come from its elements. -/
theorem mapM_ok {A B : Type} {f : A → Except SqlError B} {inputs : List A} {outputs : List B}
    (done : inputs.mapM f = .ok outputs) :
    (∀ input ∈ inputs, ∃ output ∈ outputs, f input = .ok output) ∧
      ∀ output ∈ outputs, ∃ input ∈ inputs, f input = .ok output := by
  induction inputs generalizing outputs with
  | nil =>
      cases done
      simp
  | cons first rest ih =>
      rw [List.mapM_cons] at done
      cases firstDone : f first with
      | error error =>
          rw [firstDone] at done
          cases done
      | ok output =>
          cases restDone : rest.mapM f with
          | error error =>
              rw [firstDone, restDone] at done
              cases done
          | ok others =>
              rw [firstDone, restDone] at done
              cases done
              obtain ⟨forward, backward⟩ := ih restDone
              constructor
              · intro input inside
                rcases List.mem_cons.mp inside with rfl | inside
                · exact ⟨output, List.mem_cons_self, firstDone⟩
                · obtain ⟨found, foundInside, same⟩ := forward input inside
                  exact ⟨found, List.mem_cons_of_mem _ foundInside, same⟩
              · intro found inside
                rcases List.mem_cons.mp inside with rfl | inside
                · exact ⟨first, List.mem_cons_self, firstDone⟩
                · obtain ⟨input, inputInside, same⟩ := backward found inside
                  exact ⟨input, List.mem_cons_of_mem _ inputInside, same⟩

omit [ColumnTypes] in
theorem withDocuments_ok {documents : List MeadowlarkDocument}
    (done : tables.withDocuments documents = .ok following) :
    following.documents = documents ∧ following.aliases = tables.aliases ∧
      following.references = tables.references := by
  unfold Tables.withDocuments at done
  split at done
  · cases done
    exact ⟨rfl, rfl, rfl⟩
  · cases done

/-- The columns of a written row that the side tables refer to. -/
theorem documentRow_ok {updateRequest : UpdateRequest} {documentUuid : DocumentUuid}
    {createdAt : Int} {row : MeadowlarkDocument}
    (done : documentRow updateRequest documentUuid createdAt = .ok row) :
    row.meadowlarkId = updateRequest.meadowlarkId ∧ row.documentUuid = documentUuid ∧
      row.createdBy = updateRequest.security.clientId := by
  unfold documentRow at done
  split at done
  · cases done
  · split at done
    · cases done
    · cases done
      exact ⟨rfl, rfl, rfl⟩

/-- A written row carries the resource and the timestamp of its request. -/
theorem documentRow_requested {updateRequest : UpdateRequest} {documentUuid : DocumentUuid}
    {createdAt : Int} {row : MeadowlarkDocument}
    (done : documentRow updateRequest documentUuid createdAt = .ok row) :
    row.projectName = updateRequest.resourceInfo.projectName ∧
      row.resourceName = updateRequest.resourceInfo.resourceName ∧
      row.lastModifiedAt = updateRequest.documentInfo.requestTimestamp := by
  unfold documentRow at done
  split at done
  · cases done
  · split at done
    · cases done
    · cases done
      exact ⟨rfl, rfl, rfl⟩

/-- An update keeps the rows of the other uuids and rewrites the row of its own. -/
theorem updateDocument_ok {updateRequest : UpdateRequest} {documentUuid : DocumentUuid}
    (done : tables.updateDocument updateRequest documentUuid = .ok following) :
    (∀ document ∈ tables.documents, document.documentUuid ≠ documentUuid →
        document ∈ following.documents) ∧
      (∀ document ∈ tables.documents, document.documentUuid = documentUuid →
        ∃ row ∈ following.documents,
          documentRow updateRequest documentUuid document.createdAt = .ok row) ∧
      (∀ row ∈ following.documents, (row ∈ tables.documents ∧ row.documentUuid ≠ documentUuid) ∨
        ∃ document ∈ tables.documents, document.documentUuid = documentUuid ∧
          documentRow updateRequest documentUuid document.createdAt = .ok row) ∧
      following.aliases = tables.aliases ∧ following.references = tables.references := by
  unfold Tables.updateDocument at done
  cases mapped : tables.documents.mapM (updateRow updateRequest documentUuid) with
  | error error =>
      rw [mapped] at done
      cases done
  | ok documents =>
      rw [mapped] at done
      obtain ⟨same, aliases, references⟩ := withDocuments_ok done
      obtain ⟨forward, backward⟩ := mapM_ok mapped
      rw [same]
      refine ⟨?_, ?_, ?_, aliases, references⟩
      · intro document stored different
        obtain ⟨row, inside, rowDone⟩ := forward document stored
        unfold updateRow at rowDone
        rw [if_neg different] at rowDone
        exact Except.ok.inj rowDone ▸ inside
      · intro document stored equal
        obtain ⟨row, inside, rowDone⟩ := forward document stored
        unfold updateRow at rowDone
        rw [if_pos equal] at rowDone
        exact ⟨row, inside, rowDone⟩
      · intro row inside
        obtain ⟨document, stored, rowDone⟩ := backward row inside
        unfold updateRow at rowDone
        split at rowDone
        · rename_i equal
          exact .inr ⟨document, stored, equal, rowDone⟩
        · rename_i different
          cases rowDone
          exact .inl ⟨stored, different⟩

theorem insertDocument_ok {updateRequest : UpdateRequest} {documentUuid : DocumentUuid}
    (done : tables.insertDocument updateRequest documentUuid = .ok following) :
    ∃ row, documentRow updateRequest documentUuid updateRequest.documentInfo.requestTimestamp =
        .ok row ∧ following.documents = tables.documents ++ [row] ∧
      following.aliases = tables.aliases ∧ following.references = tables.references := by
  unfold Tables.insertDocument at done
  cases created : documentRow updateRequest documentUuid
      updateRequest.documentInfo.requestTimestamp with
  | error error =>
      rw [created] at done
      cases done
  | ok row =>
      rw [created] at done
      exact ⟨row, rfl, withDocuments_ok done⟩

/-- One document has been written under a new id, and the other rows are as before. -/
structure DocumentWritten (tables following : Tables) (existingId : MeadowlarkId)
    (documentUuid : DocumentUuid) (meadowlarkId : MeadowlarkId) : Prop where
  kept : ∀ document ∈ tables.documents, document.meadowlarkId ≠ existingId →
    document ∈ following.documents
  written : ∃ row ∈ following.documents,
    row.meadowlarkId = meadowlarkId ∧ row.documentUuid = documentUuid
  origin : ∀ row ∈ following.documents, row ∈ tables.documents ∨ row.documentUuid = documentUuid
  aliases : following.aliases = tables.aliases
  references : following.references = tables.references

theorem insertDocument_written {updateRequest : UpdateRequest} {documentUuid : DocumentUuid}
    (done : tables.insertDocument updateRequest documentUuid = .ok following) :
    DocumentWritten tables following updateRequest.meadowlarkId documentUuid
      updateRequest.meadowlarkId := by
  obtain ⟨row, created, documents, aliases, references⟩ := insertDocument_ok done
  obtain ⟨sameId, sameUuid, -⟩ := documentRow_ok created
  refine ⟨?_, ?_, ?_, aliases, references⟩
  · intro document stored _
    rw [documents]
    exact List.mem_append_left _ stored
  · refine ⟨row, ?_, sameId, sameUuid⟩
    rw [documents]
    simp
  · intro other inside
    rw [documents, List.mem_append, List.mem_singleton] at inside
    rcases inside with old | rfl
    · exact .inl old
    · exact .inr sameUuid

theorem updateDocument_written {updateRequest : UpdateRequest} {documentUuid : DocumentUuid}
    {existing : MeadowlarkDocument} (stored : existing ∈ tables.documents)
    (same : existing.documentUuid = documentUuid)
    (done : tables.updateDocument updateRequest documentUuid = .ok following) :
    DocumentWritten tables following existing.meadowlarkId documentUuid
      updateRequest.meadowlarkId := by
  obtain ⟨kept, rewritten, origin, aliases, references⟩ := updateDocument_ok done
  refine ⟨?_, ?_, ?_, aliases, references⟩
  · intro document documentStored different
    apply kept document documentStored
    intro equal
    have identical := documents_eq_of_uuid documentStored stored (equal.trans same.symm)
    exact different (congrArg _ identical)
  · obtain ⟨row, inside, created⟩ := rewritten existing stored same
    obtain ⟨sameId, sameUuid, -⟩ := documentRow_ok created
    exact ⟨row, inside, sameId, sameUuid⟩
  · intro row inside
    rcases origin row inside with ⟨old, -⟩ | ⟨document, -, -, created⟩
    · exact .inl old
    · exact .inr (documentRow_ok created).2.1

end Rows

section Writes
variable [NodeRuntime] {tables following : Tables}

/-- A write of one document keeps every referenced alias.
A new reference is held by the document itself or by a row of the tables, and an alias that the
write drops is referenced by nobody or held by another document. -/
structure KeepsAliases (tables : Tables) (existingId meadowlarkId : MeadowlarkId)
    (documentInfo : DocumentInfo) : Prop where
  unmasked : ∀ ref ∈ outboundRefsFrom documentInfo,
    ref ∈ meadowlarkId :: superclassAliasIds documentInfo ∨
      ∃ row ∈ tables.aliases, row.aliasMeadowlarkId = ref
  undropped : ∀ row ∈ tables.aliases, row.meadowlarkId = existingId →
    row.aliasMeadowlarkId ∉ meadowlarkId :: superclassAliasIds documentInfo →
      (∃ other ∈ tables.aliases, other.meadowlarkId ≠ existingId ∧
          other.aliasMeadowlarkId = row.aliasMeadowlarkId) ∨
        row.aliasMeadowlarkId ∉ outboundRefsFrom documentInfo ∧
          ∀ reference ∈ tables.references, reference.parentMeadowlarkId ≠ existingId →
            reference.referencedMeadowlarkId ≠ row.aliasMeadowlarkId

instance (tables : Tables) (existingId meadowlarkId : MeadowlarkId)
    (documentInfo : DocumentInfo) :
    Decidable (KeepsAliases tables existingId meadowlarkId documentInfo) :=
  decidable_of_iff (_ ∧ _) ⟨fun both => ⟨both.1, both.2⟩, fun keeps => ⟨keeps.1, keeps.2⟩⟩

theorem mem_rewrite_aliases {existingId meadowlarkId : MeadowlarkId}
    {documentUuid : DocumentUuid} {documentInfo : DocumentInfo} {row : AliasRow} :
    row ∈ (tables.rewrite existingId documentUuid meadowlarkId documentInfo).aliases ↔
      (row ∈ tables.aliases ∧ row.meadowlarkId ≠ existingId) ∨
        ∃ aliasId ∈ meadowlarkId :: superclassAliasIds documentInfo,
          (⟨documentUuid, meadowlarkId, aliasId⟩ : AliasRow) = row := by
  unfold Tables.rewrite
  rw [List.mem_append, List.mem_filter, List.mem_map, decide_eq_true_iff]

theorem mem_rewrite_references {existingId meadowlarkId : MeadowlarkId}
    {documentUuid : DocumentUuid} {documentInfo : DocumentInfo} {reference : ReferenceRow} :
    reference ∈ (tables.rewrite existingId documentUuid meadowlarkId documentInfo).references ↔
      (reference ∈ tables.references ∧ reference.parentMeadowlarkId ≠ existingId) ∨
        ∃ ref ∈ outboundRefsFrom documentInfo,
          (⟨meadowlarkId, ref⟩ : ReferenceRow) = reference := by
  simp [Tables.rewrite]

/-- After the write an id is held exactly when the new aliases or the other rows hold it. -/
theorem rewrite_holds {existingId meadowlarkId id : MeadowlarkId} {documentUuid : DocumentUuid}
    {documentInfo : DocumentInfo} :
    (∃ row ∈ (tables.rewrite existingId documentUuid meadowlarkId documentInfo).aliases,
        row.aliasMeadowlarkId = id) ↔
      id ∈ meadowlarkId :: superclassAliasIds documentInfo ∨
        ∃ row ∈ tables.aliases, row.meadowlarkId ≠ existingId ∧ row.aliasMeadowlarkId = id := by
  constructor
  · rintro ⟨row, inside, rfl⟩
    rcases mem_rewrite_aliases.mp inside with ⟨stored, other⟩ | ⟨aliasId, listed, rfl⟩
    · exact .inr ⟨row, stored, other, rfl⟩
    · exact .inl listed
  · rintro (listed | ⟨row, stored, other, same⟩)
    · exact ⟨_, mem_rewrite_aliases.mpr (.inr ⟨id, listed, rfl⟩), rfl⟩
    · exact ⟨row, mem_rewrite_aliases.mpr (.inl ⟨stored, other⟩), same⟩

/-- A write keeps referential integrity exactly when it keeps every referenced alias. -/
theorem rewrite_referencesHeld_iff {existingId meadowlarkId : MeadowlarkId}
    {documentUuid : DocumentUuid} {documentInfo : DocumentInfo}
    (held : ReferencesHeld tables) :
    ReferencesHeld (tables.rewrite existingId documentUuid meadowlarkId documentInfo) ↔
      KeepsAliases tables existingId meadowlarkId documentInfo := by
  constructor
  · intro after
    constructor
    · intro ref listed
      have referenced := after ⟨meadowlarkId, ref⟩
        (mem_rewrite_references.mpr (.inr ⟨ref, listed, rfl⟩))
      rcases rewrite_holds.mp referenced with own | ⟨row, stored, -, same⟩
      · exact .inl own
      · exact .inr ⟨row, stored, same⟩
    · intro row stored owned dropped
      by_cases provided : ∃ other ∈ tables.aliases, other.meadowlarkId ≠ existingId ∧
          other.aliasMeadowlarkId = row.aliasMeadowlarkId
      · exact .inl provided
      · right
        have lost : ¬ ∃ other ∈ (tables.rewrite existingId documentUuid meadowlarkId
            documentInfo).aliases, other.aliasMeadowlarkId = row.aliasMeadowlarkId := by
          rw [rewrite_holds]
          exact fun holds => holds.elim dropped provided
        constructor
        · intro listed
          exact lost (after ⟨meadowlarkId, row.aliasMeadowlarkId⟩
            (mem_rewrite_references.mpr (.inr ⟨_, listed, rfl⟩)))
        · intro reference referenceStored other same
          have found := after reference (mem_rewrite_references.mpr (.inl ⟨referenceStored, other⟩))
          rw [same] at found
          exact lost found
  · intro keeps reference inside
    rw [rewrite_holds]
    have survives : ∀ row ∈ tables.aliases,
        (row.meadowlarkId = existingId →
          row.aliasMeadowlarkId ∉ meadowlarkId :: superclassAliasIds documentInfo →
            ∃ other ∈ tables.aliases, other.meadowlarkId ≠ existingId ∧
              other.aliasMeadowlarkId = row.aliasMeadowlarkId) →
        row.aliasMeadowlarkId ∈ meadowlarkId :: superclassAliasIds documentInfo ∨
          ∃ other ∈ tables.aliases, other.meadowlarkId ≠ existingId ∧
            other.aliasMeadowlarkId = row.aliasMeadowlarkId := by
      intro row stored provided
      by_cases own : row.meadowlarkId = existingId
      · by_cases listed : row.aliasMeadowlarkId ∈ meadowlarkId :: superclassAliasIds documentInfo
        · exact .inl listed
        · exact .inr (provided own listed)
      · exact .inr ⟨row, stored, own, rfl⟩
    rcases mem_rewrite_references.mp inside with ⟨stored, other⟩ | ⟨ref, listed, rfl⟩
    · obtain ⟨row, rowStored, same⟩ := held reference stored
      rw [← same]
      apply survives row rowStored
      intro owned dropped
      rcases keeps.undropped row rowStored owned dropped with provided | ⟨-, unreferenced⟩
      · exact provided
      · exact absurd same.symm (unreferenced reference stored other)
    · rcases keeps.unmasked ref listed with own | ⟨row, rowStored, rfl⟩
      · exact .inl own
      · apply survives row rowStored
        intro owned dropped
        rcases keeps.undropped row rowStored owned dropped with provided | ⟨unlisted, -⟩
        · exact provided
        · exact absurd listed unlisted

/-- The invariant of sequential runs. -/
structure Sound [ColumnTypes] (tables : Tables) : Prop where
  held : ReferencesHeld tables
  owned : AliasesOwned tables
  converted : UuidsConverted tables

omit [NodeRuntime] in
/-- A validated or unvalidated delete removes only alias rows of its own document. -/
theorem AliasesOwned.without (owned : AliasesOwned tables) (documentUuid : DocumentUuid) :
    AliasesOwned (tables.without documentUuid (deletedId tables documentUuid)) := by
  intro row inside
  obtain ⟨stored, foreign⟩ := List.mem_filter.mp inside
  rw [decide_eq_true_iff] at foreign
  obtain ⟨owner, ownerStored, ownerId, ownerUuid⟩ := owned row stored
  refine ⟨owner, List.mem_filter.mpr ⟨ownerStored, ?_⟩, ownerId, ownerUuid⟩
  rw [decide_eq_true_iff]
  intro removed
  have listed : row ∈ aliasRows tables documentUuid :=
    List.mem_filter.mpr ⟨stored, by simpa [← ownerUuid] using removed⟩
  apply foreign
  unfold deletedId meadowlarkIdFrom
  cases rows : aliasRows tables documentUuid with
  | nil =>
      rw [rows] at listed
      cases listed
  | cons first rest =>
      have firstListed : first ∈ aliasRows tables documentUuid := by
        rw [rows]
        exact List.mem_cons_self
      obtain ⟨firstStored, firstUuid⟩ := List.mem_filter.mp firstListed
      obtain ⟨holder, holderStored, holderId, holderUuid⟩ := owned first firstStored
      have identical : owner = holder := by
        apply documents_eq_of_uuid ownerStored holderStored
        rw [removed, holderUuid, of_decide_eq_true firstUuid]
      rw [← ownerId, identical, holderId]

theorem AliasesOwned.rewrite {existingId meadowlarkId : MeadowlarkId}
    {documentUuid : DocumentUuid} {documentInfo : DocumentInfo} (owned : AliasesOwned tables)
    (written : DocumentWritten tables following existingId documentUuid meadowlarkId) :
    AliasesOwned (following.rewrite existingId documentUuid meadowlarkId documentInfo) := by
  intro row inside
  rcases mem_rewrite_aliases.mp inside with ⟨stored, other⟩ | ⟨aliasId, -, rfl⟩
  · rw [written.aliases] at stored
    obtain ⟨document, documentStored, sameId, sameUuid⟩ := owned row stored
    exact ⟨document, written.kept document documentStored fun same => other (sameId ▸ same),
      sameId, sameUuid⟩
  · exact written.written

theorem UuidsConverted.rewrite [ColumnTypes] {existingId meadowlarkId : MeadowlarkId}
    {documentUuid : DocumentUuid} {documentInfo : DocumentInfo} (stored : UuidsConverted tables)
    (converted : uuidColumn documentUuid = .ok documentUuid)
    (written : DocumentWritten tables following existingId documentUuid meadowlarkId) :
    UuidsConverted (following.rewrite existingId documentUuid meadowlarkId documentInfo) := by
  intro document inside
  rcases written.origin document inside with old | new
  · exact stored document old
  · rw [new]
    exact converted

theorem Sound.rewrite [ColumnTypes] {existingId meadowlarkId : MeadowlarkId}
    {documentUuid : DocumentUuid} {documentInfo : DocumentInfo} (sound : Sound tables)
    (converted : uuidColumn documentUuid = .ok documentUuid)
    (written : DocumentWritten tables following existingId documentUuid meadowlarkId)
    (keeps : KeepsAliases tables existingId meadowlarkId documentInfo) :
    Sound (following.rewrite existingId documentUuid meadowlarkId documentInfo) := by
  have held : ReferencesHeld following := by
    intro reference inside
    rw [written.references] at inside
    rw [written.aliases]
    exact sound.held reference inside
  have keepsFollowing : KeepsAliases following existingId meadowlarkId documentInfo := by
    obtain ⟨unmasked, undropped⟩ := keeps
    constructor
    · rw [written.aliases]
      exact unmasked
    · rw [written.aliases, written.references]
      exact undropped
  exact
    { held := (rewrite_referencesHeld_iff held).mpr keepsFollowing
      owned := sound.owned.rewrite written
      converted := sound.converted.rewrite converted written }

end Writes

section Calls
variable [NodeRuntime] [ColumnTypes] {tables : Tables}

theorem upsertRow_written {generated documentUuid : DocumentUuid} {upsertRequest : UpsertRequest}
    {following : Tables} (stored : UuidsConverted tables)
    (writes : UpsertWrites tables generated upsertRequest documentUuid following) :
    DocumentWritten tables following upsertRequest.meadowlarkId documentUuid
      upsertRequest.meadowlarkId := by
  have written := writes.written
  have converted := writes.converted
  unfold upsertRow at written
  unfold upsertedUuid at converted
  cases found : documentById tables upsertRequest.meadowlarkId with
  | none =>
      rw [found] at written
      exact insertDocument_written written
  | some existing =>
      rw [found] at written converted
      obtain ⟨existingStored, sameId⟩ := documentById_some found
      have same : existing.documentUuid = documentUuid :=
        Except.ok.inj ((stored existing existingStored).symm.trans converted)
      have result := updateDocument_written existingStored same written
      rw [sameId] at result
      exact result

theorem updateRow_written {updateRequest : UpdateRequest} {existing : MeadowlarkDocument}
    {documentUuid : DocumentUuid} {following : Tables}
    (writes : UpdateWrites tables updateRequest existing documentUuid following) :
    DocumentWritten tables following existing.meadowlarkId documentUuid
      updateRequest.meadowlarkId := by
  obtain ⟨stored, same⟩ := documentByUuid_some writes.found
  exact updateDocument_written stored same writes.written

omit [NodeRuntime] in
/-- A validated delete keeps the invariant. -/
theorem Sound.without (sound : Sound tables) {deleteRequest : DeleteRequest}
    {documentUuid : DocumentUuid}
    (accepted : DeleteAccepted tables deleteRequest documentUuid)
    (validates : deleteRequest.validateNoReferencesToDocument = true) :
    Sound (tables.without documentUuid (deletedId tables documentUuid)) := by
  obtain ⟨row, rowStored, rowUuid, rowId⟩ := deletedId_row (accepted.present validates)
  obtain ⟨document, documentStored, documentId, documentUuidSame⟩ := sound.owned row rowStored
  -- The alias rows that the delete removes are the ones that its check has read.
  have checked : ∀ other ∈ tables.aliases,
      other.meadowlarkId = deletedId tables documentUuid → other.documentUuid = documentUuid := by
    intro other otherStored sameId
    obtain ⟨owner, ownerStored, ownerId, ownerUuid⟩ := sound.owned other otherStored
    have identical : owner = document := by
      apply documents_eq_of_id ownerStored documentStored
      rw [ownerId, sameId, ← rowId, documentId]
    rw [← ownerUuid, identical, documentUuidSame, rowUuid]
  refine ⟨?_, ?_, ?_⟩
  · intro reference inside
    obtain ⟨stored, foreign⟩ := List.mem_filter.mp inside
    rw [decide_eq_true_iff] at foreign
    obtain ⟨holder, holderStored, same⟩ := sound.held reference stored
    refine ⟨holder, List.mem_filter.mpr ⟨holderStored, ?_⟩, same⟩
    rw [decide_eq_true_iff]
    intro removed
    have read : holder ∈ aliasRows tables documentUuid :=
      List.mem_filter.mpr ⟨holderStored, by simpa using checked holder holderStored removed⟩
    exact foreign (accepted.unreferenced validates reference stored holder read same)
  · exact sound.owned.without documentUuid
  · intro other inside
    exact sound.converted other (List.mem_filter.mp inside).1

/-- Every call keeps the stored uuids in the form of their column. -/
theorem UuidsConverted.call {connection : Connection}
    (converted : UuidsConverted connection.committed) (clean : connection.Clean)
    (call : RepositoryCall) :
    UuidsConverted (connection.run (repositorySession call)).2.committed := by
  obtain ⟨result, ⟨committed, block⟩, run, -, effect⟩ := repositorySession_effect clean call
  rw [run]
  dsimp only at effect ⊢
  cases effect with
  | upserted writes =>
      exact converted.rewrite (uuidColumn_converted writes.converted)
        (upsertRow_written converted writes)
  | updated writes =>
      exact converted.rewrite (uuidColumn_converted writes.converted) (updateRow_written writes)
  | deleted accepted =>
      exact fun document inside => converted document (List.mem_filter.mp inside).1
  | failed => exact converted

/-- The writes of one call keep every referenced alias. -/
def KeepsReferences (tables : Tables) : RepositoryCall → Prop
  | .upsert generated upsertRequest =>
      ∀ documentUuid following, UpsertWrites tables generated upsertRequest documentUuid following →
        KeepsAliases tables upsertRequest.meadowlarkId upsertRequest.meadowlarkId
          upsertRequest.documentInfo
  | .update updateRequest =>
      ∀ existing documentUuid following,
        UpdateWrites tables updateRequest existing documentUuid following →
          KeepsAliases tables existing.meadowlarkId updateRequest.meadowlarkId
            updateRequest.documentInfo
  | .delete _ => True

/-- A call with validation whose writes keep every referenced alias. -/
def KeepingCall (tables : Tables) (call : RepositoryCall) : Prop :=
  call.validates = true ∧ KeepsReferences tables call

/-- One call keeps the invariant. -/
theorem Sound.call {connection : Connection} {call : RepositoryCall}
    (sound : Sound connection.committed) (clean : connection.Clean)
    (keeping : KeepingCall connection.committed call) :
    Sound (connection.run (repositorySession call)).2.committed := by
  obtain ⟨validates, keeps⟩ := keeping
  obtain ⟨result, ⟨committed, block⟩, run, -, effect⟩ := repositorySession_effect clean call
  rw [run]
  dsimp only at effect ⊢
  cases effect with
  | upserted writes =>
      exact sound.rewrite (uuidColumn_converted writes.converted)
        (upsertRow_written sound.converted writes) (keeps _ _ writes)
  | updated writes =>
      exact sound.rewrite (uuidColumn_converted writes.converted) (updateRow_written writes)
        (keeps _ _ _ writes)
  | deleted accepted => exact sound.without accepted validates
  | failed => exact sound

omit [NodeRuntime] in
theorem sound_empty : Sound Tables.empty where
  held := fun _ inside => absurd inside List.not_mem_nil
  owned := fun _ inside => absurd inside List.not_mem_nil
  converted := fun _ inside => absurd inside List.not_mem_nil

/-- A call leaves its connection clean. -/
theorem call_clean {connection : Connection} (clean : connection.Clean) (call : RepositoryCall) :
    (connection.run (repositorySession call)).2.Clean := by
  obtain ⟨result, following, run, clean, -⟩ := repositorySession_effect clean call
  rw [run]
  exact clean

theorem performAll_clean {connection : Connection} (clean : connection.Clean)
    (calls : List RepositoryCall) : (performAll connection calls).Clean := by
  induction calls generalizing connection with
  | nil => exact clean
  | cons call rest ih => exact ih (call_clean clean call)

/-- Every call of a sequence is permitted by the tables that it finds. -/
def PermittedAll (allowed : Tables → RepositoryCall → Prop) (connection : Connection) :
    List RepositoryCall → Prop
  | [] => True
  | call :: rest =>
      allowed connection.committed call ∧
        PermittedAll allowed (connection.run (repositorySession call)).2 rest

theorem permittedAll_of_forall {allowed : RepositoryCall → Prop} {calls : List RepositoryCall}
    (permitted : ∀ call ∈ calls, allowed call) (connection : Connection) :
    PermittedAll (fun _ call => allowed call) connection calls := by
  induction calls generalizing connection with
  | nil => trivial
  | cons call rest ih =>
      exact ⟨permitted call List.mem_cons_self,
        ih (fun other inside => permitted other (List.mem_cons_of_mem _ inside)) _⟩

theorem Reached.performAll {allowed : Tables → RepositoryCall → Prop} {connection : Connection}
    {calls : List RepositoryCall} (reached : Reached allowed connection.committed)
    (clean : connection.Clean) (permitted : PermittedAll allowed connection calls) :
    Reached allowed (performAll connection calls).committed := by
  induction calls generalizing connection with
  | nil => exact reached
  | cons call rest ih =>
      exact ih (reached.call clean permitted.1) (call_clean clean call) permitted.2

/-- Every sequential run whose calls keep the referenced aliases keeps referential integrity. -/
theorem reached_referencesHeld (reached : Reached KeepingCall tables) : ReferencesHeld tables := by
  have sound : Sound tables := by
    induction reached with
    | empty => exact sound_empty
    | call reached clean keeping ih => exact ih.call clean keeping
  exact sound.held

end Calls

section Examples
open Core.Sample Sample

private def start : Connection := ⟨Tables.empty, .idle⟩

private def renamableUpsert (resourceName key value : String)
    (documentReferences : List DocumentReference) (timestamp : Int) : UpsertRequest :=
  @upsertRequest { resource resourceName with allowIdentityUpdates := true } key value
    documentReferences none timestamp "client"

private def schoolReference : DocumentReference := reference "School" "schoolId" "1"

/-- A class period refers to a school. -/
private def referencedSchool : List RepositoryCall :=
  [.upsert (documentUuid "000000000001") (renamableUpsert "School" "schoolId" "1" [] 1),
    .upsert (documentUuid "000000000002")
      (renamableUpsert "ClassPeriod" "classPeriodName" "1" [schoolReference] 2)]

/-- The school changes the identity that the class period refers to. -/
private def renamedSchool : UpdateRequest :=
  { renamableUpsert "School" "schoolId" "2" [] 3 with
    documentUuid := documentUuid "000000000001" }

theorem renamed_school_dangling_reference :
    ∃ tables, @Reached runtime columns (fun _ call => call.validates = true) tables ∧
      ¬ ReferencesHeld tables := by
  have permitted : @PermittedAll runtime columns (fun _ call => call.validates = true) start
      (referencedSchool ++ [.update renamedSchool]) := ⟨rfl, rfl, rfl, trivial⟩
  have broken : ¬ ReferencesHeld (@performAll runtime columns start
      (referencedSchool ++ [.update renamedSchool])).committed := by decide +kernel
  have reached := @Reached.performAll runtime columns _ start _
    (@Reached.empty runtime columns _) (.inl rfl) permitted
  exact ⟨_, reached, broken⟩

/-- The class period changes its own identity. -/
private def renamedClassPeriod : UpdateRequest :=
  { renamableUpsert "ClassPeriod" "classPeriodName" "2" [schoolReference] 3 with
    documentUuid := documentUuid "000000000002" }

theorem reached_referencesHeld_renamed :
    ∃ tables, @Reached runtime columns (@KeepingCall runtime columns) tables ∧
      tables.references.length = 1 ∧ ReferencesHeld tables := by
  have keeps : ∀ document ∈ (@performAll runtime columns start referencedSchool).committed.documents,
      document.documentUuid = documentUuid "000000000002" →
        @KeepsAliases runtime (@performAll runtime columns start referencedSchool).committed
          document.meadowlarkId renamedClassPeriod.meadowlarkId
          renamedClassPeriod.documentInfo := by decide +kernel
  have renamed : @KeepingCall runtime columns
      (@performAll runtime columns start referencedSchool).committed
      (.update renamedClassPeriod) := by
    refine ⟨rfl, ?_⟩
    rintro existing documentUuid following ⟨converted, found, -⟩
    obtain ⟨stored, same⟩ := documentByUuid_some found
    exact keeps existing stored (same.trans (Except.ok.inj converted.symm))
  have permitted : @PermittedAll runtime columns (@KeepingCall runtime columns) start
      referencedSchool := by
    refine ⟨⟨rfl, ?_⟩, ⟨rfl, ?_⟩, trivial⟩
    · intro documentUuid following writes
      decide +kernel
    · intro documentUuid following writes
      decide +kernel
  have before := @Reached.performAll runtime columns _ start _
    (@Reached.empty runtime columns _) (.inl rfl) permitted
  have clean := @performAll_clean runtime columns start (.inl rfl) referencedSchool
  have reached := @Reached.call runtime columns _ _ _ before clean renamed
  have stored : (@Connection.run columns _ (@performAll runtime columns start referencedSchool)
      (@repositorySession runtime (.update renamedClassPeriod))).2.committed.references.length =
        1 := by decide +kernel
  exact ⟨_, reached, stored, @reached_referencesHeld runtime columns _ reached⟩

example : ReferencesHeld Tables.empty := by decide +kernel

end Examples
end Meadowlark.Postgres
