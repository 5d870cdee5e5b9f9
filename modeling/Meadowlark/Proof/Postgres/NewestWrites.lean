import Meadowlark.Proof.Postgres.ReferenceValidation
import Meadowlark.Proof.Postgres.SideTables
import Meadowlark.Systems.NewestWrites
import Meadowlark.Systems.Selections

namespace Meadowlark.Postgres
open Meadowlark.Core Systems

section Columns
variable [ColumnTypes] {tables : Tables} {updateRequest : UpdateRequest}
  {documentUuid : DocumentUuid}

/-- The columns of the documents table take the values of the request. -/
structure Storable (upsertRequest : UpsertRequest) : Prop where
  meadowlarkId : upsertRequest.meadowlarkId.value.length ≤ 56
  clientId : upsertRequest.security.clientId.length ≤ 100
  edfiDoc : ∃ edfiDoc, ColumnTypes.jsonbInput upsertRequest.edfiDoc = some edfiDoc

/-- The row holds the document and the timestamp of the request. -/
structure RowOf (upsertRequest : UpsertRequest) (row : MeadowlarkDocument) : Prop where
  meadowlarkId : row.meadowlarkId = upsertRequest.meadowlarkId
  edfiDoc : ColumnTypes.jsonbInput upsertRequest.edfiDoc = some row.edfiDoc
  lastModifiedAt : row.lastModifiedAt = upsertRequest.documentInfo.requestTimestamp

theorem Storable.documentRow (storable : Storable updateRequest.toUpsertRequest)
    (documentUuid : DocumentUuid) (createdAt : Int) :
    ∃ row, documentRow updateRequest documentUuid createdAt = .ok row ∧
      row.documentUuid = documentUuid ∧ RowOf updateRequest.toUpsertRequest row := by
  obtain ⟨edfiDoc, taken⟩ := storable.edfiDoc
  have fits : ¬ (updateRequest.meadowlarkId.value.length > 56 ∨
      updateRequest.security.clientId.length > 100) := by
    have shortId := storable.meadowlarkId
    have shortClient := storable.clientId
    omega
  unfold Postgres.documentRow
  rw [if_neg fits, taken]
  exact ⟨_, rfl, rfl, rfl, taken, rfl⟩

omit [ColumnTypes] in
theorem withDocuments_exists {documents : List MeadowlarkDocument}
    (uniqueIds : (documents.map (·.meadowlarkId)).Nodup)
    (uniqueUuids : (documents.map (·.documentUuid)).Nodup) :
    ∃ following, tables.withDocuments documents = .ok following ∧
      following.documents = documents := by
  unfold Tables.withDocuments
  rw [dif_pos ⟨uniqueIds, uniqueUuids⟩]
  exact ⟨_, rfl, rfl⟩

/-- A new id under a new uuid passes the unique indexes. -/
theorem insertDocument_exists (storable : Storable updateRequest.toUpsertRequest)
    (newId : ∀ document ∈ tables.documents, document.meadowlarkId ≠ updateRequest.meadowlarkId)
    (newUuid : ∀ document ∈ tables.documents, document.documentUuid ≠ documentUuid) :
    ∃ following row, tables.insertDocument updateRequest documentUuid = .ok following ∧
      row ∈ following.documents ∧ RowOf updateRequest.toUpsertRequest row := by
  obtain ⟨row, created, sameUuid, content⟩ :=
    storable.documentRow documentUuid updateRequest.documentInfo.requestTimestamp
  have uniqueIds : ((tables.documents ++ [row]).map (·.meadowlarkId)).Nodup := by
    rw [List.map_append, List.nodup_append]
    refine ⟨tables.uniqueIds, List.nodup_singleton _, ?_⟩
    rintro _ listed _ own rfl
    obtain ⟨document, stored, same⟩ := List.mem_map.mp listed
    rw [List.map_singleton, List.mem_singleton] at own
    exact newId document stored (same.trans (own.trans content.meadowlarkId))
  have uniqueUuids : ((tables.documents ++ [row]).map (·.documentUuid)).Nodup := by
    rw [List.map_append, List.nodup_append]
    refine ⟨tables.uniqueUuids, List.nodup_singleton _, ?_⟩
    rintro _ listed _ own rfl
    obtain ⟨document, stored, same⟩ := List.mem_map.mp listed
    rw [List.map_singleton, List.mem_singleton] at own
    exact newUuid document stored (same.trans (own.trans sameUuid))
  obtain ⟨following, done, documents⟩ := @withDocuments_exists tables _ uniqueIds uniqueUuids
  refine ⟨following, row, ?_, ?_, content⟩
  · unfold Tables.insertDocument
    rw [created]
    exact done
  · rw [documents]
    exact List.mem_append_right _ (List.mem_singleton.mpr rfl)

/-- A row that keeps its id passes the unique indexes. -/
theorem updateDocument_exists (storable : Storable updateRequest.toUpsertRequest)
    {existing : MeadowlarkDocument} (stored : existing ∈ tables.documents)
    (sameId : existing.meadowlarkId = updateRequest.meadowlarkId) :
    ∃ following row, tables.updateDocument updateRequest existing.documentUuid = .ok following ∧
      row ∈ following.documents ∧ RowOf updateRequest.toUpsertRequest row := by
  obtain ⟨row, created, sameUuid, content⟩ :=
    storable.documentRow existing.documentUuid existing.createdAt
  have own : ∀ document ∈ tables.documents, document.documentUuid = existing.documentUuid →
      document = existing := fun document inside same => documents_eq_of_uuid inside stored same
  have rewritten : tables.documents.mapM (updateRow updateRequest existing.documentUuid) =
      .ok (tables.documents.map fun document =>
        if document.documentUuid = existing.documentUuid then row else document) := by
    apply mapM_ok_of_forall
    intro document inside
    unfold updateRow
    by_cases same : document.documentUuid = existing.documentUuid
    · rw [if_pos same, if_pos same, own document inside same]
      exact created
    · rw [if_neg same, if_neg same]
  have ids : (tables.documents.map fun document =>
      if document.documentUuid = existing.documentUuid then row else document).map
        (·.meadowlarkId) = tables.documents.map (·.meadowlarkId) := by
    rw [List.map_map]
    apply List.map_congr_left
    intro document inside
    by_cases same : document.documentUuid = existing.documentUuid
    · rw [Function.comp_apply, if_pos same, content.meadowlarkId, ← sameId,
        own document inside same]
    · rw [Function.comp_apply, if_neg same]
  have uuids : (tables.documents.map fun document =>
      if document.documentUuid = existing.documentUuid then row else document).map
        (·.documentUuid) = tables.documents.map (·.documentUuid) := by
    rw [List.map_map]
    apply List.map_congr_left
    intro document inside
    by_cases same : document.documentUuid = existing.documentUuid
    · rw [Function.comp_apply, if_pos same, sameUuid, same]
    · rw [Function.comp_apply, if_neg same]
  obtain ⟨following, done, documents⟩ := @withDocuments_exists tables _
    (ids ▸ tables.uniqueIds) (uuids ▸ tables.uniqueUuids)
  refine ⟨following, row, ?_, ?_, content⟩
  · unfold Tables.updateDocument
    rw [rewritten]
    exact done
  · rw [documents]
    exact List.mem_map.mpr ⟨existing, stored, if_pos rfl⟩

end Columns

section References
variable [NodeRuntime] {tables : Tables}

/-- No reference is missing when every id occurs, also when several rows hold one id. -/
theorem missingFrom_nil {references : List DocumentReference}
    (occurs : ∀ reference ∈ references,
      Occurs tables (getMeadowlarkIdForDocumentReference reference)) :
    missingFrom tables references = [] := by
  unfold missingFrom
  dsimp only
  split
  · refine Eq.trans (@missingIdentities_pick _ (· ∈ aliasesAmong tables
      (references.map getMeadowlarkIdForDocumentReference)) _ references) ?_
    rw [missingIdentities_nil_iff]
    intro reference inside
    rw [mem_aliasesAmong]
    exact ⟨List.mem_map_of_mem inside, occurs reference inside⟩
  · rfl

end References

section Upserts
variable [NodeRuntime] [ColumnTypes] {tables : Tables} {meadowlarkId : MeadowlarkId}

/-- One upsert, with the uuid that an insert would generate.
An earlier stale upsert may have left the transaction block of its connection open. -/
structure Arrival where
  generated : DocumentUuid
  upsertRequest : UpsertRequest
  opened : Bool

def Arrival.connection (arrival : Arrival) (tables : Tables) : Connection :=
  ⟨tables, if arrival.opened then .active tables else .idle⟩

def upsertStep (arrival : Arrival) (tables : Tables) : Except SqlError UpsertResult × Tables :=
  let outcome := (arrival.connection tables).run
    (upsertDocument arrival.generated arrival.upsertRequest)
  (outcome.1, outcome.2.committed)

/-- The time at which the row under the id was last modified. -/
def lastModified (meadowlarkId : MeadowlarkId) (tables : Tables) : Option Int :=
  (documentById tables meadowlarkId).map (·.lastModifiedAt)

def requestTimestamp (arrival : Arrival) : Int :=
  arrival.upsertRequest.documentInfo.requestTimestamp

/-- The upserts write one identity.
They refer to other stored documents only, and no other document holds their superclass identity. -/
structure Competing (tables : Tables) (meadowlarkId : MeadowlarkId) (arrivals : List Arrival) :
    Prop where
  identity : ∀ arrival ∈ arrivals, arrival.upsertRequest.meadowlarkId = meadowlarkId
  fresh : ∀ arrival ∈ arrivals, ∃ documentUuid, uuidColumn arrival.generated = .ok documentUuid ∧
    ∀ document ∈ tables.documents, document.documentUuid ≠ documentUuid
  storable : ∀ arrival ∈ arrivals, Storable arrival.upsertRequest
  references : ∀ arrival ∈ arrivals,
    ∀ reference ∈ arrival.upsertRequest.documentInfo.documentReferences ++
      arrival.upsertRequest.documentInfo.descriptorReferences,
      ∃ row ∈ tables.aliases, row.meadowlarkId ≠ meadowlarkId ∧
        row.aliasMeadowlarkId = getMeadowlarkIdForDocumentReference reference
  superclass : ∀ arrival ∈ arrivals,
    ∀ superclassInfo ∈ arrival.upsertRequest.documentInfo.superclassInfo,
      ∀ row ∈ tables.aliases,
        row.aliasMeadowlarkId = getMeadowlarkIdForSuperclassInfo superclassInfo →
          row.meadowlarkId = meadowlarkId

/-- The stored rows have the content of the request. -/
def Shows (arrival : Arrival) (tables : Tables) : Prop :=
  ∃ document, documentById tables arrival.upsertRequest.meadowlarkId = some document ∧
    RowOf arrival.upsertRequest document ∧
    (tables.aliases.filter (·.meadowlarkId = arrival.upsertRequest.meadowlarkId)).map
        (·.aliasMeadowlarkId) =
      arrival.upsertRequest.meadowlarkId ::
        (arrival.upsertRequest.documentInfo.superclassInfo.map
          getMeadowlarkIdForSuperclassInfo).toList ∧
    (tables.references.filter (·.parentMeadowlarkId = arrival.upsertRequest.meadowlarkId)).map
        (·.referencedMeadowlarkId) =
      (arrival.upsertRequest.documentInfo.documentReferences ++
        arrival.upsertRequest.documentInfo.descriptorReferences).map
          getMeadowlarkIdForDocumentReference

/-- The tables between two of the upserts: only the rows of the identity may have changed. -/
structure Between (start : Tables) (meadowlarkId : MeadowlarkId) (tables : Tables) : Prop where
  owned : AliasesOwned tables
  converted : UuidsConverted tables
  documents : ∀ document, document.meadowlarkId ≠ meadowlarkId →
    (document ∈ tables.documents ↔ document ∈ start.documents)
  aliases : ∀ row, row.meadowlarkId ≠ meadowlarkId →
    (row ∈ tables.aliases ↔ row ∈ start.aliases)

variable {start : Tables} {arrivals : List Arrival} {arrival : Arrival}

omit [NodeRuntime] [ColumnTypes] in
theorem Arrival.connection_clean : (arrival.connection tables).Clean := by
  unfold Arrival.connection Connection.Clean
  cases arrival.opened with
  | true => exact .inr rfl
  | false => exact .inl rfl

omit [NodeRuntime] [ColumnTypes] in
theorem documentById_none (absent : documentById tables meadowlarkId = none) :
    ∀ document ∈ tables.documents, document.meadowlarkId ≠ meadowlarkId := by
  intro document stored same
  have unlike := List.find?_eq_none.mp absent document stored
  simp [same] at unlike

omit [NodeRuntime] [ColumnTypes] in
theorem documentById_eq {document : MeadowlarkDocument} (stored : document ∈ tables.documents)
    (same : document.meadowlarkId = meadowlarkId) :
    documentById tables meadowlarkId = some document := by
  cases found : documentById tables meadowlarkId with
  | none => exact absurd same (documentById_none found document stored)
  | some other =>
      obtain ⟨otherStored, sameId⟩ := documentById_some found
      rw [documents_eq_of_id otherStored stored (sameId.trans same.symm)]

/-- An upsert that is newer than the stored row passes every check. -/
theorem Between.accepted (between : Between start meadowlarkId tables)
    (competing : Competing start meadowlarkId arrivals) (listed : arrival ∈ arrivals)
    (newer : ¬ Overtaken (lastModified meadowlarkId) tables (requestTimestamp arrival)) :
    UpsertAccepted tables arrival.upsertRequest := by
  have identity := competing.identity arrival listed
  have occurs : ∀ ref ∈ outboundRefsFrom arrival.upsertRequest.documentInfo,
      Occurs tables ref := by
    intro ref inside
    rw [outboundRefsFrom_eq] at inside
    obtain ⟨reference, referenced, rfl⟩ := List.mem_map.mp inside
    obtain ⟨row, stored, foreign, same⟩ := competing.references arrival listed reference referenced
    rw [← same]
    exact List.mem_map_of_mem ((between.aliases row foreign).mpr stored)
  refine ⟨?_, ?_, ?_⟩
  · intro existing found
    rw [identity] at found
    refine lt_of_not_ge fun older => newer ⟨existing.lastModifiedAt, ?_, older⟩
    exact Option.map_eq_some_iff.mpr ⟨existing, found, rfl⟩
  · intro absent superclassInfo present row stored same
    rw [identity] at absent
    have foreign : row.meadowlarkId ≠ meadowlarkId := by
      obtain ⟨document, documentStored, sameId, -⟩ := between.owned row stored
      rw [← sameId]
      exact documentById_none absent document documentStored
    exact foreign (competing.superclass arrival listed superclassInfo present row
      ((between.aliases row foreign).mp stored) same)
  · intro _
    unfold missingReferences
    rw [missingFrom_nil, missingFrom_nil]
    · rfl
    · intro reference inside
      exact occurs _ (List.mem_append_right _ (List.mem_map_of_mem inside))
    · intro reference inside
      exact occurs _ (List.mem_append_left _ (List.mem_map_of_mem inside))

/-- A newer upsert writes a row with its content. -/
theorem Between.writes (between : Between start meadowlarkId tables)
    (competing : Competing start meadowlarkId arrivals) (listed : arrival ∈ arrivals)
    (newer : ¬ Overtaken (lastModified meadowlarkId) tables (requestTimestamp arrival)) :
    ∃ documentUuid following row,
      UpsertWrites tables arrival.generated arrival.upsertRequest documentUuid following ∧
        row ∈ following.documents ∧ RowOf arrival.upsertRequest row := by
  have accepted := between.accepted competing listed newer
  have identity := competing.identity arrival listed
  have storable := competing.storable arrival listed
  cases found : documentById tables arrival.upsertRequest.meadowlarkId with
  | none =>
      obtain ⟨documentUuid, converted, fresh⟩ := competing.fresh arrival listed
      have newId := documentById_none found
      have newUuid : ∀ document ∈ tables.documents, document.documentUuid ≠ documentUuid := by
        intro document stored
        have foreign := newId document stored
        rw [identity] at foreign
        exact fresh document ((between.documents document foreign).mp stored)
      obtain ⟨following, row, written, inside, content⟩ := @insertDocument_exists _ tables
        { arrival.upsertRequest with documentUuid := arrival.generated } documentUuid storable
        newId newUuid
      refine ⟨documentUuid, following, row, ⟨accepted, ?_, ?_⟩, inside, content⟩
      · unfold upsertedUuid
        rw [found]
        exact converted
      · unfold upsertRow upsertedUuid
        rw [found]
        exact written
  | some existing =>
      obtain ⟨stored, sameId⟩ := documentById_some found
      obtain ⟨following, row, written, inside, content⟩ := @updateDocument_exists _ tables
        { arrival.upsertRequest with documentUuid := existing.documentUuid } storable existing
        stored sameId
      refine ⟨existing.documentUuid, following, row, ⟨accepted, ?_, ?_⟩, inside, content⟩
      · unfold upsertedUuid
        rw [found]
        exact between.converted existing stored
      · unfold upsertRow upsertedUuid
        rw [found]
        exact written

/-- The rows of the other identities stay between the upserts. -/
theorem Between.rewrite {following : Tables} {documentUuid : DocumentUuid}
    {documentInfo : DocumentInfo} (between : Between start meadowlarkId tables)
    (converted : uuidColumn documentUuid = .ok documentUuid)
    (written : DocumentWritten tables following meadowlarkId documentUuid meadowlarkId) :
    Between start meadowlarkId
      (following.rewrite meadowlarkId documentUuid meadowlarkId documentInfo) := by
  refine ⟨between.owned.rewrite written, between.converted.rewrite converted written, ?_, ?_⟩
  · intro document foreign
    rw [← between.documents document foreign]
    constructor
    · intro stored
      rcases written.origin document stored with old | new
      · exact old
      · obtain ⟨row, inside, rowId, rowUuid⟩ := written.written
        have same : document = row := documents_eq_of_uuid stored inside (new.trans rowUuid.symm)
        rw [same] at foreign
        exact absurd rowId foreign
    · intro stored
      exact written.kept document stored foreign
  · intro row foreign
    rw [← between.aliases row foreign, mem_rewrite_aliases, written.aliases]
    constructor
    · rintro (⟨stored, -⟩ | ⟨aliasId, -, rfl⟩)
      · exact stored
      · exact absurd rfl foreign
    · intro stored
      exact .inl ⟨stored, foreign⟩

omit [ColumnTypes] in
/-- After a rewrite the side rows of the id are those of the document info. -/
theorem rewrite_sideRows (documentUuid : DocumentUuid) (documentInfo : DocumentInfo) :
    ((tables.rewrite meadowlarkId documentUuid meadowlarkId documentInfo).aliases.filter
        (·.meadowlarkId = meadowlarkId)).map (·.aliasMeadowlarkId) =
      meadowlarkId :: superclassAliasIds documentInfo ∧
    ((tables.rewrite meadowlarkId documentUuid meadowlarkId documentInfo).references.filter
        (·.parentMeadowlarkId = meadowlarkId)).map (·.referencedMeadowlarkId) =
      (documentInfo.documentReferences ++ documentInfo.descriptorReferences).map
        getMeadowlarkIdForDocumentReference := by
  rw [← outboundRefsFrom_eq]
  unfold Tables.rewrite
  constructor
  · rw [List.filter_append, List.filter_filter]
    simp [List.filter_map, Function.comp_def]
  · rw [List.filter_append, List.filter_filter]
    simp [List.filter_map, Function.comp_def]

theorem Between.written (between : Between start meadowlarkId tables)
    (competing : Competing start meadowlarkId arrivals) (listed : arrival ∈ arrivals)
    (newer : ¬ Overtaken (lastModified meadowlarkId) tables (requestTimestamp arrival)) :
    (∃ result, (upsertStep arrival tables).1 = .ok result ∧ result.succeeded = true) ∧
      Between start meadowlarkId (upsertStep arrival tables).2 ∧
      lastModified meadowlarkId (upsertStep arrival tables).2 = some (requestTimestamp arrival) ∧
      Shows arrival (upsertStep arrival tables).2 := by
  have identity := competing.identity arrival listed
  obtain ⟨documentUuid, following, row, writes, inside, content⟩ :=
    between.writes competing listed newer
  have done := upsertDocument_accepted (@Arrival.connection_clean tables arrival) writes
  have written := upsertRow_written between.converted writes
  have stored : documentById (following.rewrite arrival.upsertRequest.meadowlarkId documentUuid
      arrival.upsertRequest.meadowlarkId arrival.upsertRequest.documentInfo)
        arrival.upsertRequest.meadowlarkId = some row := documentById_eq inside content.meadowlarkId
  obtain ⟨aliases, references⟩ := @rewrite_sideRows _ following
    arrival.upsertRequest.meadowlarkId documentUuid arrival.upsertRequest.documentInfo
  unfold upsertStep
  dsimp only
  rw [done]
  refine ⟨⟨_, rfl, ?_⟩, ?_, ?_, row, stored, content, aliases, references⟩
  · unfold upsertedResult
    split <;> rfl
  · rw [identity] at written ⊢
    exact between.rewrite (uuidColumn_converted writes.converted) written
  · unfold lastModified
    rw [← identity, stored, Option.map_some, content.lastModifiedAt]
    rfl

/-- An upsert that is not newer is refused. -/
theorem upsertStep_overtaken (identity : arrival.upsertRequest.meadowlarkId = meadowlarkId)
    (overtaken : Overtaken (lastModified meadowlarkId) tables (requestTimestamp arrival)) :
    (upsertStep arrival tables).1 = .ok (.upsertFailureWriteConflict none) ∧
      (upsertStep arrival tables).2 = tables := by
  obtain ⟨latest, stored, older⟩ := overtaken
  obtain ⟨existing, found, rfl⟩ := Option.map_eq_some_iff.mp stored
  rw [← identity] at found
  have stale : (documentById tables arrival.upsertRequest.meadowlarkId).any (fun existing =>
      existing.lastModifiedAt ≥ arrival.upsertRequest.documentInfo.requestTimestamp) = true := by
    rw [found]
    exact decide_eq_true older
  have refused : (arrival.connection tables).run
      (tryUpsert arrival.generated arrival.upsertRequest) =
        (.ok (.upsertFailureWriteConflict none), working tables tables) := by
    unfold tryUpsert
    rw [run_bind_ok (run_beginTransaction Arrival.connection_clean),
      run_bind_ok (run_findDocumentByMeadowlarkId _)]
    exact congrArg _ (if_pos stale)
  unfold upsertStep upsertDocument
  dsimp only
  rw [run_tryCatch, refused]
  exact ⟨rfl, rfl⟩

/-- The upserts of one identity keep its newest content. -/
theorem Competing.keepsNewest (competing : Competing start meadowlarkId arrivals) :
    KeepsNewest upsertStep requestTimestamp (lastModified meadowlarkId) (· ∈ arrivals)
      (Between start meadowlarkId) Shows
      (fun answer => ∃ result, answer = .ok result ∧ result.succeeded = true)
      (· = .ok (.upsertFailureWriteConflict none)) where
  written listed between newer := between.written competing listed newer
  refused listed _ overtaken := upsertStep_overtaken (competing.identity _ listed) overtaken

end Upserts

section Start
variable [NodeRuntime] [ColumnTypes] {tables : Tables} {lastWrites : LastWrites}

omit [ColumnTypes] in
theorem SideTablesMatch.aliasesOwned (image : SideTablesMatch tables lastWrites) :
    AliasesOwned tables := by
  intro row inside
  obtain ⟨document, stored, own⟩ := List.mem_flatMap.mp (image.aliases.mem_iff.mp inside)
  obtain ⟨aliasId, -, rfl⟩ := List.mem_map.mp own
  exact ⟨document, stored, rfl, rfl⟩

theorem Imaged.between (imaged : Imaged tables lastWrites) (meadowlarkId : MeadowlarkId) :
    Between tables meadowlarkId tables :=
  ⟨imaged.image.aliasesOwned, imaged.converted, fun _ _ => Iff.rfl, fun _ _ => Iff.rfl⟩

end Start
end Meadowlark.Postgres
