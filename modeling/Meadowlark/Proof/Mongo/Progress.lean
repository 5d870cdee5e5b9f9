import Meadowlark.Proof.Mongo.MissingReferences
import Meadowlark.Proof.Mongo.SequentialStores

namespace Meadowlark.Mongo
open Meadowlark.Core Systems

section Locks
variable {store : Store} {ids : List MeadowlarkId} {documentUuid : DocumentUuid}

theorem mem_holderUuids :
    documentUuid ∈ holderUuids store ids ↔ ∃ document ∈ documents store,
      document.documentUuid = documentUuid ∧ ∃ id ∈ ids, id ∈ document.aliasMeadowlarkIds := by
  unfold holderUuids
  rw [List.mem_map]
  constructor
  · rintro ⟨document, found, same⟩
    obtain ⟨stored, id, held, listed⟩ := mem_holders.mp found
    exact ⟨document, stored, same, id, listed, held⟩
  · rintro ⟨document, stored, same, id, listed, held⟩
    exact ⟨document, mem_holders.mpr ⟨stored, id, held, listed⟩, same⟩

theorem holderUuids_nodup (orderly : Orderly store) : (holderUuids store ids).Nodup := by
  have distinct : (findDocuments store (.aliasMeadowlarkIds ids)).Nodup :=
    (documents_nodup store).filter _
  apply List.Nodup.map_on ?_ distinct
  intro first firstFound second secondFound same
  exact orderly.uuidsUnique first (mem_holders.mp firstFound).1 second
    (mem_holders.mp secondFound).1 same

/-- The locks of a write are distinct when its own document holds no referenced id. -/
theorem lockable_iff (orderly : Orderly store) :
    Lockable store (holderUuids store ids ++ [documentUuid]) ↔
      documentUuid ∉ holderUuids store ids := by
  unfold Lockable
  rw [List.nodup_append]
  constructor
  · rintro ⟨⟨-, -, apart⟩, -⟩ inside
    exact apart documentUuid inside documentUuid (List.mem_singleton.mpr rfl) rfl
  · intro apart
    refine ⟨⟨holderUuids_nodup orderly, List.nodup_singleton _, ?_⟩,
      fun other _ => orderly.unlocked other⟩
    intro holder inside other own same
    rw [same, List.mem_singleton.mp own] at inside
    exact apart inside

end Locks

section Reads
variable [NodeRuntime] {store : Store} {projection : Projection}
  {references : List DocumentReference}

/-- The list has as many entries as holders, or every entry is the first one that is found among the
aliases of a stored document. -/
def DocumentsRead (store : Store) (references : List DocumentReference) : Prop :=
  let ids := references.map getMeadowlarkIdForDocumentReference
  references.length = (holders store ids).length ∨
    ∀ id ∈ ids, ∃ document ∈ documents store,
      document.aliasMeadowlarkIds.find? (· ∈ ids) = some id

/-- The list has as many entries as holders, or every entry is the id of a stored document. -/
def DescriptorsRead (store : Store) (references : List DocumentReference) : Prop :=
  let ids := references.map getMeadowlarkIdForDocumentReference
  references.length = (holders store ids).length ∨
    ∀ id ∈ ids, ∃ document ∈ documents store, document.id = id

theorem missingFrom_nil_iff :
    missingFrom store projection references = [] ↔
      references.length =
          (holders store (references.map getMeadowlarkIdForDocumentReference)).length ∨
        ∀ id ∈ references.map getMeadowlarkIdForDocumentReference,
          id ∈ readIds store projection (references.map getMeadowlarkIdForDocumentReference) := by
  rw [missingFrom_eq]
  split
  · rename_i uncounted
    rw [missingIdentities_nil_iff, List.forall_mem_map]
    exact (or_iff_right uncounted).symm
  · rename_i counted
    exact iff_of_true rfl (.inl (not_not.mp counted))

theorem missingDocuments_nil_iff :
    missingFrom store .onlyReturnAliasMeadowlarkId references = [] ↔
      DocumentsRead store references := by
  rw [missingFrom_nil_iff]
  apply or_congr_right
  apply forall₂_congr
  intro id inside
  constructor
  · intro read
    obtain ⟨document, stored, -, -, first⟩ := readIds_alias_mem read
    exact ⟨document, stored, first⟩
  · rintro ⟨document, stored, first⟩
    have found : document ∈ holders store (references.map getMeadowlarkIdForDocumentReference) :=
      mem_holders.mpr ⟨stored, id, List.mem_of_find?_eq_some first, inside⟩
    obtain ⟨other, -, -, otherFirst, read⟩ := read_first found
    rw [first] at otherFirst
    obtain rfl := Option.some.inj otherFirst
    exact List.mem_map.mpr ⟨document, found, read⟩

theorem missingDescriptors_nil_iff (selfAliased : SelfAliased store) :
    missingFrom store .onlyReturnId references = [] ↔ DescriptorsRead store references := by
  rw [missingFrom_nil_iff]
  apply or_congr_right
  apply forall₂_congr
  intro id inside
  rw [readIds_id, List.mem_map]
  constructor
  · rintro ⟨document, found, same⟩
    exact ⟨document, (mem_holders.mp found).1, same⟩
  · rintro ⟨document, stored, rfl⟩
    exact ⟨document, mem_holders.mpr ⟨stored, _, selfAliased document stored, inside⟩, rfl⟩

end Reads
section Progress
variable [NodeRuntime] {store : Store}

/-- The request is newer than the stored document, its references are held and its superclass
identity is free or already its own. -/
structure Ready (store : Store) (meadowlarkId : MeadowlarkId) (documentInfo : DocumentInfo) :
    Prop where
  newer : ∀ document ∈ documents store, document.id = meadowlarkId →
    document.lastModifiedAt < documentInfo.requestTimestamp
  held : ∀ id ∈ referencedDocumentIdsFrom documentInfo, Holds store id
  free : ∀ superclassInfo ∈ documentInfo.superclassInfo, ∀ document ∈ documents store,
    getMeadowlarkIdForSuperclassInfo superclassInfo ∈ document.aliasMeadowlarkIds →
      document.id = meadowlarkId

/-- The stored form of the document holds none of the referenced ids, and a validation reads every
id of its two lists. -/
structure Unhindered (store : Store) (meadowlarkId : MeadowlarkId) (documentInfo : DocumentInfo)
    (validates : Bool) : Prop where
  apart : ∀ document ∈ documents store, document.id = meadowlarkId →
    ∀ id ∈ referencedDocumentIdsFrom documentInfo, id ∉ document.aliasMeadowlarkIds
  documentsRead : validates = true → DocumentsRead store documentInfo.documentReferences
  descriptorsRead : validates = true → DescriptorsRead store documentInfo.descriptorReferences

theorem missingReferences_nil_iff (selfAliased : SelfAliased store) (documentInfo : DocumentInfo) :
    missingReferences store documentInfo = [] ↔
      DocumentsRead store documentInfo.documentReferences ∧
        DescriptorsRead store documentInfo.descriptorReferences := by
  unfold missingReferences
  rw [List.append_eq_nil_iff, missingDocuments_nil_iff, missingDescriptors_nil_iff selfAliased]

/-- The upsert succeeds and its locks are distinct. -/
def UpsertProgresses (store : Store) (generated : GeneratedUuids) (upsertRequest : UpsertRequest) :
    Prop :=
  (∃ result, (upsertDocument generated upsertRequest store).1 = .ok result ∧
      result.succeeded = true) ∧
    (holderUuids store (referencedDocumentIdsFrom upsertRequest.documentInfo) ++
      [upsertedUuid store upsertRequest.meadowlarkId generated.first]).Nodup

theorem Unhindered.lockable {meadowlarkId : MeadowlarkId} {documentInfo : DocumentInfo}
    {validates : Bool} (unhindered : Unhindered store meadowlarkId documentInfo validates)
    (orderly : Orderly store) {documentUuid : DocumentUuid}
    (own : ∀ document ∈ documents store, document.documentUuid = documentUuid →
      document.id = meadowlarkId) :
    Lockable store (holderUuids store (referencedDocumentIdsFrom documentInfo) ++
      [documentUuid]) := by
  rw [lockable_iff orderly, mem_holderUuids]
  rintro ⟨document, stored, same, id, listed, held⟩
  exact unhindered.apart document stored (own document stored same) id listed held

theorem apart_of_lockable {meadowlarkId : MeadowlarkId} {documentInfo : DocumentInfo}
    (orderly : Orderly store) {documentUuid : DocumentUuid}
    (own : ∀ document ∈ documents store, document.id = meadowlarkId →
      document.documentUuid = documentUuid)
    (lockable : Lockable store (holderUuids store (referencedDocumentIdsFrom documentInfo) ++
      [documentUuid])) :
    ∀ document ∈ documents store, document.id = meadowlarkId →
      ∀ id ∈ referencedDocumentIdsFrom documentInfo, id ∉ document.aliasMeadowlarkIds := by
  intro document stored same id listed held
  apply (lockable_iff orderly).mp lockable
  exact mem_holderUuids.mpr ⟨document, stored, own document stored same, id, listed, held⟩

omit [NodeRuntime] in
/-- The uuid of an upsert belongs to the document under its id, or it is new. -/
theorem upsertedUuid_own (orderly : Orderly store) {meadowlarkId : MeadowlarkId}
    {generated : DocumentUuid}
    (fresh : ∀ document ∈ documents store, document.documentUuid ≠ generated)
    {document : MeadowlarkDocument} (stored : document ∈ documents store)
    (same : document.documentUuid = upsertedUuid store meadowlarkId generated) :
    document.id = meadowlarkId := by
  unfold upsertedUuid at same
  cases found : findDocument store (.id meadowlarkId) with
  | none =>
      rw [found] at same
      exact absurd same (fresh document stored)
  | some existing =>
      rw [found] at same
      obtain ⟨existingStored, sameId⟩ := findDocument_id found
      rw [orderly.uuidsUnique document stored existing existingStored same]
      exact sameId

omit [NodeRuntime] in
theorem own_upsertedUuid {meadowlarkId : MeadowlarkId} {generated : DocumentUuid}
    {document : MeadowlarkDocument} (stored : document ∈ documents store)
    (same : document.id = meadowlarkId) :
    document.documentUuid = upsertedUuid store meadowlarkId generated := by
  unfold upsertedUuid
  rw [findDocument_id_eq stored same]
  rfl

/-- A ready and unhindered upsert is accepted. -/
theorem Unhindered.accepted {upsertRequest : UpsertRequest} {generated : DocumentUuid}
    (unhindered : Unhindered store upsertRequest.meadowlarkId upsertRequest.documentInfo
      upsertRequest.validateDocumentReferencesExist)
    (orderly : Orderly store)
    (own : ∀ document ∈ documents store,
      document.documentUuid = upsertedUuid store upsertRequest.meadowlarkId generated →
        document.id = upsertRequest.meadowlarkId)
    (ready : Ready store upsertRequest.meadowlarkId upsertRequest.documentInfo) :
    UpsertAccepted store store upsertRequest
      (upsertedUuid store upsertRequest.meadowlarkId generated)
      (documentFromUpsert upsertRequest generated
        (findDocument store (.id upsertRequest.meadowlarkId))) := by
  refine ⟨?_, ?_, ?_, unhindered.lockable orderly own⟩
  · intro existing found
    obtain ⟨stored, same⟩ := findDocument_id found
    exact ready.newer existing stored same
  · intro absent superclassInfo present
    cases inUse : findDocument store
        (.aliasMeadowlarkId (getMeadowlarkIdForSuperclassInfo superclassInfo)) with
    | none => rfl
    | some document =>
        obtain ⟨stored, held⟩ := findDocument_some inUse
        have same := ready.free superclassInfo present document stored
          (by simpa [Filter.matches] using held)
        rw [findDocument_id_eq stored same] at absent
        cases absent
  · intro validates
    rw [missingReferences_nil_iff orderly.selfAliased]
    exact ⟨unhindered.documentsRead validates, unhindered.descriptorsRead validates⟩

/-- A ready upsert succeeds exactly when it is unhindered. -/
theorem upsertDocument_progresses_iff (orderly : Orderly store) {generated : GeneratedUuids}
    {upsertRequest : UpsertRequest} (fresh : FreshUuids store (.upsert generated upsertRequest))
    (ready : Ready store upsertRequest.meadowlarkId upsertRequest.documentInfo) :
    UpsertProgresses store generated upsertRequest ↔
      Unhindered store upsertRequest.meadowlarkId upsertRequest.documentInfo
        upsertRequest.validateDocumentReferencesExist := by
  constructor
  · rintro ⟨⟨result, answered, succeeded⟩, -⟩
    rcases upsertDocument_effect generated upsertRequest store with
      ⟨documentUuid, -, accepted, -⟩ | unsuccessful
    · have valid := accepted.valid
      rw [missingReferences_nil_iff orderly.selfAliased] at valid
      exact ⟨apart_of_lockable orderly (fun _ => own_upsertedUuid) accepted.lockable,
        fun validates => (valid validates).1, fun validates => (valid validates).2⟩
    · rw [unsuccessful.answers result answered] at succeeded
      cases succeeded
  · intro unhindered
    have own := fun document stored => @upsertedUuid_own _ orderly upsertRequest.meadowlarkId
      generated.first (fresh _ List.mem_cons_self) document stored
    refine ⟨?_, (unhindered.lockable orderly own).1⟩
    rw [upsertDocument_accepted (unhindered.accepted orderly own ready)]
    exact ⟨_, rfl, upsertedResult_succeeded _ _ _⟩

/-- The update succeeds and its locks are distinct. -/
def UpdateProgresses (store : Store) (generated : GeneratedUuids) (updateRequest : UpdateRequest) :
    Prop :=
  (updateDocumentByDocumentUuid generated updateRequest store).1 = .ok .updateSuccess ∧
    (holderUuids store (referencedDocumentIdsFrom updateRequest.documentInfo) ++
      [updateRequest.documentUuid]).Nodup

/-- The update keeps the identity of a stored document. -/
def KeepsIdentity (store : Store) (updateRequest : UpdateRequest) : Prop :=
  ∃ document ∈ documents store, document.documentUuid = updateRequest.documentUuid ∧
    document.id = updateRequest.meadowlarkId

/-- A ready update that keeps the identity succeeds exactly when it is unhindered. -/
theorem updateDocument_progresses_iff (orderly : Orderly store) (generated : GeneratedUuids)
    {updateRequest : UpdateRequest} (kept : KeepsIdentity store updateRequest)
    (ready : Ready store updateRequest.meadowlarkId updateRequest.documentInfo) :
    UpdateProgresses store generated updateRequest ↔
      Unhindered store updateRequest.meadowlarkId updateRequest.documentInfo
        updateRequest.validateDocumentReferencesExist := by
  obtain ⟨existing, existingStored, sameUuid, sameId⟩ := kept
  have ofUuid : ∀ document ∈ documents store,
      document.documentUuid = updateRequest.documentUuid →
        document.id = updateRequest.meadowlarkId := by
    intro document stored same
    rw [orderly.uuidsUnique document stored existing existingStored (same.trans sameUuid.symm)]
    exact sameId
  have ofId : ∀ document ∈ documents store, document.id = updateRequest.meadowlarkId →
      document.documentUuid = updateRequest.documentUuid := by
    intro document stored same
    rw [documents_eq_of_id stored existingStored (same.trans sameId.symm)]
    exact sameUuid
  constructor
  · rintro ⟨succeeded, -⟩
    have admitted : UpdateAdmitted store store updateRequest := by
      rcases updateDocument_effect generated updateRequest store with
        ⟨_, admitted, -, -⟩ | ⟨_, -, _, admitted, -, -⟩ | unsuccessful
      · exact admitted
      · exact admitted
      · cases unsuccessful.answers _ succeeded
    have valid := admitted.valid
    rw [missingReferences_nil_iff orderly.selfAliased] at valid
    exact ⟨apart_of_lockable orderly ofId admitted.lockable, fun validates => (valid validates).1,
      fun validates => (valid validates).2⟩
  · intro unhindered
    have lockable := unhindered.lockable orderly ofUuid
    have admitted : UpdateAdmitted store store updateRequest := by
      refine ⟨?_, lockable⟩
      intro validates
      rw [missingReferences_nil_iff orderly.selfAliased]
      exact ⟨unhindered.documentsRead validates, unhindered.descriptorsRead validates⟩
    have matched : (Filter.replaceable updateRequest.meadowlarkId updateRequest.documentUuid
        updateRequest.documentInfo.requestTimestamp).matches existing = true := by
      simpa [Filter.matches, sameId, sameUuid] using ready.newer existing existingStored sameId
    cases found : replaceable store updateRequest with
    | none =>
        rw [findDocument_none found existingStored] at matched
        exact absurd matched (by decide)
    | some document =>
        refine ⟨?_, lockable.1⟩
        rw [updateDocument_replaced generated admitted found]

/-- In every store of a sequential run the ready writes succeed exactly when they are unhindered. -/
theorem writes_progress_iff
    (stored : Observed (fun store call => FreshUuids store call) (fun _ _ _ => ()) () store ()) :
    (∀ generated upsertRequest, FreshUuids store (.upsert generated upsertRequest) →
      Ready store upsertRequest.meadowlarkId upsertRequest.documentInfo →
        (UpsertProgresses store generated upsertRequest ↔
          Unhindered store upsertRequest.meadowlarkId upsertRequest.documentInfo
            upsertRequest.validateDocumentReferencesExist)) ∧
    ∀ generated updateRequest, KeepsIdentity store updateRequest →
      Ready store updateRequest.meadowlarkId updateRequest.documentInfo →
        (UpdateProgresses store generated updateRequest ↔
          Unhindered store updateRequest.meadowlarkId updateRequest.documentInfo
            updateRequest.validateDocumentReferencesExist) := by
  have orderly := observed_orderly (fun _ _ fresh => fresh) stored
  constructor
  · intro generated upsertRequest fresh ready
    exact upsertDocument_progresses_iff orderly fresh ready
  · intro generated updateRequest kept ready
    exact updateDocument_progresses_iff orderly generated kept ready

end Progress

section Examples
open Core.Sample

private def schoolInsert (documentReferences : List DocumentReference) (timestamp : Int) :
    UpsertRequest :=
  upsertRequest (resource "School") "schoolId" "1" documentReferences none timestamp "client"

/-- A school that refers to itself. -/
private def selfReferring : UpsertRequest := schoolInsert [reference "School" "schoolId" "1"] 2

private def periodInsert : UpsertRequest :=
  upsertRequest (resource "ClassPeriod") "classPeriodName" "first"
    [reference "School" "schoolId" "1"] none 2 "client"

private def renewal : UpdateRequest :=
  { schoolInsert [] 2 with documentUuid := documentUuid "000000000001" }

private def generated (digits : String) : GeneratedUuids := ⟨documentUuid digits, []⟩

private def schoolStore : Store :=
  (@SequentialCall.perform runtime (.upsert (generated "000000000001") (schoolInsert [] 1))
    Database.empty).2

private theorem schoolStore_observed :
    @Observed runtime _ (fun store call => FreshUuids store call) (fun _ _ _ => ()) () schoolStore
      () :=
  @Observed.call runtime _ (fun store call => FreshUuids store call) (fun _ _ _ => ()) () _ _
    (.upsert (generated "000000000001") (schoolInsert [] 1)) (@Observed.empty runtime _ _ _ _)
    (by decide +kernel)

private theorem schoolStore_ready {meadowlarkId : MeadowlarkId} {documentInfo : DocumentInfo}
    (newer : documentInfo.requestTimestamp = 2) (alone : documentInfo.superclassInfo = none)
    (held : ∀ id ∈ @referencedDocumentIdsFrom runtime documentInfo, Holds schoolStore id) :
    @Ready runtime schoolStore meadowlarkId documentInfo := by
  have older : ∀ document ∈ documents schoolStore, document.lastModifiedAt < 2 := by
    decide +kernel
  refine @Ready.mk runtime _ _ _ ?_ held ?_
  · intro document stored _
    rw [newer]
    exact older document stored
  · intro superclassInfo present
    rw [alone] at present
    cases present

/-- The own reference of the school locks the school twice, and the upsert rejects. -/
theorem self_reference_refuses_upsert :
    @Observed runtime _ (fun store call => FreshUuids store call) (fun _ _ _ => ()) () schoolStore
        () ∧
      FreshUuids schoolStore (.upsert (generated "000000000002") selfReferring) ∧
      @Ready runtime schoolStore selfReferring.meadowlarkId selfReferring.documentInfo ∧
      (@upsertDocument runtime (generated "000000000002") selfReferring schoolStore).1 =
        .error ⟨"", "Cannot call abortTransaction twice"⟩ ∧
      ¬ (holderUuids schoolStore (@referencedDocumentIdsFrom runtime selfReferring.documentInfo) ++
        [upsertedUuid schoolStore selfReferring.meadowlarkId
          (documentUuid "000000000002")]).Nodup := by
  refine ⟨schoolStore_observed, by decide +kernel, @schoolStore_ready _ _ rfl rfl ?_, ?_, ?_⟩
  · decide +kernel
  · decide +kernel
  · decide +kernel

/-- A class period of the school is inserted and the school itself is renewed. -/
theorem writes_progress_school :
    @UpsertProgresses runtime schoolStore (generated "000000000002") periodInsert ∧
      @UpdateProgresses runtime schoolStore (generated "000000000002") renewal := by
  have progress := @writes_progress_iff runtime schoolStore schoolStore_observed
  constructor
  · apply (progress.1 (generated "000000000002") periodInsert (by decide +kernel)
      (schoolStore_ready rfl rfl (by decide +kernel))).mpr
    refine @Unhindered.mk runtime _ _ _ _ ?_ (fun _ => .inl ?_) (fun _ => .inl ?_)
    · decide +kernel
    · decide +kernel
    · decide +kernel
  · have kept : KeepsIdentity schoolStore renewal := by
      unfold KeepsIdentity
      decide +kernel
    apply (progress.2 (generated "000000000002") renewal kept
      (schoolStore_ready rfl rfl (by decide +kernel))).mpr
    refine @Unhindered.mk runtime _ _ _ _ ?_ (fun _ => .inl ?_) (fun _ => .inl ?_)
    · decide +kernel
    · decide +kernel
    · decide +kernel

example : (documents schoolStore).length = 1 := by decide +kernel

end Examples
end Meadowlark.Mongo
