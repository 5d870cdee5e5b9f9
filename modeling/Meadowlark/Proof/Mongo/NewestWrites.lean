import Meadowlark.Proof.Mongo.Progress
import Meadowlark.Systems.NewestWrites

namespace Meadowlark.Mongo
open Meadowlark.Core Systems

section References
variable {store : Store} {meadowlarkId : MeadowlarkId} {ids shorter : List MeadowlarkId}

/-- Every id of the list is held by one document, no two ids by the same one, and none by the
document that is written. -/
def RefersApart (store : Store) (meadowlarkId : MeadowlarkId) (ids : List MeadowlarkId) : Prop :=
  ∃ target : MeadowlarkId → MeadowlarkDocument, (ids.map target).Nodup ∧
    ∀ id ∈ ids, id ≠ meadowlarkId ∧ (target id).id ≠ meadowlarkId ∧
      ∀ document, document ∈ documents store ∧ id ∈ document.aliasMeadowlarkIds ↔
        document = target id

theorem RefersApart.sublist (apart : RefersApart store meadowlarkId ids)
    (within : shorter.Sublist ids) : RefersApart store meadowlarkId shorter := by
  obtain ⟨target, distinct, named⟩ := apart
  exact ⟨target, distinct.sublist (within.map target), fun id inside =>
    named id (within.subset inside)⟩

theorem RefersApart.held (apart : RefersApart store meadowlarkId ids) {id : MeadowlarkId}
    (inside : id ∈ ids) : Holds store id := by
  obtain ⟨target, -, named⟩ := apart
  obtain ⟨stored, held⟩ := ((named id inside).2.2 (target id)).mpr rfl
  exact ⟨target id, stored, held⟩

theorem RefersApart.apart (apart : RefersApart store meadowlarkId ids) {id : MeadowlarkId}
    (inside : id ∈ ids) {document : MeadowlarkDocument} (stored : document ∈ documents store)
    (same : document.id = meadowlarkId) : id ∉ document.aliasMeadowlarkIds := by
  obtain ⟨target, -, named⟩ := apart
  obtain ⟨-, other, only⟩ := named id inside
  intro held
  obtain rfl := (only document).mp ⟨stored, held⟩
  exact other same

/-- There are as many holders as ids. -/
theorem RefersApart.counted (apart : RefersApart store meadowlarkId ids) :
    ids.length = (holders store ids).length := by
  obtain ⟨target, distinct, named⟩ := apart
  have distinctHolders : (holders store ids).Nodup := (documents_nodup store).filter _
  have same : (ids.map target).Perm (holders store ids) := by
    rw [List.perm_ext_iff_of_nodup distinct distinctHolders]
    intro document
    rw [mem_holders, List.mem_map]
    constructor
    · rintro ⟨id, inside, rfl⟩
      obtain ⟨stored, held⟩ := ((named id inside).2.2 (target id)).mpr rfl
      exact ⟨stored, id, held, inside⟩
    · rintro ⟨stored, id, held, inside⟩
      exact ⟨id, inside, (((named id inside).2.2 document).mp ⟨stored, held⟩).symm⟩
  rw [← same.length_eq, List.length_map]

end References

section Upserts
variable [NodeRuntime] {store : Store} {meadowlarkId : MeadowlarkId}
  {calls : List (GeneratedUuids × UpsertRequest)}

/-- One upsert, with the uuids that its attempts would generate. -/
def upsertStep (call : GeneratedUuids × UpsertRequest) (store : Store) :
    Except DriverError UpsertResult × Store :=
  upsertDocument call.1 call.2 store

/-- The time at which the document under the id was last modified. -/
def lastModified (meadowlarkId : MeadowlarkId) (store : Store) : Option Int :=
  (findDocument store (.id meadowlarkId)).map (·.lastModifiedAt)

def requestTimestamp (call : GeneratedUuids × UpsertRequest) : Int :=
  call.2.documentInfo.requestTimestamp

/-- The upserts write one identity.
They refer to other stored documents only, and no other document holds their superclass identity. -/
structure Competing (store : Store) (meadowlarkId : MeadowlarkId)
    (calls : List (GeneratedUuids × UpsertRequest)) : Prop where
  identity : ∀ call ∈ calls, call.2.meadowlarkId = meadowlarkId
  fresh : ∀ call ∈ calls, FreshUuids store (.upsert call.1 call.2)
  references : ∀ call ∈ calls,
    RefersApart store meadowlarkId (referencedDocumentIdsFrom call.2.documentInfo)
  superclass : ∀ call ∈ calls, ∀ superclassInfo ∈ call.2.documentInfo.superclassInfo,
    ∀ document ∈ documents store,
      getMeadowlarkIdForSuperclassInfo superclassInfo ∈ document.aliasMeadowlarkIds →
        document.id = meadowlarkId

/-- The stored document has the content of the request. -/
def Shows (call : GeneratedUuids × UpsertRequest) (store : Store) : Prop :=
  ∃ document, findDocument store (.id call.2.meadowlarkId) = some document ∧
    document.edfiDoc = call.2.edfiDoc ∧
    document.outboundRefs = referencedDocumentIdsFrom call.2.documentInfo ∧
    document.aliasMeadowlarkIds = call.2.meadowlarkId ::
      (call.2.documentInfo.superclassInfo.map getMeadowlarkIdForSuperclassInfo).toList ∧
    document.lastModifiedAt = requestTimestamp call

/-- A store between two of the upserts: only the document of the identity may have changed. -/
structure Between (start : Store) (meadowlarkId : MeadowlarkId)
    (calls : List (GeneratedUuids × UpsertRequest)) (store : Store) : Prop where
  orderly : Orderly store
  others : ∀ document, document.id ≠ meadowlarkId →
    (document ∈ documents store ↔ document ∈ documents start)
  own : ∀ document ∈ documents store, document.id = meadowlarkId →
    document ∈ documents start ∨ ∃ call ∈ calls, document.aliasMeadowlarkIds = meadowlarkId ::
      (call.2.documentInfo.superclassInfo.map getMeadowlarkIdForSuperclassInfo).toList

variable {start : Store} {call : GeneratedUuids × UpsertRequest}

/-- The references of every upsert keep their documents. -/
theorem Between.refersApart (between : Between start meadowlarkId calls store)
    (competing : Competing start meadowlarkId calls) {ids : List MeadowlarkId}
    (apart : RefersApart start meadowlarkId ids) : RefersApart store meadowlarkId ids := by
  obtain ⟨target, distinct, named⟩ := apart
  refine ⟨target, distinct, fun id inside => ?_⟩
  obtain ⟨foreign, other, only⟩ := named id inside
  refine ⟨foreign, other, fun document => ⟨?_, ?_⟩⟩
  · rintro ⟨stored, held⟩
    by_cases same : document.id = meadowlarkId
    · rcases between.own document stored same with before | ⟨call, listed, aliases⟩
      · exact (only document).mp ⟨before, held⟩
      · rw [aliases, List.mem_cons, Option.mem_toList, Option.map_eq_some_iff] at held
        rcases held with own | ⟨superclassInfo, present, rfl⟩
        · exact absurd own foreign
        · obtain ⟨targetStored, targetHeld⟩ := (only (target _)).mpr rfl
          exact absurd (competing.superclass call listed superclassInfo present _ targetStored
            targetHeld) other
    · exact (only document).mp ⟨(between.others document same).mp stored, held⟩
  · rintro rfl
    obtain ⟨stored, held⟩ := (only _).mpr rfl
    exact ⟨(between.others _ other).mpr stored, held⟩

/-- The uuid that an upsert would write belongs to no other document. -/
theorem Between.ownUuid (between : Between start meadowlarkId calls store)
    (competing : Competing start meadowlarkId calls) (listed : call ∈ calls) :
    ∀ document ∈ documents store,
      document.documentUuid = upsertedUuid store call.2.meadowlarkId call.1.first →
        document.id = call.2.meadowlarkId := by
  intro document stored same
  rw [competing.identity call listed] at same ⊢
  cases found : findDocument store (.id meadowlarkId) with
  | some existing =>
      obtain ⟨existingStored, sameId⟩ := findDocument_id found
      unfold upsertedUuid at same
      rw [found] at same
      rw [between.orderly.uuidsUnique document stored existing existingStored same]
      exact sameId
  | none =>
      by_contra other
      have before := (between.others document other).mp stored
      unfold upsertedUuid at same
      rw [found] at same
      exact competing.fresh call listed call.1.first List.mem_cons_self document before same

/-- An upsert that is newer than the stored document is accepted. -/
theorem Between.accepted (between : Between start meadowlarkId calls store)
    (competing : Competing start meadowlarkId calls) (listed : call ∈ calls)
    (newer : ¬ Overtaken (lastModified meadowlarkId) store (requestTimestamp call)) :
    UpsertAccepted store store call.2 (upsertedUuid store call.2.meadowlarkId call.1.first)
      (documentFromUpsert call.2 call.1.first
        (findDocument store (.id call.2.meadowlarkId))) := by
  have identity := competing.identity call listed
  have apart := between.refersApart competing (competing.references call listed)
  have own := between.ownUuid competing listed
  rw [← identity] at apart newer
  have unhindered : Unhindered store call.2.meadowlarkId call.2.documentInfo
      call.2.validateDocumentReferencesExist := by
    refine ⟨fun document stored same id inside => apart.apart inside stored same, ?_, ?_⟩
    · intro _
      left
      rw [← (apart.sublist (List.sublist_append_left _ _)).counted, List.length_map]
    · intro _
      left
      rw [← (apart.sublist (List.sublist_append_right _ _)).counted, List.length_map]
  have ready : Ready store call.2.meadowlarkId call.2.documentInfo := by
    refine ⟨?_, fun id inside => apart.held inside, ?_⟩
    · intro document stored same
      refine lt_of_not_ge fun older => newer ⟨document.lastModifiedAt, ?_, older⟩
      unfold lastModified
      rw [findDocument_id_eq stored same]
      rfl
    · intro superclassInfo present document stored held
      by_contra other
      rw [identity] at other
      exact other (competing.superclass call listed superclassInfo present document
        ((between.others document other).mp stored) held)
  exact unhindered.accepted between.orderly own ready

/-- A newer upsert writes its content. -/
theorem Between.written (between : Between start meadowlarkId calls store)
    (competing : Competing start meadowlarkId calls) (listed : call ∈ calls)
    (newer : ¬ Overtaken (lastModified meadowlarkId) store (requestTimestamp call)) :
    (∃ result, (upsertStep call store).1 = .ok result ∧ result.succeeded = true) ∧
      Between start meadowlarkId calls (upsertStep call store).2 ∧
      lastModified meadowlarkId (upsertStep call store).2 = some (requestTimestamp call) ∧
      Shows call (upsertStep call store).2 := by
  have identity := competing.identity call listed
  have done := upsertDocument_accepted (between.accepted competing listed newer)
  have own := between.ownUuid competing listed
  have aliases : (documentFromUpsert call.2 call.1.first
      (findDocument store (.id call.2.meadowlarkId))).aliasMeadowlarkIds =
        call.2.meadowlarkId ::
          (call.2.documentInfo.superclassInfo.map getMeadowlarkIdForSuperclassInfo).toList := rfl
  have sameId : (documentFromUpsert call.2 call.1.first
      (findDocument store (.id call.2.meadowlarkId))).id = call.2.meadowlarkId := rfl
  have found := findDocument_id_eq ((mem_documents_put store (documentFromUpsert call.2
    call.1.first (findDocument store (.id call.2.meadowlarkId))) _).mpr (.inr rfl)) sameId
  unfold upsertStep
  rw [done]
  refine ⟨⟨_, rfl, upsertedResult_succeeded _ _ _⟩, ⟨?_, ?_, ?_⟩, ?_, ?_⟩
  · refine between.orderly.put ?_ own
    rw [aliases, sameId]
    exact List.mem_cons_self
  · intro document other
    rw [← between.others document other, mem_documents_put]
    constructor
    · rintro (⟨stored, -⟩ | rfl)
      · exact stored
      · exact absurd (sameId.trans identity) other
    · intro stored
      exact .inl ⟨stored, fun same => other (same.trans (sameId.trans identity))⟩
  · intro document stored same
    rcases (mem_documents_put _ _ _).mp stored with ⟨-, other⟩ | rfl
    · exact absurd (same.trans (sameId.trans identity).symm) other
    · refine .inr ⟨call, listed, ?_⟩
      rw [aliases, identity]
  · unfold lastModified
    rw [← identity, found]
    rfl
  · exact ⟨_, found, rfl, rfl, aliases, rfl⟩

/-- An upsert that is not newer is refused. -/
theorem upsertStep_overtaken (identity : call.2.meadowlarkId = meadowlarkId)
    (overtaken : Overtaken (lastModified meadowlarkId) store (requestTimestamp call)) :
    (upsertStep call store).1 = .ok (.upsertFailureWriteConflict none) ∧
      (upsertStep call store).2 = store := by
  obtain ⟨latest, stored, older⟩ := overtaken
  obtain ⟨existing, found, rfl⟩ := Option.map_eq_some_iff.mp stored
  rw [← identity] at found
  unfold upsertStep
  rw [upsertDocument_stale found older]
  exact ⟨rfl, rfl⟩

/-- The upserts of one identity keep its newest content. -/
theorem Competing.keepsNewest (competing : Competing start meadowlarkId calls) :
    KeepsNewest upsertStep requestTimestamp (lastModified meadowlarkId) (· ∈ calls)
      (Between start meadowlarkId calls) Shows
      (fun answer => ∃ result, answer = .ok result ∧ result.succeeded = true)
      (· = .ok (.upsertFailureWriteConflict none)) where
  written listed between newer := between.written competing listed newer
  refused listed _ overtaken := upsertStep_overtaken (competing.identity _ listed) overtaken

omit [NodeRuntime] in
theorem between_start (orderly : Orderly start) [NodeRuntime] :
    Between start meadowlarkId calls start :=
  ⟨orderly, fun _ _ => Iff.rfl, fun _ stored _ => .inl stored⟩

end Upserts
end Meadowlark.Mongo
