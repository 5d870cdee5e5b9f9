import Meadowlark.Proof.Core.WriteProtection
import Meadowlark.Proof.Mongo.Confinement
import Meadowlark.Proof.Mongo.SequentialStores

namespace Meadowlark.Mongo
open Meadowlark.Core Systems
variable [NodeRuntime] {store following : Store} {clientId : String} {generated : GeneratedUuids}

/-- Every document of another client is still stored as it was. -/
def SparesOthers (clientId : String) (store following : Store) : Prop :=
  ∀ document ∈ documents store, document.createdBy ≠ clientId → document ∈ documents following

/-- The accepted write overwrites a document of another client. -/
def Takes (clientId : String) (store : Store) : WriteRequest → Prop
  | .upsert request => WriteAccepted store (.upsert request) ∧
      ∃ existing ∈ documents store, existing.id = request.meadowlarkId ∧
        existing.createdBy ≠ clientId
  | .update request => ∃ existing other, OverwritesOther store request existing other ∧
      other.createdBy ≠ clientId
  | .delete _ => False

omit [NodeRuntime] in
theorem sparesOthers_refl (clientId : String) (store : Store) :
    SparesOthers clientId store store := fun _ stored _ => stored

omit [NodeRuntime] in
/-- A document that changes in its place is spared unless it belongs to another client. -/
theorem sparesOthers_put_iff {existing document : MeadowlarkDocument}
    (stored : existing ∈ documents store) (same : existing.id = document.id)
    (changed : existing ≠ document) :
    SparesOthers clientId store (store.put (.document document)) ↔
      existing.createdBy = clientId := by
  constructor
  · intro spares
    by_contra other
    rcases (mem_documents_put _ _ _).mp (spares existing stored other) with ⟨-, different⟩ | equal
    · exact different same
    · exact changed equal
  · intro own other otherStored foreign
    refine (mem_documents_put _ _ _).mpr (.inl ⟨otherStored, fun sameId => foreign ?_⟩)
    rw [documents_eq_of_id otherStored stored (sameId.trans same.symm)]
    exact own

/-- An upsert spares the documents of others unless it overwrites one of them. -/
theorem upsert_spares_iff (request : UpsertRequest) :
    SparesOthers clientId store (upsertDocument generated request store).2 ↔
      ¬ Takes clientId store (.upsert request) := by
  have effect := perform_effect store (.upsert generated request)
  have succeeds : ∀ documentUuid existing,
      findDocument store (.id request.meadowlarkId) = some existing →
      UpsertAccepted store store request (upsertedUuid store request.meadowlarkId documentUuid)
        (documentFromUpsert request documentUuid
          (findDocument store (.id request.meadowlarkId))) →
      ∃ answer, (upsertDocument generated request store).1.map RepositoryResult.upsert = .ok answer ∧
        answer.succeeded = true := by
    intro documentUuid existing found accepted
    have same : UpsertAccepted store store request
        (upsertedUuid store request.meadowlarkId generated.first)
        (documentFromUpsert request generated.first
          (findDocument store (.id request.meadowlarkId))) := by
      unfold upsertedUuid at accepted ⊢
      rw [found] at accepted ⊢
      exact accepted
    rw [upsertDocument_accepted same]
    exact ⟨_, rfl, upsertedResult_succeeded _ _ _⟩
  change CallEffect store _
    ((upsertDocument generated request store).1.map RepositoryResult.upsert)
    (upsertDocument generated request store).2 at effect
  generalize (upsertDocument generated request store).1.map RepositoryResult.upsert = result
    at effect succeeds
  generalize (upsertDocument generated request store).2 = following at effect ⊢
  cases effect with
  | @inserted _ _ documentUuid inside absent _ =>
      have unstored : ∀ other ∈ documents store, other.id ≠ request.meadowlarkId := by
        intro other stored same
        rw [findDocument_id_eq stored same] at absent
        cases absent
      refine iff_of_true ?_ ?_
      · intro other stored _
        exact (mem_documents_put _ _ _).mpr (.inl ⟨stored, unstored other stored⟩)
      · rintro ⟨-, existing, stored, same, -⟩
        exact unstored existing stored same
  | @overwritten _ _ existing found accepted =>
      obtain ⟨stored, sameId⟩ := findDocument_id found
      have newer := accepted.current existing found
      have changed : existing ≠ overwrittenDocument request existing := by
        intro same
        rw [same] at newer
        exact lt_irrefl _ newer
      rw [sparesOthers_put_iff stored sameId changed]
      have held : WriteAccepted store (.upsert request) := by
        refine ⟨existing.documentUuid, ?_⟩
        unfold upsertedUuid
        rw [found]
        exact accepted
      constructor
      · rintro own ⟨-, other, otherStored, same, foreign⟩
        rw [documents_eq_of_id otherStored stored (same.trans sameId.symm)] at foreign
        exact foreign own
      · intro untaken
        by_contra foreign
        exact untaken ⟨held, existing, stored, sameId, foreign⟩
  | failed unsuccessful =>
      refine iff_of_true (sparesOthers_refl clientId store) ?_
      rintro ⟨⟨documentUuid, held⟩, existing, stored, same, -⟩
      obtain ⟨answer, answered, succeeded⟩ :=
        succeeds documentUuid existing (findDocument_id_eq stored same) held
      rw [unsuccessful answer answered] at succeeded
      cases succeeded

/-- An update of a client's own document spares the documents of others unless its new identity
is taken. -/
theorem update_spares_iff {request : UpdateRequest}
    (own : ∀ document ∈ documents store, document.documentUuid = request.documentUuid →
      document.createdBy = clientId) :
    SparesOthers clientId store (updateDocumentByDocumentUuid generated request store).2 ↔
      ¬ Takes clientId store (.update request) := by
  have effect := perform_effect store (.update generated request)
  have moved : ∀ existing other, OverwritesOther store request existing other →
      updateDocumentByDocumentUuid generated request store =
        (.ok .updateSuccess, (withoutDocument store existing).put
          (.document (movedDocument request existing))) := by
    intro existing other overwrites
    obtain ⟨admitted, moves⟩ := overwrites.moves generated.first
    exact updateDocument_moved admitted moves
  change CallEffect store _
    ((updateDocumentByDocumentUuid generated request store).1.map RepositoryResult.update)
    (updateDocumentByDocumentUuid generated request store).2 at effect
  by_cases overwrites : ∃ existing other, OverwritesOther store request existing other
  · obtain ⟨existing, other, overwrites⟩ := overwrites
    obtain ⟨stored, sameUuid⟩ := findDocument_documentUuid overwrites.found
    obtain ⟨otherStored, sameId⟩ := findDocument_id overwrites.claimed
    have taken : Takes clientId store (.update request) ↔ other.createdBy ≠ clientId := by
      constructor
      · rintro ⟨first, second, again, foreign⟩
        obtain rfl : other = second :=
          Option.some.inj (overwrites.claimed.symm.trans again.claimed)
        exact foreign
      · exact fun foreign => ⟨existing, other, overwrites, foreign⟩
    rw [moved existing other overwrites, taken, not_not]
    constructor
    · intro spares
      by_contra foreign
      rcases (mem_documents_put _ _ _).mp (spares other otherStored foreign) with
        ⟨-, different⟩ | equal
      · exact different sameId
      · have newer := overwrites.otherNewer
        rw [equal] at newer
        exact lt_irrefl _ newer
    · intro otherOwn document documentStored foreign
      apply (mem_documents_put _ _ _).mpr
      left
      constructor
      · apply (mem_documents_erase _ _ _).mpr
        refine ⟨documentStored, fun same => foreign ?_⟩
        rw [documents_eq_of_id documentStored stored same]
        exact own existing stored sameUuid
      · intro same
        apply foreign
        rw [documents_eq_of_id documentStored otherStored (same.trans sameId.symm)]
        exact otherOwn
  · refine iff_of_true ?_ ?_
    · generalize (updateDocumentByDocumentUuid generated request store).1.map
        RepositoryResult.update = result at effect
      generalize (updateDocumentByDocumentUuid generated request store).2 = following at effect ⊢
      cases effect with
      | @replaced _ _ existing admitted found =>
          obtain ⟨stored, sameId, sameUuid⟩ := replaceable_some found
          intro document documentStored foreign
          apply (mem_documents_put _ _ _).mpr
          refine .inl ⟨documentStored, fun same => foreign ?_⟩
          rw [documents_eq_of_id documentStored stored same]
          exact own existing stored sameUuid
      | @moved _ _ documentUuid existing inside admitted moves =>
          obtain ⟨stored, sameUuid⟩ := findDocument_documentUuid moves.deletable.found
          intro document documentStored foreign
          have kept : document ∈ documents (withoutDocument store existing) := by
            apply (mem_documents_erase _ _ _).mpr
            refine ⟨documentStored, fun same => foreign ?_⟩
            rw [documents_eq_of_id documentStored stored same]
            exact own existing stored sameUuid
          refine (mem_documents_put _ _ _).mpr (.inl ⟨kept, fun same => ?_⟩)
          have claimed := findDocument_id_eq kept same
          exact overwrites ⟨existing, document, moves.overwrites admitted claimed⟩
      | failed unsuccessful => exact sparesOthers_refl clientId store
    · rintro ⟨existing, other, held, -⟩
      exact overwrites ⟨existing, other, held⟩

/-- A delete of a client's own document spares the documents of others. -/
theorem delete_spares {request : DeleteRequest}
    (own : ∀ document ∈ documents store, document.documentUuid = request.documentUuid →
      document.createdBy = clientId) :
    SparesOthers clientId store (deleteDocumentByDocumentUuid generated request store).2 := by
  have effect := perform_effect store (.delete generated request)
  change CallEffect store _
    ((deleteDocumentByDocumentUuid generated request store).1.map RepositoryResult.delete)
    (deleteDocumentByDocumentUuid generated request store).2 at effect
  generalize (deleteDocumentByDocumentUuid generated request store).1.map
    RepositoryResult.delete = result at effect
  generalize (deleteDocumentByDocumentUuid generated request store).2 = following at effect ⊢
  cases effect with
  | @deleted _ _ deleted accepted =>
      obtain ⟨stored, sameUuid⟩ := findDocument_documentUuid accepted.found
      intro document documentStored foreign
      apply (mem_documents_erase _ _ _).mpr
      refine ⟨documentStored, fun same => foreign ?_⟩
      rw [documents_eq_of_id documentStored stored same]
      exact own deleted stored sameUuid
  | failed unsuccessful => exact sparesOthers_refl clientId store

section Checks
variable {validated : FrontendRequest} {result : SecurityResult} {checked : Store}

/-- The check of a path lets only the creator of its document pass. -/
theorem own_of_named {documentUuid : DocumentUuid} (orderly : Orderly store)
    (owner : validated.middleware.security = ⟨.ownershipBased, clientId⟩)
    (writes : ¬ ReadsDescriptor validated)
    (named : validated.middleware.pathComponents.documentUuid = some documentUuid)
    (answered : guardAnswer (documentStore generated) validated store = (.ok result, checked))
    (permits : result.permits = true) :
    ∀ document ∈ documents store, document.documentUuid = documentUuid →
      document.createdBy = clientId := by
  intro document stored same
  cases found : findDocument store (.documentUuid documentUuid) with
  | none =>
      have refused := findDocument_none found stored
      simp only [Filter.matches, decide_eq_false_iff_not] at refused
      exact absurd same refused
  | some other =>
      obtain ⟨otherStored, otherSame⟩ := findDocument_documentUuid found
      obtain rfl := orderly.uuidsUnique document stored other otherStored
        (same.trans otherSame.symm)
      obtain ⟨answer, served, permitted⟩ := (serves_of_found generated found).guard named
      obtain rfl : answer = result :=
        Except.ok.inj (congrArg Prod.fst (served.symm.trans answered))
      rcases permitted.mp permits with unchecked | reads | own
      · rw [owner] at unchecked
        exact absurd rfl unchecked
      · exact absurd reads writes
      · rw [owner] at own
        exact own

/-- The check of a POST without a uuid in its path lets only the creator of the document with the
identity of the body pass. -/
theorem own_of_posted (owner : validated.middleware.security = ⟨.ownershipBased, clientId⟩)
    (action : validated.action = .upsert)
    (unnamed : validated.middleware.pathComponents.documentUuid = none)
    (answered : guardAnswer (documentStore generated) validated store = (.ok result, checked))
    (permits : result.permits = true) :
    ∀ document ∈ documents store, document.id = (upsertRequestFrom validated).meadowlarkId →
      document.createdBy = clientId := by
  intro document stored same
  have searched : run store (findOne (.id (upsertRequestFrom validated).meadowlarkId) .whole false)
      store = .ok (some document, store) := by
    rw [← findDocument_id_eq stored same]
    exact run_findOne_whole _
  have checks : run store (rejectByOwnershipSecurity validated) store =
      .ok (accessFor validated (some document), store) := by
    unfold rejectByOwnershipSecurity extractMeadowlarkIdIfUpsert
    rw [unnamed, action]
    refine (congrArg (run store · store) (if_neg ?_)).trans ?_
    · rintro ⟨-, reads | reads⟩ <;> cases reads
    · exact (run_bind_ok searched).trans (run_pure _)
  have served : guardAnswer (documentStore generated) validated store =
      (.ok (accessFor validated (some document)), store) := by
    unfold run at checks
    unfold guardAnswer
    rw [owner, if_pos rfl]
    dsimp only [documentStore]
    rw [checks]
  obtain rfl : accessFor validated (some document) = result :=
    Except.ok.inj (congrArg Prod.fst (served.symm.trans answered))
  unfold accessFor at permits
  rw [owner] at permits
  dsimp only at permits
  by_contra foreign
  rw [if_neg foreign] at permits
  cases permits

end Checks

section Turns
variable [DocumentProcessing] {Memory : Type} {services : Services Memory}
  {turn : Turn GeneratedUuids} {world : Store × Memory}

/-- The write of an admitted request spares the documents of others unless it takes one of them
and is not checked by the identity of its body. -/
theorem reaches_spares_iff {validated : FrontendRequest} {checked : Store} {write : WriteRequest}
    (orderly : Orderly world.1) (serves : turn.ServesOwner services world.2 clientId)
    (reaches : turn.Reaches documentStore services world validated checked write) :
    SparesOthers clientId world.1 (write.contents (documentStore turn.generated) checked) ↔
      ¬ ((turn.entryPoint = .upsert →
        validated.middleware.pathComponents.documentUuid.isSome = true) ∧
          Takes clientId world.1 write) := by
  obtain ⟨contents, memory⟩ := world
  obtain ⟨⟨following, admitted, planned, -⟩, result, answered, permits⟩ := reaches
  have owner := serves validated following admitted
  have action := admitted.action
  obtain rfl : contents = checked :=
    (guardAnswer_store turn.generated validated).symm.trans (congrArg Prod.snd answered)
  dsimp only at orderly answered ⊢
  have writes : ¬ ReadsDescriptor validated := by
    rintro ⟨-, reads⟩
    rw [action] at reads
    have written := plannedWrite_writes planned
    cases entered : turn.entryPoint <;> simp_all [EntryPoint.action, EntryPoint.writes]
  cases write with
  | upsert request =>
      obtain ⟨posts, rfl⟩ := plannedWrite_upsert planned
      change SparesOthers clientId contents (upsertDocument turn.generated _ contents).2 ↔ _
      rw [upsert_spares_iff, not_iff_not]
      constructor
      · intro taken
        refine ⟨fun _ => ?_, taken⟩
        cases named : validated.middleware.pathComponents.documentUuid with
        | some documentUuid => rfl
        | none =>
            obtain ⟨-, existing, stored, same, foreign⟩ := taken
            have posted : validated.action = .upsert := by rw [action, posts]; rfl
            exact absurd (own_of_posted owner posted named answered permits existing stored same)
              foreign
      · exact fun taken => taken.2
  | update request =>
      obtain ⟨unposted, path⟩ := plannedWrite_path planned rfl
      change SparesOthers clientId contents
        (updateDocumentByDocumentUuid turn.generated request contents).2 ↔ _
      rw [update_spares_iff (own_of_named orderly owner writes path answered permits), not_iff_not]
      exact (and_iff_right fun posts => absurd posts unposted).symm
  | delete request =>
      obtain ⟨-, path⟩ := plannedWrite_path planned rfl
      exact iff_of_true
        (delete_spares (own_of_named orderly owner writes path answered permits)) fun taken => taken.2

/-- A request spares the documents of other clients exactly when it does not intrude. -/
theorem turn_sparesOthers_iff (quiet : turn.entryPoint = .query → turn.queryHandler.Quiet)
    (orderly : Orderly world.1) (serves : turn.ServesOwner services world.2 clientId) :
    SparesOthers clientId world.1 (turn.take documentStore services world).1 ↔
      ¬ turn.Intrudes documentStore services world (Takes clientId world.1) := by
  apply turn_spares_iff quiet (sparesOthers_refl clientId world.1)
  · intro validated
    rw [guardAnswer_store]
    exact sparesOthers_refl clientId world.1
  · intro validated request
    change SparesOthers clientId world.1 (guardAnswer (documentStore turn.generated) _ _).2
    rw [guardAnswer_store]
    exact sparesOthers_refl clientId world.1
  · intro validated checked write reaches
    exact reaches_spares_iff orderly serves reaches

/-- The write generates uuids that no stored document has. -/
def FitsFresh (generated : GeneratedUuids) (store : Store) (write : WriteRequest) : Prop :=
  FreshUuids store (callOf generated write)

theorem turn_orderly (quiet : turn.entryPoint = .query → turn.queryHandler.Quiet)
    (fresh : ∀ checked write, turn.Makes documentStore services world checked write →
      FitsFresh turn.generated checked write) (orderly : Orderly world.1) :
    Orderly (turn.take documentStore services world).1 := by
  have unchanged : ∀ validated,
      (guardAnswer (documentStore turn.generated) validated world.1).2 = world.1 :=
    guardAnswer_store turn.generated
  apply turn_keeps quiet orderly
  · intro validated
    rw [unchanged]
    exact orderly
  · intro validated request
    change Orderly (guardAnswer (documentStore turn.generated) _ _).2
    rw [unchanged]
    exact orderly
  · intro checked write makes
    have fits := fresh checked write makes
    obtain ⟨validated, result, -, answered, -⟩ := makes
    obtain rfl : world.1 = checked := (unchanged validated).symm.trans (congrArg Prod.snd answered)
    rw [contents_callOf]
    exact orderly.call fits

theorem served_orderly {start : List GeneratedUuids × (Store × Memory)} {used : List GeneratedUuids}
    (served : Served documentStore services
      (fun _ world turn => turn.Fits documentStore services FitsFresh world) start used world)
    (orderly : Orderly start.2.1) : Orderly world.1 :=
  served.keeps (fun _ _ _ fitting held => turn_orderly fitting.quiet fitting.fits held) orderly

/-- The documents of a client survive the requests of other clients that do not intrude. -/
theorem served_sparesOwner {owner : String}
    {start : List GeneratedUuids × (Store × Memory)} {used : List GeneratedUuids}
    (served : Served documentStore services
      (fun _ world turn => turn.Stays documentStore services Takes FitsFresh owner world) start used
      world) (orderly : Orderly start.2.1) {document : MeadowlarkDocument}
    (stored : document ∈ documents start.2.1) (own : document.createdBy = owner) :
    document ∈ documents world.1 := by
  have kept := @Served.keeps _ _ _ _ _ _ _ _ _ _ _
    (fun store => Orderly store ∧ document ∈ documents store) served
    (fun used world turn stays held => by
      obtain ⟨clientId, stranger, serves, quietly⟩ := stays.stranger
      have spared := (turn_sparesOthers_iff stays.quiet held.1 serves).mpr quietly
      refine ⟨turn_orderly stays.quiet stays.fits held.1, spared document held.2 ?_⟩
      rw [own]
      exact stranger.symm) ⟨orderly, stored⟩
  exact kept.2

end Turns
end Meadowlark.Mongo
