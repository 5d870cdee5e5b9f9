import Meadowlark.Proof.Core.LastWrites
import Meadowlark.Proof.Mongo.Confinement
import Meadowlark.Proof.Mongo.SequentialStores

namespace Meadowlark.Mongo
open Meadowlark.Core Systems
variable [NodeRuntime] {store : Store} {deposits : Deposits}

/-- The document is the request as it is stored.
Only its uuid, its creator and its creation time are not in the request. -/
def StoredAs (request : UpsertRequest) (document : MeadowlarkDocument) : Prop :=
  document = meadowlarkDocumentFrom request.resourceInfo request.documentInfo document.documentUuid
    request.meadowlarkId request.edfiDoc request.validateDocumentReferencesExist document.createdBy
    document.createdAt request.documentInfo.requestTimestamp

instance (request : UpsertRequest) (document : MeadowlarkDocument) :
    Decidable (StoredAs request document) := inferInstanceAs (Decidable (_ = _))

/-- The collection holds exactly the documents that the published events say are stored. -/
structure Deposited (store : Store) (deposits : Deposits) : Prop where
  orderly : Orderly store
  stored : ∀ document ∈ documents store,
    ∃ request, deposits document.documentUuid = some request ∧ StoredAs request document
  present : ∀ documentUuid request, deposits documentUuid = some request →
    ∃ document ∈ documents store, document.documentUuid = documentUuid

theorem deposited_empty : Deposited Database.empty fun _ => none where
  orderly := orderly_empty
  stored _ inside := absurd inside List.not_mem_nil
  present _ _ deposit := nomatch deposit

/-- A stored document takes the place of those with its id, which have its uuid. -/
theorem Deposited.put (deposited : Deposited store deposits) {document : MeadowlarkDocument}
    {request : UpsertRequest} (storedAs : StoredAs request document)
    (aliased : document.id ∈ document.aliasMeadowlarkIds)
    (apart : ∀ other ∈ documents store,
      other.documentUuid = document.documentUuid ↔ other.id = document.id) :
    Deposited (store.put (.document document))
      (Function.update deposits document.documentUuid (some request)) where
  orderly := deposited.orderly.put aliased fun other stored => (apart other stored).mp
  stored other inside := by
    rcases (mem_documents_put _ _ _).mp inside with ⟨old, different⟩ | rfl
    · have otherUuid : other.documentUuid ≠ document.documentUuid :=
        fun same => different ((apart other old).mp same)
      rw [Function.update_of_ne otherUuid]
      exact deposited.stored other old
    · exact ⟨request, Function.update_self _ _ _, storedAs⟩
  present documentUuid other deposit := by
    by_cases same : documentUuid = document.documentUuid
    · exact ⟨document, (mem_documents_put _ _ _).mpr (.inr rfl), same.symm⟩
    · rw [Function.update_of_ne same] at deposit
      obtain ⟨old, stored, named⟩ := deposited.present documentUuid other deposit
      refine ⟨old, (mem_documents_put _ _ _).mpr (.inl ⟨stored, fun sameId => ?_⟩), named⟩
      exact same (named.symm.trans ((apart old stored).mpr sameId))

theorem Deposited.without (deposited : Deposited store deposits) {dropped : MeadowlarkDocument}
    (stored : dropped ∈ documents store) :
    Deposited (withoutDocument store dropped)
      (Function.update deposits dropped.documentUuid none) where
  orderly := deposited.orderly.without dropped
  stored document inside := by
    obtain ⟨old, different⟩ := (mem_documents_erase _ _ _).mp inside
    have otherUuid : document.documentUuid ≠ dropped.documentUuid := fun same => different
      (congrArg MeadowlarkDocument.id (deposited.orderly.uuidsUnique document old dropped stored same))
    rw [Function.update_of_ne otherUuid]
    exact deposited.stored document old
  present documentUuid request deposit := by
    have other : documentUuid ≠ dropped.documentUuid := by
      rintro rfl
      rw [Function.update_self] at deposit
      cases deposit
    rw [Function.update_of_ne other] at deposit
    obtain ⟨document, old, named⟩ := deposited.present documentUuid request deposit
    refine ⟨document, (mem_documents_erase _ _ _).mpr ⟨old, fun same => ?_⟩, named⟩
    rw [documents_eq_of_id old stored same] at named
    exact other named.symm

/-- The write generates fresh uuids and does not overwrite another document. -/
structure WritesApart (generated : GeneratedUuids) (store : Store) (write : WriteRequest) :
    Prop where
  fresh : FreshUuids store (callOf generated write)
  alone : ∀ updateRequest, write = .update updateRequest →
    ¬ ∃ existing other, OverwritesOther store updateRequest existing other

omit [NodeRuntime] in
theorem callOf_generated (generated : GeneratedUuids) (write : WriteRequest) :
    (callOf generated write).generated = generated := by
  cases write <;> rfl

section Reports
variable {write : WriteRequest} {generated : GeneratedUuids} {report : Option ListenerEvent}

/-- The event that reports the result of a repository call. -/
def reportOf : WriteRequest → RepositoryResult → Option ListenerEvent
  | .upsert request, .upsert result => some (.afterUpsertDocument request result)
  | .update request, .update result => some (.afterUpdateDocumentById request result)
  | .delete request, .delete result => some (.afterDeleteDocumentById request result)
  | _, _ => none

theorem report_callOf (generated : GeneratedUuids) (write : WriteRequest) (store : Store) :
    write.report (documentStore generated) store =
      ((callOf generated write).perform store).1.toOption.bind (reportOf write) := by
  cases write with
  | upsert request =>
      change (serveCall (upsertDocument generated request store)).1.toOption.map _ =
        ((upsertDocument generated request store).1.map RepositoryResult.upsert).toOption.bind _
      generalize upsertDocument generated request store = outcome
      obtain ⟨settled, following⟩ := outcome
      cases settled <;> rfl
  | update request =>
      change (serveCall (updateDocumentByDocumentUuid generated request store)).1.toOption.map _ =
        ((updateDocumentByDocumentUuid generated request store).1.map
          RepositoryResult.update).toOption.bind _
      generalize updateDocumentByDocumentUuid generated request store = outcome
      obtain ⟨settled, following⟩ := outcome
      cases settled <;> rfl
  | delete request =>
      change (serveCall (deleteDocumentByDocumentUuid generated request store)).1.toOption.map _ =
        ((deleteDocumentByDocumentUuid generated request store).1.map
          RepositoryResult.delete).toOption.bind _
      generalize deleteDocumentByDocumentUuid generated request store = outcome
      obtain ⟨settled, following⟩ := outcome
      cases settled <;> rfl

omit [NodeRuntime] in
/-- The report of a failure does not change the deposits. -/
theorem told_unsuccessful {result : Except DriverError RepositoryResult}
    (failed : ∀ answer, result = .ok answer → answer.succeeded = false) (deposits : Deposits) :
    depositsListener.told (result.toOption.bind (reportOf write)) deposits = deposits := by
  cases result with
  | error error => rfl
  | ok answer =>
      have unsuccessful := failed answer rfl
      cases write <;> cases answer <;> try rfl
      all_goals
        rename_i result
        cases result <;> first | rfl | cases unsuccessful

/-- An update that is made in place is made by the creator of the document. -/
def KeepsCreator (store : Store) (write : WriteRequest) : Prop :=
  ∀ request, write = .update request → UpdateAdmitted store store request →
    ∀ document, replaceable store request = some document →
      document.createdBy = request.security.clientId

/-- What a write does to the documents, with what its report tells of the deposits. -/
inductive Recorded (store : Store) (write : WriteRequest) (report : Option ListenerEvent) :
    Store → Prop
  | nothing (told : ∀ deposits, depositsListener.told report deposits = deposits) :
      Recorded store write report store
  | put {document : MeadowlarkDocument} {request : UpsertRequest}
      (told : ∀ deposits, depositsListener.told report deposits =
        Function.update deposits document.documentUuid (some request))
      (storedAs : StoredAs request document)
      (aliased : document.id ∈ document.aliasMeadowlarkIds)
      (apart : ∀ other ∈ documents store,
        other.documentUuid = document.documentUuid ↔ other.id = document.id)
      (credited : KeepsCreator store write → document.createdBy = request.security.clientId) :
      Recorded store write report (store.put (.document document))
  | moved {existing document : MeadowlarkDocument} {request : UpsertRequest}
      (stored : existing ∈ documents store)
      (same : existing.documentUuid = document.documentUuid)
      (told : ∀ deposits, depositsListener.told report deposits =
        Function.update deposits document.documentUuid (some request))
      (storedAs : StoredAs request document)
      (aliased : document.id ∈ document.aliasMeadowlarkIds)
      (apart : ∀ other ∈ documents (withoutDocument store existing),
        other.documentUuid = document.documentUuid ↔ other.id = document.id)
      (credited : document.createdBy = request.security.clientId) :
      Recorded store write report ((withoutDocument store existing).put (.document document))
  | removed {existing : MeadowlarkDocument} (stored : existing ∈ documents store)
      (told : ∀ deposits, depositsListener.told report deposits =
        Function.update deposits existing.documentUuid none) :
      Recorded store write report (withoutDocument store existing)

omit [NodeRuntime] in
/-- The ids of the stored documents lead to their uuids. -/
theorem Orderly.apart (orderly : Orderly store) {existing other : MeadowlarkDocument}
    (stored : existing ∈ documents store) (otherStored : other ∈ documents store) :
    other.documentUuid = existing.documentUuid ↔ other.id = existing.id := by
  constructor
  · intro same
    rw [orderly.uuidsUnique other otherStored existing stored same]
  · intro same
    rw [documents_eq_of_id otherStored stored same]

omit [NodeRuntime] in
/-- A moved document shares neither its uuid nor its new id with the documents that are left. -/
theorem apart_moved (orderly : Orderly store) {request : UpdateRequest}
    {existing other : MeadowlarkDocument} (stored : existing ∈ documents store)
    (sameUuid : existing.documentUuid = request.documentUuid)
    (unclaimed : findDocument (withoutDocument store existing) (.id request.meadowlarkId) = none)
    (left : other ∈ documents (withoutDocument store existing)) :
    other.documentUuid = request.documentUuid ↔ other.id = request.meadowlarkId := by
  obtain ⟨old, different⟩ := (mem_documents_erase _ _ _).mp left
  refine iff_of_false (fun same => ?_) (fun same => ?_)
  · have identical := orderly.uuidsUnique other old existing stored (same.trans sameUuid.symm)
    exact different (congrArg MeadowlarkDocument.id identical)
  · have refused := findDocument_none unclaimed left
    simp only [Filter.matches, decide_eq_false_iff_not] at refused
    exact refused same

/-- Every write has one of these effects, with the report of it. -/
theorem recorded (orderly : Orderly store) (writes : WritesApart generated store write) :
    Recorded store write (write.report (documentStore generated) store)
      (write.contents (documentStore generated) store) := by
  have effect := perform_effect store (callOf generated write)
  have fresh := writes.fresh
  unfold FreshUuids at fresh
  rw [callOf_generated] at fresh
  rw [contents_callOf, report_callOf]
  generalize (callOf generated write).perform store = outcome at effect
  obtain ⟨result, following⟩ := outcome
  cases write with
  | upsert request =>
      change CallEffect store (.upsert generated request) result following at effect
      cases effect with
      | @inserted _ _ documentUuid inside absent accepted =>
          refine .put (fun _ => rfl) rfl List.mem_cons_self (fun other stored => ?_) fun _ => rfl
          refine iff_of_false (fresh documentUuid inside other stored) fun same => ?_
          have refused := findDocument_none absent stored
          simp only [Filter.matches, decide_eq_false_iff_not] at refused
          exact refused same
      | @overwritten _ _ existing found accepted =>
          obtain ⟨stored, sameId⟩ := findDocument_id found
          refine .put (fun _ => rfl) rfl List.mem_cons_self (fun other otherStored => ?_) fun _ => rfl
          change other.documentUuid = existing.documentUuid ↔ other.id = request.meadowlarkId
          rw [← sameId]
          exact orderly.apart stored otherStored
      | failed unsuccessful => exact .nothing (told_unsuccessful unsuccessful)
  | update request =>
      change CallEffect store (.update generated request) result following at effect
      cases effect with
      | @replaced _ _ existing admitted found =>
          obtain ⟨stored, sameId, sameUuid⟩ := replaceable_some found
          have storedAs : StoredAs request.toUpsertRequest
              (setFields existing (documentFromUpdateRequest request)) := by
            unfold StoredAs setFields
            rw [sameId]
            rfl
          refine .put (fun deposits => ?_) storedAs ?_ (fun other otherStored => ?_) fun keeps =>
            keeps request rfl admitted existing found
          · change Function.update deposits request.documentUuid _ =
              Function.update deposits existing.documentUuid _
            rw [sameUuid]
          · change existing.id ∈ request.meadowlarkId :: _
            rw [sameId]
            exact List.mem_cons_self
          · change other.documentUuid = existing.documentUuid ↔ other.id = existing.id
            exact orderly.apart stored otherStored
      | @moved _ _ documentUuid existing inside admitted moves =>
          obtain ⟨stored, sameUuid⟩ := findDocument_documentUuid moves.deletable.found
          have unclaimed : findDocument (withoutDocument store existing)
              (.id request.meadowlarkId) = none := by
            cases claimed : findDocument (withoutDocument store existing)
                (.id request.meadowlarkId) with
            | none => rfl
            | some other =>
                exact absurd ⟨existing, other, UpdateMoves.overwrites admitted moves claimed⟩
                  (writes.alone request rfl)
          exact .moved stored sameUuid (fun _ => rfl) rfl List.mem_cons_self
            (fun other left => apart_moved orderly stored sameUuid unclaimed left) rfl
      | failed unsuccessful => exact .nothing (told_unsuccessful unsuccessful)
  | delete request =>
      change CallEffect store (.delete generated request) result following at effect
      cases effect with
      | @deleted _ _ deleted accepted =>
          obtain ⟨stored, sameUuid⟩ := findDocument_documentUuid accepted.found
          refine .removed stored fun deposits => ?_
          change Function.update deposits request.documentUuid none = _
          rw [sameUuid]
      | failed unsuccessful => exact .nothing (told_unsuccessful unsuccessful)

theorem Deposited.written (deposited : Deposited store deposits) 
    (writes : WritesApart generated store write) :
    Deposited (write.contents (documentStore generated) store)
      (depositsListener.told (write.report (documentStore generated) store) deposits) := by
  have record := recorded deposited.orderly writes
  generalize write.contents (documentStore generated) store = following at record
  cases record with
  | nothing told =>
      rw [told]
      exact deposited
  | put told storedAs aliased apart credited =>
      rw [told]
      exact deposited.put storedAs aliased apart
  | @moved existing document request stored same told storedAs aliased apart credited =>
      have put := (deposited.without stored).put storedAs aliased apart
      rw [same, Function.update_idem] at put
      rw [told]
      exact put
  | removed stored told =>
      rw [told]
      exact deposited.without stored

end Reports

/-- Along a run the collection stays in agreement with the deposits. -/
theorem keptDeposited : KeptByRequests documentStore depositsListener
    (fun generated store _ write => WritesApart generated store write) Deposited where
  checked generated validated deposited := by
    rw [guardAnswer_store]
    exact deposited
  read _ _ deposited := deposited
  written deposited writes := deposited.written writes

/-- The check and the read search for the uuid in vain. -/
theorem lacks_of_none (generated : GeneratedUuids) {documentUuid : DocumentUuid}
    (absent : findDocument store (.documentUuid documentUuid) = none) :
    (documentStore generated).Lacks store documentUuid where
  checked frontendRequest named := by
    have searched : run store (findOne (.documentUuid documentUuid) .whole false) store =
        .ok (none, store) := by
      rw [← absent]
      exact run_findOne_whole _
    have answered : run store (rejectByOwnershipSecurity frontendRequest) store =
        .ok (.notApplicable, store) := by
      unfold rejectByOwnershipSecurity
      by_cases reads : ReadsDescriptor frontendRequest
      · exact congrArg (run store · store) (if_pos reads)
      · refine (congrArg (run store · store) (if_neg reads)).trans ?_
        rw [named]
        dsimp only
        rw [run_bind_ok searched, run_pure]
        rfl
    unfold run at answered
    dsimp only [documentStore]
    rw [answered]
  read getRequest named := by
    change (Except.ok (getDocumentByDocumentUuid getRequest store), store) = _
    unfold getDocumentByDocumentUuid
    rw [named, absent]

theorem Deposited.serves (deposited : Deposited store deposits) (generated : GeneratedUuids)
    (documentUuid : DocumentUuid) :
    (documentStore generated).ServesDeposits store id deposits documentUuid where
  present request deposit := by
    cases found : findDocument store (.documentUuid documentUuid) with
    | none =>
        obtain ⟨document, stored, named⟩ := deposited.present documentUuid request deposit
        have refused := findDocument_none found stored
        simp only [Filter.matches, decide_eq_false_iff_not] at refused
        exact absurd named refused
    | some document =>
        obtain ⟨stored, named⟩ := findDocument_documentUuid found
        obtain ⟨other, same, storedAs⟩ := deposited.stored document stored
        rw [named, deposit, Option.some.injEq] at same
        subst same
        refine ⟨storedDocument document, serves_of_found generated found, ?_, ?_⟩
        · exact congrArg MeadowlarkDocument.edfiDoc storedAs
        · exact congrArg MeadowlarkDocument.lastModifiedAt storedAs
  absent deposit := by
    apply lacks_of_none
    cases found : findDocument store (.documentUuid documentUuid) with
    | none => rfl
    | some document =>
        obtain ⟨stored, named⟩ := findDocument_documentUuid found
        obtain ⟨request, same, -⟩ := deposited.stored document stored
        rw [named, deposit] at same
        cases same

end Meadowlark.Mongo
