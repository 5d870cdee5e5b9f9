import Meadowlark.Proof.Core.Blocking
import Meadowlark.Proof.Mongo.SequentialStores

namespace Meadowlark.Mongo
open Meadowlark.Core Systems

/-- The document refers to one of the aliases of the other. -/
def RefersTo (document other : MeadowlarkDocument) : Prop :=
  ∃ id ∈ other.aliasMeadowlarkIds, id ∈ document.outboundRefs

instance (document other : MeadowlarkDocument) : Decidable (RefersTo document other) :=
  inferInstanceAs (Decidable (∃ id ∈ other.aliasMeadowlarkIds, _))

section Deletes
variable {store : Store} {deleteRequest : DeleteRequest} {deleted : MeadowlarkDocument}

theorem outboundRefs_matches {document : MeadowlarkDocument} :
    (Filter.outboundRefs deleted.aliasMeadowlarkIds).matches document = true ↔
      RefersTo document deleted := by
  unfold RefersTo
  simp only [Filter.matches, List.any_eq_true, decide_eq_true_eq]
  constructor
  · rintro ⟨id, listed, held⟩
    exact ⟨id, held, listed⟩
  · rintro ⟨id, held, listed⟩
    exact ⟨id, listed, held⟩

/-- The report of a refused delete. -/
def referrers (store : Store) (deleted : MeadowlarkDocument) : List ReferringDocumentInfo :=
  ((findDocuments store (.outboundRefs deleted.aliasMeadowlarkIds)).take 5).map
    referringDocumentInfoFrom

theorem run_findReferringDocumentInfo {committed view : Store} (ids : List MeadowlarkId) :
    run committed (findReferringDocumentInfo ids) view =
      .ok (((findDocuments view (.outboundRefs ids)).take 5).map referringDocumentInfoFrom,
        view) := by
  have limited : ((findDocuments view (.outboundRefs ids)).map
      (Projection.whole.apply (.outboundRefs ids))).take 5 =
        (findDocuments view (.outboundRefs ids)).take 5 := by
    rw [show (findDocuments view (.outboundRefs ids)).map
      (Projection.whole.apply (.outboundRefs ids)) = findDocuments view (.outboundRefs ids) from
        List.map_id' _]
  unfold findReferringDocumentInfo
  rw [run_bind_ok (run_findLimited _ _ _), limited, run_pure]

theorem deleteDocument_absent (generated : GeneratedUuids)
    (validates : deleteRequest.validateNoReferencesToDocument = true)
    (absent : findDocument store (.documentUuid deleteRequest.documentUuid) = none) :
    deleteDocumentByDocumentUuid generated deleteRequest store =
      (.ok .deleteFailureNotExists, store) := by
  have searched : run store (deleteDocumentByMeadowlarkIdTransaction deleteRequest.documentUuid
      deleteRequest.validateNoReferencesToDocument) store =
        .ok (.deleteFailureNotExists, store) := by
    unfold deleteDocumentByMeadowlarkIdTransaction checkForReferencesToDocument
    rw [if_pos validates, bind_assoc, run_bind_ok (run_findOne_whole _), absent]
    rfl
  have aborted : withTransaction DeleteResult.succeeded _ store = _ :=
    withTransaction_failed searched rfl
  unfold deleteDocumentByDocumentUuid
  rw [retry_first aborted]
  rfl

/-- A referring document refuses the delete, whichever document it is. -/
theorem deleteDocument_referenced (generated : GeneratedUuids)
    (validates : deleteRequest.validateNoReferencesToDocument = true)
    (found : findDocument store (.documentUuid deleteRequest.documentUuid) = some deleted)
    {referring : MeadowlarkDocument}
    (refers : findDocument store (.outboundRefs deleted.aliasMeadowlarkIds) = some referring) :
    deleteDocumentByDocumentUuid generated deleteRequest store =
      (.ok (.deleteFailureReference (referrers store deleted)), store) := by
  have searched : run store (deleteDocumentByMeadowlarkIdTransaction deleteRequest.documentUuid
      deleteRequest.validateNoReferencesToDocument) store =
        .ok (.deleteFailureReference (referrers store deleted), store) := by
    unfold deleteDocumentByMeadowlarkIdTransaction checkForReferencesToDocument
    rw [if_pos validates, bind_assoc, run_bind_ok (run_findOne_whole _), found]
    simp only
    rw [bind_assoc, run_bind_ok (run_findOne _ _), refers]
    simp only [Option.map_some]
    rw [bind_assoc, run_bind_ok (run_findReferringDocumentInfo _)]
    rfl
  have aborted : withTransaction DeleteResult.succeeded _ store = _ :=
    withTransaction_failed searched rfl
  unfold deleteDocumentByDocumentUuid
  rw [retry_first aborted]
  rfl

/-- The report names stored documents that refer to the deleted one. -/
theorem referrers_report {named : MeadowlarkDocument → Prop} (stored : deleted ∈ documents store)
    (same : named deleted) {referring : MeadowlarkDocument}
    (refers : findDocument store (.outboundRefs deleted.aliasMeadowlarkIds) = some referring) :
    ReportsReferrers (documents store) referringDocumentInfoFrom named RefersTo
      (referrers store deleted) := by
  obtain ⟨referringStored, matched⟩ := findDocument_some refers
  have listed : referring ∈ findDocuments store (.outboundRefs deleted.aliasMeadowlarkIds) :=
    List.mem_filter.mpr ⟨referringStored, matched⟩
  unfold referrers
  refine ⟨report_filled listed, report_few, ?_⟩
  intro info reported
  obtain ⟨document, taken, rfl⟩ := List.mem_map.mp reported
  obtain ⟨documentStored, documentMatched⟩ := List.mem_filter.mp (List.mem_of_mem_take taken)
  exact ⟨document, documentStored, rfl, deleted, stored, same,
    outboundRefs_matches.mp documentMatched⟩

/-- A document that refers to itself is its only referrer. -/
def OnlySelfReferenced (store : Store) (documentUuid : DocumentUuid) : Prop :=
  ∃ document ∈ documents store, document.documentUuid = documentUuid ∧
    RefersTo document document ∧ ¬ ReferencedByOthers (documents store) RefersTo document

instance (store : Store) (documentUuid : DocumentUuid) :
    Decidable (OnlySelfReferenced store documentUuid) :=
  inferInstanceAs (Decidable (∃ document ∈ documents store, _ ∧ _ ∧ ¬ _))

theorem namedAlone (orderly : Orderly store)
    (found : findDocument store (.documentUuid deleteRequest.documentUuid) = some deleted) :
    NamedAlone (documents store) (·.documentUuid = deleteRequest.documentUuid) deleted := by
  obtain ⟨stored, same⟩ := findDocument_documentUuid found
  refine ⟨stored, same, ?_⟩
  intro other otherStored otherSame
  exact orderly.uuidsUnique other otherStored deleted stored (otherSame.trans same.symm)

/-- A validated delete decides by the other documents exactly when the document is not its own
only referrer. -/
theorem deleteDocument_decides_iff (orderly : Orderly store) (generated : GeneratedUuids)
    (validates : deleteRequest.validateNoReferencesToDocument = true) :
    (∃ result, (deleteDocumentByDocumentUuid generated deleteRequest store).1 = .ok result ∧
      DecidesByOthers (documents store)
        (documents (deleteDocumentByDocumentUuid generated deleteRequest store).2)
        (·.documentUuid = deleteRequest.documentUuid) RefersTo result) ↔
      ¬ OnlySelfReferenced store deleteRequest.documentUuid := by
  cases found : findDocument store (.documentUuid deleteRequest.documentUuid) with
  | none =>
      have absent : ∀ document ∈ documents store,
          document.documentUuid ≠ deleteRequest.documentUuid := by
        intro document stored
        simpa [Filter.matches] using findDocument_none found stored
      rw [deleteDocument_absent generated validates found]
      apply iff_of_true ⟨_, rfl, decides_absent absent⟩
      rintro ⟨document, stored, same, -⟩
      exact absent document stored same
  | some deleted =>
      have alone := namedAlone orderly found
      cases refers : findDocument store (.outboundRefs deleted.aliasMeadowlarkIds) with
      | none =>
          have unreferenced : ∀ other ∈ documents store, ¬ RefersTo other deleted := by
            intro other stored referring
            have matched := outboundRefs_matches.mpr referring
            rw [findDocument_none refers stored] at matched
            exact absurd matched (by decide)
          have accepted : DeleteAccepted store deleteRequest.documentUuid
              deleteRequest.validateNoReferencesToDocument deleted :=
            { found := found
              unreferenced := fun _ => refers
              lockable := ⟨List.nodup_singleton _, fun documentUuid _ => orderly.unlocked _⟩ }
          rw [deleteDocument_accepted generated accepted]
          apply iff_of_true
          · refine ⟨_, rfl, decides_deleted alone ?_ ?_⟩
            · rintro ⟨other, stored, -, referring⟩
              exact unreferenced other stored referring
            · intro other
              rw [mem_documents_erase]
              apply and_congr_right
              intro stored
              constructor
              · rintro different rfl
                exact different rfl
              · intro different same
                exact different (documents_eq_of_id stored alone.1 same)
          · rintro ⟨document, stored, same, referring, -⟩
            rw [alone.2.2 document stored same] at referring
            exact unreferenced deleted alone.1 referring
      | some referring =>
          rw [deleteDocument_referenced generated validates found refers]
          constructor
          · rintro ⟨result, answered, decides⟩ ⟨document, stored, same, -, unreferenced⟩
            obtain rfl := Except.ok.inj answered
            rw [alone.2.2 document stored same] at unreferenced
            exact unreferenced ((decides_refused_iff alone).mp decides)
          · intro others
            refine ⟨_, rfl, (decides_refused_iff alone).mpr ?_⟩
            by_contra unreferenced
            obtain ⟨referringStored, matched⟩ := findDocument_some refers
            have refersTo := outboundRefs_matches.mp matched
            have own : referring = deleted := by
              by_contra different
              exact unreferenced ⟨referring, referringStored, different, refersTo⟩
            rw [own] at refersTo
            exact others ⟨deleted, alone.1, alone.2.1, refersTo, unreferenced⟩

theorem deleteDocument_unvalidated_absent (unlocked : Unlocked store) (generated : GeneratedUuids)
    (unvalidated : ¬ deleteRequest.validateNoReferencesToDocument = true)
    (absent : findDocument store (.documentUuid deleteRequest.documentUuid) = none) :
    deleteDocumentByDocumentUuid generated deleteRequest store =
      (.ok .deleteFailureNotExists, store) := by
  have lockable : Lockable store [deleteRequest.documentUuid] :=
    ⟨List.nodup_singleton _, fun documentUuid _ => unlocked documentUuid⟩
  have searched : run store (deleteDocumentByMeadowlarkIdTransaction deleteRequest.documentUuid
      deleteRequest.validateNoReferencesToDocument) store =
        .ok (.deleteFailureNotExists, store) := by
    unfold deleteDocumentByMeadowlarkIdTransaction performDelete
    rw [if_neg unvalidated, run_bind_ok (run_lockDocuments lockable),
      run_bind_ok (run_deleteOne_none absent)]
    rfl
  have aborted : withTransaction DeleteResult.succeeded _ store = _ :=
    withTransaction_failed searched rfl
  unfold deleteDocumentByDocumentUuid
  rw [retry_first aborted]
  rfl

/-- The report of a refused delete is right. -/
theorem deleteDocument_reports (unlocked : Unlocked store) {generated : GeneratedUuids}
    {referringDocumentInfo : List ReferringDocumentInfo}
    (refused : (deleteDocumentByDocumentUuid generated deleteRequest store).1 =
      .ok (.deleteFailureReference referringDocumentInfo)) :
    ReportsReferrers (documents store) referringDocumentInfoFrom
      (·.documentUuid = deleteRequest.documentUuid) RefersTo referringDocumentInfo := by
  cases found : findDocument store (.documentUuid deleteRequest.documentUuid) with
  | none =>
      by_cases validates : deleteRequest.validateNoReferencesToDocument = true
      · rw [deleteDocument_absent generated validates found] at refused
        cases refused
      · rw [deleteDocument_unvalidated_absent unlocked generated validates found] at refused
        cases refused
  | some deleted =>
      obtain ⟨stored, same⟩ := findDocument_documentUuid found
      by_cases accepted : deleteRequest.validateNoReferencesToDocument = true →
          findDocument store (.outboundRefs deleted.aliasMeadowlarkIds) = none
      · have passes : DeleteAccepted store deleteRequest.documentUuid
            deleteRequest.validateNoReferencesToDocument deleted :=
          { found := found
            unreferenced := accepted
            lockable := ⟨List.nodup_singleton _, fun documentUuid _ => unlocked documentUuid⟩ }
        rw [deleteDocument_accepted generated passes] at refused
        cases refused
      · obtain ⟨validates, refers⟩ := Classical.not_imp.mp accepted
        obtain ⟨referring, refers⟩ := Option.ne_none_iff_exists'.mp refers
        rw [deleteDocument_referenced generated validates found refers] at refused
        cases refused
        exact referrers_report stored same refers

end Deletes

section Conflicts
variable [NodeRuntime] {store : Store}

/-- The report of a conflict describes a document that holds the claimed alias. -/
def ReportsConflict (store : Store) (upsertRequest : UpsertRequest)
    (referringDocumentInfo : List ReferringDocumentInfo) : Prop :=
  ∃ superclassInfo ∈ upsertRequest.documentInfo.superclassInfo,
    ReportsHolders (documents store) referringDocumentInfoFrom
      (getMeadowlarkIdForSuperclassInfo superclassInfo ∈ ·.aliasMeadowlarkIds)
      referringDocumentInfo

theorem checkSuperclassIdentity_reports {committed following : Store} {upsertRequest : UpsertRequest}
    {isInsert : Bool} {failureMessage : Option FailureMessage}
    {referringDocumentInfo : List ReferringDocumentInfo}
    (done : run committed (checkSuperclassIdentity upsertRequest isInsert) store =
      .ok (some (.insertFailureConflict failureMessage referringDocumentInfo), following)) :
    ReportsConflict store upsertRequest referringDocumentInfo := by
  unfold checkSuperclassIdentity at done
  split at done
  · rename_i superclassInfo present
    rw [run_bind_ok (run_findOne_whole _)] at done
    cases inUse : findDocument store
        (.aliasMeadowlarkId (getMeadowlarkIdForSuperclassInfo superclassInfo)) with
    | none =>
        rw [inUse] at done
        cases done
    | some document =>
        rw [inUse] at done
        cases done
        obtain ⟨stored, held⟩ := findDocument_some inUse
        refine ⟨superclassInfo, present, List.cons_ne_nil _ _, ?_⟩
        intro info reported
        rw [List.mem_singleton.mp reported]
        exact ⟨document, stored, rfl, by simpa [Filter.matches] using held⟩
  · cases done

theorem checkUpsertReferences_unconflicted {committed following : Store}
    {upsertRequest : UpsertRequest} {isInsert : Bool} {failure : Option UpsertResult}
    (done : run committed (checkUpsertReferences upsertRequest isInsert) store =
      .ok (failure, following)) (failureMessage : Option FailureMessage)
    (referringDocumentInfo : List ReferringDocumentInfo) :
    failure ≠ some (.insertFailureConflict failureMessage referringDocumentInfo) := by
  unfold checkUpsertReferences at done
  split at done
  · rw [run_bind_ok (run_validateReferences _)] at done
    split at done
    · cases done
      exact nofun
    · rw [run_bind_ok (run_findReferringDocumentInfo _)] at done
      cases done
      split <;> exact nofun
  · cases done
    exact nofun

omit [NodeRuntime] in
theorem writeDocument_unconflicted {committed following : Store} {upsertRequest : UpsertRequest}
    {documentUuid : DocumentUuid} {document : MeadowlarkDocument} {result : UpsertResult}
    (done : run committed (writeDocument upsertRequest documentUuid document) store =
      .ok (result, following)) (failureMessage : Option FailureMessage)
    (referringDocumentInfo : List ReferringDocumentInfo) :
    result ≠ .insertFailureConflict failureMessage referringDocumentInfo := by
  unfold writeDocument at done
  obtain ⟨_, _, -, done⟩ := run_bind_done done
  obtain ⟨answer, _, -, done⟩ := run_bind_done done
  cases done
  split
  · exact nofun
  · split
    · exact nofun
    · split <;> exact nofun

/-- The conflict report describes the document that holds the claimed alias. -/
theorem upsertDocument_reports {generated : GeneratedUuids} {upsertRequest : UpsertRequest}
    {failureMessage : Option FailureMessage} {referringDocumentInfo : List ReferringDocumentInfo}
    (refused : (upsertDocument generated upsertRequest store).1 =
      .ok (.insertFailureConflict failureMessage referringDocumentInfo)) :
    ReportsConflict store upsertRequest referringDocumentInfo := by
  unfold upsertDocument at refused
  cases done : retry _ generated.first generated.retries with
  | error error =>
      rw [done] at refused
      cases refused
  | ok outcome =>
      rw [done] at refused
      obtain ⟨documentUuid, -, attempted⟩ := retry_ok done
      obtain ⟨view, ran⟩ := withTransaction_run attempted
      rw [Except.ok.inj refused] at ran
      unfold upsertDocumentTransaction at ran
      rw [run_bind_ok (run_findOne_whole _)] at ran
      split at ran
      · cases ran
      · obtain ⟨conflict, following, checked, ran⟩ := run_bind_done ran
        cases conflict with
        | some failure =>
            cases ran
            exact checkSuperclassIdentity_reports checked
        | none =>
            obtain ⟨invalid, _, validated, ran⟩ := run_bind_done ran
            cases invalid with
            | some failure =>
                cases ran
                exact absurd rfl (checkUpsertReferences_unconflicted validated _ _)
            | none => exact absurd rfl (writeDocument_unconflicted ran _ _)

end Conflicts
end Meadowlark.Mongo
