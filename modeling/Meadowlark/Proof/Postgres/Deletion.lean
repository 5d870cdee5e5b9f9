import Meadowlark.Proof.Core.Blocking
import Meadowlark.Proof.Postgres.SideTables

namespace Meadowlark.Postgres
open Meadowlark.Core Systems

section References
variable [NodeRuntime] {tables : Tables} {lastWrites : LastWrites} {document : MeadowlarkDocument}

/-- The aliases of a document by its last write. -/
def aliasIdsOf (lastWrites : LastWrites) (document : MeadowlarkDocument) : List MeadowlarkId :=
  document.meadowlarkId :: superclassAliasIds (lastWrites document.documentUuid)

/-- The document refers to one of the aliases of the other. -/
def RefersTo (lastWrites : LastWrites) (document other : MeadowlarkDocument) : Prop :=
  ∃ id ∈ aliasIdsOf lastWrites other, id ∈ outboundRefsFrom (lastWrites document.documentUuid)

instance (document other : MeadowlarkDocument) : Decidable (RefersTo lastWrites document other) :=
  inferInstanceAs (Decidable (∃ id ∈ aliasIdsOf lastWrites other, _))

theorem SideTablesMatch.mem_aliases (image : SideTablesMatch tables lastWrites) {row : AliasRow} :
    row ∈ tables.aliases ↔ ∃ document ∈ tables.documents,
      ∃ id ∈ aliasIdsOf lastWrites document,
        row = ⟨document.documentUuid, document.meadowlarkId, id⟩ := by
  rw [image.aliases.mem_iff, List.mem_flatMap]
  apply exists_congr
  intro document
  apply and_congr_right
  intro stored
  unfold aliasRowsOf aliasIdsOf
  rw [List.mem_map]
  exact exists_congr fun id => and_congr_right fun _ => eq_comm

theorem SideTablesMatch.mem_references (image : SideTablesMatch tables lastWrites)
    {row : ReferenceRow} :
    row ∈ tables.references ↔ ∃ document ∈ tables.documents,
      ∃ id ∈ outboundRefsFrom (lastWrites document.documentUuid),
        row = ⟨document.meadowlarkId, id⟩ := by
  rw [image.references.mem_iff, List.mem_flatMap]
  apply exists_congr
  intro document
  apply and_congr_right
  intro stored
  rw [referenceRowsOf_eq, List.mem_map]
  exact exists_congr fun id => and_congr_right fun _ => eq_comm

theorem SideTablesMatch.mem_aliasRows (image : SideTablesMatch tables lastWrites)
    (stored : document ∈ tables.documents) {row : AliasRow} :
    row ∈ aliasRows tables document.documentUuid ↔
      ∃ id ∈ aliasIdsOf lastWrites document,
        row = ⟨document.documentUuid, document.meadowlarkId, id⟩ := by
  unfold aliasRows
  rw [List.mem_filter, image.mem_aliases, decide_eq_true_iff]
  constructor
  · rintro ⟨⟨other, otherStored, id, listed, rfl⟩, same⟩
    obtain rfl := documents_eq_of_uuid otherStored stored same
    exact ⟨id, listed, rfl⟩
  · rintro ⟨id, listed, rfl⟩
    exact ⟨⟨document, stored, id, listed, rfl⟩, rfl⟩

/-- A foreign reference is a reference of the stored document with its id. -/
theorem mem_foreignReferences (image : SideTablesMatch tables lastWrites)
    (stored : document ∈ tables.documents) {id : MeadowlarkId} :
    id ∈ foreignReferences tables document.documentUuid ↔
      ∃ other ∈ tables.documents, other.meadowlarkId = id ∧ other ≠ document ∧
        RefersTo lastWrites other document := by
  unfold foreignReferences
  rw [image.deletedId stored, List.mem_filter, decide_eq_true_iff, List.mem_map]
  constructor
  · rintro ⟨⟨reference, inside, rfl⟩, foreign⟩
    obtain ⟨referenceStored, named⟩ := List.mem_filter.mp inside
    rw [decide_eq_true_iff, List.mem_map] at named
    obtain ⟨row, rowInside, same⟩ := named
    obtain ⟨other, otherStored, ref, listed, rfl⟩ := image.mem_references.mp referenceStored
    obtain ⟨aliasId, held, rfl⟩ := (image.mem_aliasRows stored).mp rowInside
    have identical : aliasId = ref := same
    refine ⟨other, otherStored, rfl, ?_, aliasId, held, identical ▸ listed⟩
    rintro rfl
    exact foreign rfl
  · rintro ⟨other, otherStored, rfl, different, aliasId, held, listed⟩
    refine ⟨⟨⟨other.meadowlarkId, aliasId⟩, List.mem_filter.mpr ⟨?_, ?_⟩, rfl⟩, ?_⟩
    · exact image.mem_references.mpr ⟨other, otherStored, aliasId, listed, rfl⟩
    · rw [decide_eq_true_iff, List.mem_map]
      exact ⟨_, (image.mem_aliasRows stored).mpr ⟨aliasId, held, rfl⟩, rfl⟩
    · intro same
      exact different (documents_eq_of_id otherStored stored same)

theorem foreignReferences_iff (image : SideTablesMatch tables lastWrites)
    (stored : document ∈ tables.documents) :
    foreignReferences tables document.documentUuid ≠ [] ↔
      ReferencedByOthers tables.documents (RefersTo lastWrites) document := by
  constructor
  · intro filled
    obtain ⟨id, inside⟩ := List.exists_mem_of_ne_nil _ filled
    obtain ⟨other, otherStored, -, different, refers⟩ := (mem_foreignReferences image stored).mp inside
    exact ⟨other, otherStored, different, refers⟩
  · rintro ⟨other, otherStored, different, refers⟩
    exact List.ne_nil_of_mem ((mem_foreignReferences image stored).mpr
      ⟨other, otherStored, rfl, different, refers⟩)

/-- The report of a refused delete. -/
def referrers (tables : Tables) (documentUuid : DocumentUuid) : List ReferringDocumentInfo :=
  ((tables.documents.filter (·.meadowlarkId ∈ foreignReferences tables documentUuid)).take 5).map
    referringDocumentInfoFrom

/-- The report names stored documents that refer to the deleted one. -/
theorem referrers_report (image : SideTablesMatch tables lastWrites)
    (stored : document ∈ tables.documents) {named : MeadowlarkDocument → Prop}
    (same : named document) (referenced : foreignReferences tables document.documentUuid ≠ []) :
    ReportsReferrers tables.documents referringDocumentInfoFrom named (RefersTo lastWrites)
      (referrers tables document.documentUuid) := by
  unfold referrers
  refine ⟨?_, ?_, ?_⟩
  · obtain ⟨id, inside⟩ := List.exists_mem_of_ne_nil _ referenced
    obtain ⟨other, otherStored, rfl, -, -⟩ := (mem_foreignReferences image stored).mp inside
    have listed : other ∈ tables.documents.filter
        (·.meadowlarkId ∈ foreignReferences tables document.documentUuid) :=
      List.mem_filter.mpr ⟨otherStored, by simpa using inside⟩
    exact report_filled listed
  · exact report_few
  · intro info reported
    obtain ⟨other, taken, rfl⟩ := List.mem_map.mp reported
    obtain ⟨otherStored, foreign⟩ := List.mem_filter.mp (List.mem_of_mem_take taken)
    rw [decide_eq_true_iff] at foreign
    obtain ⟨parent, parentStored, sameId, -, refers⟩ := (mem_foreignReferences image stored).mp foreign
    obtain rfl := documents_eq_of_id parentStored otherStored sameId
    exact ⟨parent, otherStored, rfl, document, stored, same, refers⟩

end References

section Deletes
variable [NodeRuntime] [ColumnTypes] {connection : Connection} {lastWrites : LastWrites}
  {deleteRequest : DeleteRequest} {document : MeadowlarkDocument}

omit [NodeRuntime] in
theorem deleteDocument_malformed (clean : connection.Clean) {error : SqlError}
    (malformed : uuidColumn deleteRequest.documentUuid = .error error) :
    connection.run (deleteDocumentByDocumentUuid deleteRequest) =
      (.ok (.unknownFailure ""), ⟨connection.committed, .idle⟩) := by
  have thrown : connection.run (tryDelete deleteRequest) =
      (.error error, ⟨connection.committed, .failed⟩) := by
    unfold tryDelete
    rw [run_bind_ok (run_beginTransaction clean), run_bind_error (run_findAliases_error malformed)]
  unfold deleteDocumentByDocumentUuid
  rw [run_tryCatch, thrown]
  simp only
  rw [run_bind_ok (run_rollbackTransaction _), run_pure]

omit [NodeRuntime] in
theorem deleteDocument_absent (clean : connection.Clean) {documentUuid : DocumentUuid}
    (validates : deleteRequest.validateNoReferencesToDocument = true)
    (converted : uuidColumn deleteRequest.documentUuid = .ok documentUuid)
    (absent : deletedId connection.committed documentUuid = ⟨""⟩) :
    connection.run (deleteDocumentByDocumentUuid deleteRequest) =
      (.ok .deleteFailureNotExists, ⟨connection.committed, .idle⟩) := by
  have refused : connection.run (tryDelete deleteRequest) =
      (.ok .deleteFailureNotExists, ⟨connection.committed, .idle⟩) := by
    unfold tryDelete checkBeforeDelete
    rw [run_bind_ok (run_beginTransaction clean), run_bind_ok (run_findAliases_ok converted),
      if_pos validates, if_pos absent, run_bind_ok (run_bind_ok (run_rollbackTransaction _))]
    rfl
  unfold deleteDocumentByDocumentUuid
  rw [run_tryCatch, refused]

omit [NodeRuntime] in
theorem run_checkForReferences_refused {committed : Tables} {documentUuid : DocumentUuid}
    (referenced : foreignReferences committed documentUuid ≠ [])
    (reported : referrers committed documentUuid ≠ []) :
    (working committed committed).run (checkForReferences (deletedId committed documentUuid)
        (aliasRows committed documentUuid)) =
      (.ok (some (.deleteFailureReference (referrers committed documentUuid))),
        ⟨committed, .idle⟩) := by
  have searched : (working committed committed).run (findReferencingMeadowlarkIds
      ((aliasRows committed documentUuid).map (·.aliasMeadowlarkId))) =
        (.ok ((committed.references.filter (·.referencedMeadowlarkId ∈
          (aliasRows committed documentUuid).map (·.aliasMeadowlarkId))).map
            (·.parentMeadowlarkId)), working committed committed) := rfl
  unfold checkForReferences
  rw [run_bind_ok searched]
  change (working committed committed).run
    (if foreignReferences committed documentUuid = [] then pure none else _) = _
  rw [if_neg referenced, run_bind_ok (run_findReferringDocumentInfo _),
    run_bind_ok (run_rollbackTransaction _), run_pure]
  change (Except.ok (some (if referrers committed documentUuid = [] then _ else _)), _) = _
  rw [if_neg reported]
  rfl

omit [NodeRuntime] in
theorem deleteDocument_referenced (clean : connection.Clean) {documentUuid : DocumentUuid}
    (validates : deleteRequest.validateNoReferencesToDocument = true)
    (converted : uuidColumn deleteRequest.documentUuid = .ok documentUuid)
    (present : deletedId connection.committed documentUuid ≠ ⟨""⟩)
    (referenced : foreignReferences connection.committed documentUuid ≠ [])
    (reported : referrers connection.committed documentUuid ≠ []) :
    connection.run (deleteDocumentByDocumentUuid deleteRequest) =
      (.ok (.deleteFailureReference (referrers connection.committed documentUuid)),
        ⟨connection.committed, .idle⟩) := by
  have refused : connection.run (tryDelete deleteRequest) =
      (.ok (.deleteFailureReference (referrers connection.committed documentUuid)),
        ⟨connection.committed, .idle⟩) := by
    unfold tryDelete checkBeforeDelete
    rw [run_bind_ok (run_beginTransaction clean), run_bind_ok (run_findAliases_ok converted),
      if_pos validates, if_neg present,
      run_bind_ok (run_checkForReferences_refused referenced reported)]
    rfl
  unfold deleteDocumentByDocumentUuid
  rw [run_tryCatch, refused]

/-- The request names the document by a text that its column takes. -/
def NamedBy (deleteRequest : DeleteRequest) (document : MeadowlarkDocument) : Prop :=
  uuidColumn deleteRequest.documentUuid = .ok document.documentUuid

omit [NodeRuntime] in
theorem namedAlone (stored : document ∈ connection.committed.documents)
    (named : NamedBy deleteRequest document) :
    NamedAlone connection.committed.documents (NamedBy deleteRequest) document := by
  refine ⟨stored, named, ?_⟩
  intro other otherStored otherNamed
  exact documents_eq_of_uuid otherStored stored (Except.ok.inj (otherNamed.symm.trans named))

theorem Imaged.deletedId_present (imaged : Imaged connection.committed lastWrites)
    (stored : document ∈ connection.committed.documents) :
    deletedId connection.committed document.documentUuid ≠ ⟨""⟩ := by
  rw [imaged.image.deletedId stored]
  exact imaged.named document stored

/-- An unreferenced document passes the checks. -/
theorem Imaged.deleteAccepted (imaged : Imaged connection.committed lastWrites)
    (stored : document ∈ connection.committed.documents) (named : NamedBy deleteRequest document)
    (unreferenced : deleteRequest.validateNoReferencesToDocument = true →
      foreignReferences connection.committed document.documentUuid = []) :
    DeleteAccepted connection.committed deleteRequest document.documentUuid where
  converted := named
  present _ := imaged.deletedId_present stored
  unreferenced validates := (foreignReferences_nil _ _).mp (unreferenced validates)

omit [NodeRuntime] [ColumnTypes] in
theorem deletedResult_stored (stored : document ∈ connection.committed.documents) :
    deletedResult connection.committed document.documentUuid = .deleteSuccess := by
  have counted : connection.committed.documents.countP
      (·.documentUuid = document.documentUuid) ≠ 0 := by
    rw [Ne, List.countP_eq_zero]
    intro none
    exact none document stored (by simp)
  unfold deletedResult
  rw [if_neg counted]

/-- The answer and the tables of a delete that decides by the other documents. -/
structure DecidesRightly (connection : Connection) (lastWrites : LastWrites)
    (deleteRequest : DeleteRequest) : Prop where
  decided : ∃ result, (connection.run (deleteDocumentByDocumentUuid deleteRequest)).1 = .ok result ∧
    DecidesByOthers connection.committed.documents
      (connection.run (deleteDocumentByDocumentUuid deleteRequest)).2.committed.documents
      (NamedBy deleteRequest) (RefersTo lastWrites) result
  matched : SideTablesMatch
    (connection.run (deleteDocumentByDocumentUuid deleteRequest)).2.committed lastWrites

/-- A validated delete decides by the other documents exactly when its column takes the uuid. -/
theorem deleteDocument_decides_iff (imaged : Imaged connection.committed lastWrites)
    (clean : connection.Clean) (validates : deleteRequest.validateNoReferencesToDocument = true) :
    DecidesRightly connection lastWrites deleteRequest ↔
      ∃ documentUuid, uuidColumn deleteRequest.documentUuid = .ok documentUuid := by
  cases converted : uuidColumn deleteRequest.documentUuid with
  | error error =>
      apply iff_of_false
      · rintro ⟨⟨result, answered, decides⟩, -⟩
        rw [deleteDocument_malformed clean converted] at answered
        obtain rfl := Except.ok.inj answered
        have none : ∀ document ∈ connection.committed.documents, ¬ NamedBy deleteRequest document := by
          intro document stored named
          exact absurd (converted.symm.trans named) nofun
        exact absurd (decides.absent none) nofun
      · rintro ⟨documentUuid, same⟩
        cases same
  | ok documentUuid =>
      apply iff_of_true ?_ ⟨documentUuid, rfl⟩
      by_cases present : ∃ document ∈ connection.committed.documents,
          document.documentUuid = documentUuid
      · obtain ⟨document, stored, rfl⟩ := present
        have alone := namedAlone stored converted
        by_cases referenced : foreignReferences connection.committed document.documentUuid = []
        · have done := deleteDocument_accepted clean
            (imaged.deleteAccepted stored converted fun _ => referenced)
          rw [deletedResult_stored stored] at done
          refine ⟨⟨.deleteSuccess, congrArg Prod.fst done, ?_⟩, ?_⟩
          · rw [done]
            apply decides_deleted alone
            · rw [← foreignReferences_iff imaged.image stored]
              exact not_not.mpr referenced
            · intro other
              change other ∈ connection.committed.documents.filter _ ↔ _
              rw [List.mem_filter, decide_eq_true_iff]
              apply and_congr_right
              intro otherStored
              constructor
              · rintro different rfl
                exact different rfl
              · intro different same
                exact different (documents_eq_of_uuid otherStored stored same)
          · rw [done]
            exact imaged.image.without imaged.named _
        · have named : NamedBy deleteRequest document := converted
          have report := referrers_report imaged.image stored named referenced
          have done := deleteDocument_referenced clean validates converted
            (imaged.deletedId_present stored) referenced report.filled
          refine ⟨⟨_, congrArg Prod.fst done, ?_⟩, ?_⟩
          · rw [decides_refused_iff alone, ← foreignReferences_iff imaged.image stored]
            exact referenced
          · rw [done]
            exact imaged.image
      · push Not at present
        have done := deleteDocument_absent clean validates converted
          (imaged.image.deletedId_absent present)
        refine ⟨⟨_, congrArg Prod.fst done, decides_absent ?_⟩, ?_⟩
        · intro document stored named
          exact present document stored (Except.ok.inj (named.symm.trans converted))
        · rw [done]
          exact imaged.image

/-- The report of a refused delete is right. -/
theorem deleteDocument_reports (imaged : Imaged connection.committed lastWrites)
    (clean : connection.Clean) {referringDocumentInfo : List ReferringDocumentInfo}
    (refused : (connection.run (deleteDocumentByDocumentUuid deleteRequest)).1 =
      .ok (.deleteFailureReference referringDocumentInfo)) :
    ReportsReferrers connection.committed.documents referringDocumentInfoFrom
      (NamedBy deleteRequest) (RefersTo lastWrites) referringDocumentInfo := by
  cases converted : uuidColumn deleteRequest.documentUuid with
  | error error =>
      rw [deleteDocument_malformed clean converted] at refused
      cases refused
  | ok documentUuid =>
      by_cases accepted : DeleteAccepted connection.committed deleteRequest documentUuid
      · rw [deleteDocument_accepted clean accepted] at refused
        have answered := Except.ok.inj refused
        unfold deletedResult at answered
        split at answered
        · cases answered
        · cases answered
      · have validates : deleteRequest.validateNoReferencesToDocument = true := by
          by_contra unvalidated
          exact accepted ⟨converted, fun validates => absurd validates unvalidated,
            fun validates => absurd validates unvalidated⟩
        by_cases present : ∃ document ∈ connection.committed.documents,
            document.documentUuid = documentUuid
        · obtain ⟨document, stored, rfl⟩ := present
          have referenced : foreignReferences connection.committed document.documentUuid ≠ [] :=
            fun unreferenced => accepted (imaged.deleteAccepted stored converted
              fun _ => unreferenced)
          have named : NamedBy deleteRequest document := converted
          have report := referrers_report imaged.image stored named referenced
          rw [deleteDocument_referenced clean validates converted
            (imaged.deletedId_present stored) referenced report.filled] at refused
          cases refused
          exact report
        · push Not at present
          rw [deleteDocument_absent clean validates converted
            (imaged.image.deletedId_absent present)] at refused
          cases refused

end Deletes
section Conflicts
variable [NodeRuntime] [ColumnTypes] {connection : Connection} {lastWrites : LastWrites}

/-- The request inserts a subclass document whose superclass identity is in use. -/
def ClaimsTaken (tables : Tables) (upsertRequest : UpsertRequest) (superclassId : MeadowlarkId) :
    Prop :=
  documentById tables upsertRequest.meadowlarkId = none ∧
    superclassId ∈ superclassAliasIds upsertRequest.documentInfo ∧
      ∃ row ∈ tables.aliases, row.aliasMeadowlarkId = superclassId

/-- The conflict reports of an upsert describe documents that hold the claimed alias. -/
def ReportsConflicts (connection : Connection) (lastWrites : LastWrites)
    (generated : DocumentUuid) (upsertRequest : UpsertRequest) : Prop :=
  ∀ failureMessage referringDocumentInfo,
    (connection.run (upsertDocument generated upsertRequest)).1 =
        .ok (.insertFailureConflict failureMessage referringDocumentInfo) →
      ∃ superclassId ∈ superclassAliasIds upsertRequest.documentInfo,
        ReportsHolders connection.committed.documents referringDocumentInfoFrom
          (superclassId ∈ aliasIdsOf lastWrites ·) referringDocumentInfo

/-- The documents whose own id is the claimed one. -/
def holdersByOwnId (tables : Tables) (superclassId : MeadowlarkId) : List ReferringDocumentInfo :=
  ((tables.documents.filter (·.meadowlarkId ∈ [superclassId])).take 5).map referringDocumentInfoFrom

theorem run_checkSuperclassIdentity_conflict {committed : Tables} {upsertRequest : UpsertRequest}
    {superclassId : MeadowlarkId} (taken : ClaimsTaken committed upsertRequest superclassId) :
    ∃ failureMessage, (working committed committed).run
        (checkSuperclassIdentity upsertRequest true) =
      (.ok (some (.insertFailureConflict failureMessage (holdersByOwnId committed superclassId))),
        ⟨committed, .idle⟩) := by
  obtain ⟨-, claimed, row, stored, held⟩ := taken
  obtain ⟨superclassInfo, present, rfl⟩ : ∃ superclassInfo,
      upsertRequest.documentInfo.superclassInfo = some superclassInfo ∧
        getMeadowlarkIdForSuperclassInfo superclassInfo = superclassId := by
    simpa [superclassAliasIds] using claimed
  have searched : (working committed committed).run
      (findAliasMeadowlarkId (getMeadowlarkIdForSuperclassInfo superclassInfo)) =
        (.ok ((committed.aliases.filter (·.aliasMeadowlarkId =
          getMeadowlarkIdForSuperclassInfo superclassInfo)).map (·.aliasMeadowlarkId)),
          working committed committed) := rfl
  have used : ((committed.aliases.filter (·.aliasMeadowlarkId =
      getMeadowlarkIdForSuperclassInfo superclassInfo)).map (·.aliasMeadowlarkId)) ≠ [] := by
    apply List.ne_nil_of_mem
    exact List.mem_map_of_mem (List.mem_filter.mpr ⟨stored, by simpa using held⟩)
  unfold checkSuperclassIdentity
  simp only [present]
  rw [run_bind_ok searched, if_neg used, run_bind_ok (run_findReferringDocumentInfo _),
    run_bind_ok (run_rollbackTransaction _), run_pure]
  exact ⟨_, rfl⟩

/-- A claimed superclass identity in use answers with the documents that have it as their own. -/
theorem upsertDocument_conflict (clean : connection.Clean) {generated : DocumentUuid}
    {upsertRequest : UpsertRequest} {superclassId : MeadowlarkId}
    (taken : ClaimsTaken connection.committed upsertRequest superclassId) :
    ∃ failureMessage, (connection.run (upsertDocument generated upsertRequest)).1 =
      .ok (.insertFailureConflict failureMessage
        (holdersByOwnId connection.committed superclassId)) := by
  obtain ⟨failureMessage, conflict⟩ := run_checkSuperclassIdentity_conflict taken
  refine ⟨failureMessage, ?_⟩
  have answered : connection.run (tryUpsert generated upsertRequest) =
      (.ok (.insertFailureConflict failureMessage
        (holdersByOwnId connection.committed superclassId)), ⟨connection.committed, .idle⟩) := by
    unfold tryUpsert
    rw [run_bind_ok (run_beginTransaction clean), run_bind_ok (run_findDocumentByMeadowlarkId _),
      taken.1]
    simp only [Option.any_none, Bool.false_eq_true, if_false, Option.isNone_none]
    rw [run_bind_ok conflict, run_pure]
  unfold upsertDocument
  rw [run_tryCatch, answered]

theorem checkUpsertReferences_unconflicted {committed : Tables} {following : Connection}
    {upsertRequest : UpsertRequest} {isInsert : Bool} {failure : Option UpsertResult}
    (done : (working committed committed).run (checkUpsertReferences upsertRequest isInsert) =
      (.ok failure, following)) (failureMessage : Option FailureMessage)
    (referringDocumentInfo : List ReferringDocumentInfo) :
    failure ≠ some (.insertFailureConflict failureMessage referringDocumentInfo) := by
  unfold checkUpsertReferences at done
  split at done
  · rw [run_bind_ok (run_validateReferences _)] at done
    split at done
    · cases done
      exact nofun
    · rw [run_bind_ok (run_findReferringDocumentInfo _),
        run_bind_ok (run_rollbackTransaction _)] at done
      cases done
      split <;> exact nofun
  · cases done
    exact nofun

theorem writeUpsert_unconflicted {following : Connection} {upsertRequest : UpsertRequest}
    {documentUuid : DocumentUuid} {isInsert : Bool} {result : UpsertResult}
    (done : connection.run (writeUpsert upsertRequest documentUuid isInsert) =
      (.ok result, following)) (failureMessage : Option FailureMessage)
    (referringDocumentInfo : List ReferringDocumentInfo) :
    result ≠ .insertFailureConflict failureMessage referringDocumentInfo := by
  unfold writeUpsert at done
  obtain ⟨_, _, -, done⟩ := run_bind_done done
  obtain ⟨_, _, -, done⟩ := run_bind_done done
  obtain ⟨_, _, -, done⟩ := run_bind_done done
  cases done
  split <;> exact nofun

/-- A conflict is answered only when the superclass identity is in use. -/
theorem tryUpsert_conflict_taken (clean : connection.Clean) {generated : DocumentUuid}
    {upsertRequest : UpsertRequest} {failureMessage : Option FailureMessage}
    {referringDocumentInfo : List ReferringDocumentInfo} {last : Connection}
    (refused : connection.run (tryUpsert generated upsertRequest) =
      (.ok (.insertFailureConflict failureMessage referringDocumentInfo), last)) :
    ∃ superclassId, ClaimsTaken connection.committed upsertRequest superclassId := by
  unfold tryUpsert at refused
  rw [run_bind_ok (run_beginTransaction clean), run_bind_ok (run_findDocumentByMeadowlarkId _)]
    at refused
  simp only at refused
  split at refused
  · cases refused
  · obtain ⟨conflict, first, checked, free, same, -⟩ := run_checkSuperclassIdentity
      connection.committed upsertRequest
      (documentById connection.committed upsertRequest.meadowlarkId).isNone
    rw [run_bind_ok checked] at refused
    cases conflict with
    | some failure =>
        by_contra untaken
        apply Option.some_ne_none failure
        apply free.mpr
        intro insert superclassInfo present row stored held
        apply untaken
        exact ⟨_, Option.isNone_iff_eq_none.mp insert, by simpa [superclassAliasIds] using
          ⟨superclassInfo, present, rfl⟩, row, stored, held⟩
    | none =>
        obtain rfl := same rfl
        simp only at refused
        obtain ⟨invalid, second, validated, written⟩ := run_bind_done refused
        cases invalid with
        | some failure =>
            cases written
            exact absurd rfl (checkUpsertReferences_unconflicted validated _ _)
        | none => exact absurd rfl (writeUpsert_unconflicted written _ _)

theorem upsertDocument_conflict_taken (clean : connection.Clean) {generated : DocumentUuid}
    {upsertRequest : UpsertRequest} {failureMessage : Option FailureMessage}
    {referringDocumentInfo : List ReferringDocumentInfo}
    (refused : (connection.run (upsertDocument generated upsertRequest)).1 =
      .ok (.insertFailureConflict failureMessage referringDocumentInfo)) :
    ∃ superclassId, ClaimsTaken connection.committed upsertRequest superclassId := by
  unfold upsertDocument at refused
  rw [run_tryCatch] at refused
  cases outcome : connection.run (tryUpsert generated upsertRequest) with
  | mk answer following =>
      rw [outcome] at refused
      cases answer with
      | ok result =>
          simp only at refused
          obtain rfl := Except.ok.inj refused
          exact tryUpsert_conflict_taken clean outcome
      | error error =>
          simp only at refused
          rw [run_bind_ok (run_rollbackTransaction following), run_pure] at refused
          cases refused

/-- The conflict report is right exactly when a stored document has the claimed id as its own. -/
theorem upsertDocument_reports_iff (clean : connection.Clean) (generated : DocumentUuid)
    (upsertRequest : UpsertRequest) :
    ReportsConflicts connection lastWrites generated upsertRequest ↔
      ∀ superclassId, ClaimsTaken connection.committed upsertRequest superclassId →
        ∃ document ∈ connection.committed.documents, document.meadowlarkId = superclassId := by
  constructor
  · intro reports superclassId taken
    obtain ⟨failureMessage, answered⟩ := upsertDocument_conflict clean taken
    obtain ⟨-, -, filled, -⟩ := reports _ _ answered
    by_contra none
    push Not at none
    have unselected : connection.committed.documents.filter
        (·.meadowlarkId ∈ [superclassId]) = [] := by
      rw [List.filter_eq_nil_iff]
      intro document stored
      simpa using none document stored
    apply filled
    unfold holdersByOwnId
    rw [unselected]
    rfl
  · intro owned failureMessage referringDocumentInfo refused
    obtain ⟨superclassId, taken⟩ := upsertDocument_conflict_taken clean refused
    obtain ⟨otherMessage, answered⟩ := @upsertDocument_conflict _ _ _ clean generated _ _ taken
    rw [answered] at refused
    cases refused
    refine ⟨superclassId, taken.2.1, ?_, ?_⟩
    · obtain ⟨document, stored, own⟩ := owned superclassId taken
      have selected : document ∈ connection.committed.documents.filter
          (·.meadowlarkId ∈ [superclassId]) := List.mem_filter.mpr ⟨stored, by simpa using own⟩
      exact report_filled selected
    · intro info reported
      obtain ⟨document, taken, rfl⟩ := List.mem_map.mp reported
      obtain ⟨stored, own⟩ := List.mem_filter.mp (List.mem_of_mem_take taken)
      rw [decide_eq_true_iff, List.mem_singleton] at own
      refine ⟨document, stored, rfl, ?_⟩
      rw [← own]
      exact List.mem_cons_self

end Conflicts
end Meadowlark.Postgres
