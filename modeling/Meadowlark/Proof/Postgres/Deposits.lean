import Meadowlark.Proof.Core.LastWrites
import Meadowlark.Proof.Postgres.Confinement

namespace Meadowlark.Postgres
open Meadowlark.Core Systems
variable [NodeRuntime] [ColumnTypes] {tables following : Tables} {deposits : Deposits}

/-- The row is the request as its columns take it.
Only its uuid and its creation time are not in the request. -/
def StoredAs (request : UpsertRequest) (row : MeadowlarkDocument) : Prop :=
  documentRow { request with documentUuid := row.documentUuid } row.documentUuid row.createdAt =
    .ok row

omit [NodeRuntime] in
theorem storedAs_documentRow {updateRequest : UpdateRequest} {documentUuid : DocumentUuid}
    {createdAt : Int} {row : MeadowlarkDocument}
    (created : documentRow updateRequest documentUuid createdAt = .ok row) :
    row.documentUuid = documentUuid ∧ StoredAs updateRequest.toUpsertRequest row := by
  have sameUuid := (documentRow_ok created).2.1
  have sameTime : row.createdAt = createdAt := by
    unfold documentRow at created
    split at created
    · cases created
    · split at created
      · cases created
      · cases created
        rfl
  refine ⟨sameUuid, ?_⟩
  unfold StoredAs
  rw [sameTime, sameUuid]
  exact created

/-- The table holds exactly the documents that the published events say are stored. -/
structure Deposited (tables : Tables) (deposits : Deposits) : Prop where
  stored : ∀ row ∈ tables.documents,
    ∃ request, deposits row.documentUuid = some request ∧ StoredAs request row
  present : ∀ documentUuid request, deposits documentUuid = some request →
    ∃ row ∈ tables.documents, row.documentUuid = documentUuid

omit [NodeRuntime] in
theorem deposited_empty : Deposited Tables.empty fun _ => none where
  stored _ inside := absurd inside List.not_mem_nil
  present _ _ deposit := nomatch deposit

omit [NodeRuntime] in
/-- The deposits do not depend on the side tables. -/
theorem Deposited.of_documents (deposited : Deposited tables deposits)
    (same : following.documents = tables.documents) : Deposited following deposits := by
  constructor
  · rw [same]
    exact deposited.stored
  · rw [same]
    exact deposited.present

omit [NodeRuntime] in
/-- A row is inserted under a uuid that no other row has. -/
theorem insertDocument_fresh {updateRequest : UpdateRequest} {documentUuid : DocumentUuid}
    (done : tables.insertDocument updateRequest documentUuid = .ok following)
    {old : MeadowlarkDocument} (stored : old ∈ tables.documents) :
    old.documentUuid ≠ documentUuid := by
  obtain ⟨row, created, documents, -, -⟩ := insertDocument_ok done
  obtain rfl := (documentRow_ok created).2.1
  intro same
  have unique := following.uniqueUuids
  rw [documents, List.map_append, List.nodup_append] at unique
  exact unique.2.2 old.documentUuid (List.mem_map_of_mem stored) row.documentUuid
    List.mem_cons_self same

omit [NodeRuntime] in
theorem Deposited.insert (deposited : Deposited tables deposits) {updateRequest : UpdateRequest}
    {documentUuid : DocumentUuid}
    (done : tables.insertDocument updateRequest documentUuid = .ok following) :
    Deposited following
      (Function.update deposits documentUuid (some updateRequest.toUpsertRequest)) := by
  obtain ⟨row, created, documents, -, -⟩ := insertDocument_ok done
  obtain ⟨rfl, storedAs⟩ := storedAs_documentRow created
  constructor
  · rw [documents]
    intro stored inside
    rcases List.mem_append.mp inside with old | new
    · rw [Function.update_of_ne (insertDocument_fresh done old)]
      exact deposited.stored stored old
    · obtain rfl := List.mem_singleton.mp new
      exact ⟨_, Function.update_self _ _ _, storedAs⟩
  · rw [documents]
    intro given request deposit
    by_cases same : given = row.documentUuid
    · exact ⟨row, List.mem_append_right _ List.mem_cons_self, same.symm⟩
    · rw [Function.update_of_ne same] at deposit
      obtain ⟨old, stored, named⟩ := deposited.present given request deposit
      exact ⟨old, List.mem_append_left _ stored, named⟩

omit [NodeRuntime] in
theorem Deposited.update (deposited : Deposited tables deposits) {updateRequest : UpdateRequest}
    {documentUuid : DocumentUuid} {existing : MeadowlarkDocument}
    (stored : existing ∈ tables.documents) (named : existing.documentUuid = documentUuid)
    (done : tables.updateDocument updateRequest documentUuid = .ok following) :
    Deposited following
      (Function.update deposits documentUuid (some updateRequest.toUpsertRequest)) := by
  obtain ⟨kept, rewritten, origin, -, -⟩ := updateDocument_ok done
  constructor
  · intro row inside
    rcases origin row inside with ⟨old, other⟩ | ⟨document, -, -, created⟩
    · rw [Function.update_of_ne other]
      exact deposited.stored row old
    · obtain ⟨rfl, storedAs⟩ := storedAs_documentRow created
      exact ⟨_, Function.update_self _ _ _, storedAs⟩
  · intro given request deposit
    by_cases same : given = documentUuid
    · obtain ⟨row, inside, created⟩ := rewritten existing stored named
      exact ⟨row, inside, (storedAs_documentRow created).1.trans same.symm⟩
    · rw [Function.update_of_ne same] at deposit
      obtain ⟨old, oldStored, oldNamed⟩ := deposited.present given request deposit
      refine ⟨old, kept old oldStored ?_, oldNamed⟩
      rw [oldNamed]
      exact same

omit [NodeRuntime] in
theorem Deposited.delete (deposited : Deposited tables deposits) (documentUuid : DocumentUuid) :
    Deposited (tables.deleteDocument documentUuid)
      (Function.update deposits documentUuid none) := by
  constructor
  · intro row inside
    obtain ⟨old, other⟩ := List.mem_filter.mp inside
    rw [Function.update_of_ne (by simpa using other)]
    exact deposited.stored row old
  · intro given request deposit
    have other : given ≠ documentUuid := by
      rintro rfl
      rw [Function.update_self] at deposit
      cases deposit
    rw [Function.update_of_ne other] at deposit
    obtain ⟨row, stored, named⟩ := deposited.present given request deposit
    refine ⟨row, List.mem_filter.mpr ⟨stored, ?_⟩, named⟩
    rw [named]
    simpa using other

omit [NodeRuntime] in
/-- No document is deposited under a uuid without a row. -/
theorem Deposited.absent (deposited : Deposited tables deposits) {documentUuid : DocumentUuid}
    (absent : ∀ row ∈ tables.documents, row.documentUuid ≠ documentUuid) :
    deposits documentUuid = none := by
  cases deposit : deposits documentUuid with
  | none => rfl
  | some request =>
      obtain ⟨row, stored, named⟩ := deposited.present documentUuid request deposit
      exact absurd named (absent row stored)

omit [NodeRuntime] in
theorem regular_start : Regular ⟨Tables.empty, .idle⟩ :=
  ⟨.inl (.inl rfl), fun _ inside => absurd inside List.not_mem_nil⟩

/-- The uuids of a write are spelled as the column of the uuids gives them back. -/
structure WritesPlain (generated : DocumentUuid) (write : WriteRequest) : Prop where
  generated : uuidColumn generated = .ok generated
  named : ∀ given documentUuid, write.named = some given →
    uuidColumn given = .ok documentUuid → documentUuid = given

/-- The event that reports the result of a repository call. -/
def reportOf : WriteRequest → RepositoryResult → Option ListenerEvent
  | .upsert request, .upsert result => some (.afterUpsertDocument request result)
  | .update request, .update result => some (.afterUpdateDocumentById request result)
  | .delete request, .delete result => some (.afterDeleteDocumentById request result)
  | _, _ => none

section Reports

/-- Every write keeps a connection regular. -/
theorem Regular.written {connection : Connection} (regular : Regular connection)
    (generated : DocumentUuid) (write : WriteRequest) :
    Regular (write.contents (documentStore generated) connection) := by
  rw [contents_callOf]
  rcases regular.settled with clean | failed
  · obtain ⟨result, following, done, cleanAfter, -⟩ :=
      repositorySession_effect clean (callOf generated write)
    have converted := regular.converted.call clean (callOf generated write)
    rw [done] at converted ⊢
    exact ⟨.inl cleanAfter, converted⟩
  · obtain ⟨committed, block⟩ := connection
    obtain rfl : block = .failed := failed
    obtain ⟨result, done, -⟩ := repositorySession_failed committed (callOf generated write)
    rw [done]
    exact ⟨.inl (.inl rfl), regular.converted⟩

variable {connection : Connection} {generated : DocumentUuid} {write : WriteRequest}
  {result : RepositoryResult}

omit [NodeRuntime] in
/-- The frontend gets the result of the repository function. -/
theorem serveSession_map {Result : Type} {session : Session Result}
    {wrap : Result → RepositoryResult}
    (done : (connection.run (wrap <$> session)).1 = .ok result) :
    ∃ inner, result = wrap inner ∧ (serveSession session connection).1 = .ok inner := by
  rw [run_map] at done
  cases answered : (connection.run session).1 with
  | error error =>
      rw [answered] at done
      cases done
  | ok inner =>
      rw [answered] at done
      exact ⟨inner, (Except.ok.inj done).symm, serveSession_ok.mpr answered⟩

theorem report_callOf
    (done : (connection.run (repositorySession (callOf generated write))).1 = .ok result) :
    write.report (documentStore generated) connection = reportOf write result := by
  cases write with
  | upsert request =>
      obtain ⟨inner, rfl, served⟩ := serveSession_map done
      change (serveSession _ connection).1.toOption.map _ = _
      rw [served]
      rfl
  | update request =>
      obtain ⟨inner, rfl, served⟩ := serveSession_map done
      change (serveSession _ connection).1.toOption.map _ = _
      rw [served]
      rfl
  | delete request =>
      obtain ⟨inner, rfl, served⟩ := serveSession_map done
      change (serveSession _ connection).1.toOption.map _ = _
      rw [served]
      rfl

omit [NodeRuntime] [ColumnTypes] in
/-- The report of a failure does not change the deposits. -/
theorem told_unsuccessful (failed : result.succeeded = false) :
    depositsListener.told (reportOf write result) deposits = deposits := by
  cases write <;> cases result <;> try rfl
  all_goals
    rename_i answer
    cases answer <;> first | rfl | cases failed

/-- The tables and the reports of a write agree about what is stored. -/
theorem Deposited.effect (deposited : Deposited tables deposits)
    (converted : UuidsConverted tables) (plain : WritesPlain generated write)
    (effect : CallEffect tables (callOf generated write) result following) :
    Deposited following (depositsListener.told (reportOf write result) deposits) := by
  have unchanged (failed : result.succeeded = false) :
      Deposited tables (depositsListener.told (reportOf write result) deposits) := by
    rw [told_unsuccessful failed]
    exact deposited
  cases write with
  | upsert request =>
      change CallEffect tables (.upsert generated request) result following at effect
      cases effect with
      | @upserted _ documentUuid _ written writes =>
          have row := writes.written
          have uuid := writes.converted
          unfold upsertRow at row
          cases found : documentById tables request.meadowlarkId with
          | none =>
              simp only [upsertedUuid, found, Option.map_none, Option.getD_none, Option.isNone_none,
                if_true] at row uuid
              obtain rfl : generated = documentUuid :=
                Except.ok.inj (plain.generated.symm.trans uuid)
              simp only [reportOf, upsertedResult, upsertedUuid, found, Option.isNone_none,
                Option.map_none, Option.getD_none, if_true]
              exact (deposited.insert row).of_documents rfl
          | some existing =>
              obtain ⟨stored, named⟩ := documentById_some found
              simp only [upsertedUuid, found, Option.map_some, Option.getD_some, Option.isNone_some,
                Bool.false_eq_true, if_false] at row uuid
              obtain rfl : existing.documentUuid = documentUuid :=
                Except.ok.inj ((converted existing stored).symm.trans uuid)
              simp only [reportOf, upsertedResult, upsertedUuid, found, Option.isNone_some,
                Option.map_some, Option.getD_some, Bool.false_eq_true, if_false]
              exact (deposited.update stored rfl row).of_documents rfl
      | failed unsuccessful => exact unchanged unsuccessful
  | update request =>
      change CallEffect tables (.update request) result following at effect
      cases effect with
      | @updated _ existing documentUuid written writes =>
          obtain ⟨stored, named⟩ := documentByUuid_some writes.found
          obtain rfl := plain.named _ documentUuid rfl writes.converted
          exact (deposited.update stored named writes.written).of_documents rfl
      | failed unsuccessful => exact unchanged unsuccessful
  | delete request =>
      change CallEffect tables (.delete request) result following at effect
      cases effect with
      | @deleted _ documentUuid accepted =>
          obtain rfl := plain.named _ documentUuid rfl accepted.converted
          have removed : Deposited (tables.without request.documentUuid
              (deletedId tables request.documentUuid))
                (Function.update deposits request.documentUuid none) :=
            (deposited.delete request.documentUuid).of_documents rfl
          cases present : (documentByUuid tables request.documentUuid).isSome with
          | true =>
              have succeeded := deletedResult_succeeded.mpr present
              cases answer : deletedResult tables request.documentUuid with
              | deleteSuccess => exact removed
              | _ =>
                  rw [answer] at succeeded
                  cases succeeded
          | false =>
              have failed : (RepositoryResult.delete
                  (deletedResult tables request.documentUuid)).succeeded = false := by
                change (deletedResult tables request.documentUuid).succeeded = false
                by_contra succeeded
                rw [Bool.not_eq_false, deletedResult_succeeded, present] at succeeded
                cases succeeded
              rw [told_unsuccessful failed]
              have absent := deposited.absent (by
                simpa [documentByUuid] using present)
              rw [← absent, Function.update_eq_self] at removed
              exact removed
      | failed unsuccessful => exact unchanged unsuccessful

theorem Deposited.written (deposited : Deposited connection.committed deposits)
    (regular : Regular connection) (plain : WritesPlain generated write) :
    Deposited (write.contents (documentStore generated) connection).committed
      (depositsListener.told (write.report (documentStore generated) connection) deposits) := by
  rw [contents_callOf]
  rcases regular.settled with clean | failed
  · obtain ⟨result, following, done, -, effect⟩ :=
      repositorySession_effect clean (callOf generated write)
    rw [report_callOf (congrArg Prod.fst done), done]
    exact deposited.effect regular.converted plain effect
  · obtain ⟨committed, block⟩ := connection
    obtain rfl : block = .failed := failed
    obtain ⟨result, done, unsuccessful⟩ := repositorySession_failed committed (callOf generated write)
    rw [report_callOf (congrArg Prod.fst done), done, told_unsuccessful unsuccessful]
    exact deposited

/-- Along a run the committed table stays in agreement with the deposits. -/
theorem keptDeposited : KeptByRequests documentStore depositsListener
    (fun generated _ _ write => WritesPlain generated write)
    (fun connection deposits => Regular connection ∧ Deposited connection.committed deposits) where
  checked generated validated held := by
    obtain ⟨regular, deposited⟩ := held
    refine ⟨(tagsKept.checked generated validated regular).1, deposited.of_documents ?_⟩
    rw [(guardAnswer_settled generated validated regular.settled).2]
  read generated request held := by
    obtain ⟨regular, deposited⟩ := held
    refine ⟨(tagsKept.read generated request regular).1, deposited.of_documents ?_⟩
    rw [(get_settled generated request regular.settled).2]
  written {connection deposits generated write} held plain := by
    obtain ⟨regular, deposited⟩ := held
    refine ⟨?_, deposited.written regular plain⟩
    exact regular.written generated write

end Reports

section Reads
variable {connection : Connection} {given documentUuid : DocumentUuid}

/-- The check and the read select no row. -/
theorem lacks_of_none (generated : DocumentUuid) (clean : connection.Clean)
    (converted : uuidColumn given = .ok documentUuid)
    (absent : documentByUuid connection.committed documentUuid = none) :
    (documentStore generated).Lacks connection given where
  checked frontendRequest named := by
    have searched : connection.run (findOwnershipForDocumentByDocumentUuid given) =
        (.ok none, connection) := by
      unfold findOwnershipForDocumentByDocumentUuid
      rw [run_bind_ok (run_selectByUuid clean converted), run_pure, List.head?_filter]
      change (Except.ok ((documentByUuid connection.committed documentUuid).map _), _) = _
      rw [absent]
      rfl
    have answered : connection.run (rejectByOwnershipSecurity frontendRequest) =
        (.ok .notApplicable, connection) := by
      unfold rejectByOwnershipSecurity
      by_cases reads : ReadsDescriptor frontendRequest
      · exact congrArg connection.run (if_pos reads)
      · refine (congrArg connection.run (if_neg reads)).trans ?_
        rw [run_tryCatch]
        unfold tryOwnership
        rw [named]
        dsimp only
        rw [run_bind_ok searched, run_pure]
        rfl
    change serveSession _ connection = _
    unfold serveSession
    rw [answered]
  read getRequest named := by
    have searched : connection.run (findDocumentByDocumentUuid given) =
        (.ok none, connection) := by
      unfold findDocumentByDocumentUuid
      rw [run_bind_ok (run_selectByUuid clean converted), run_pure, List.head?_filter]
      exact congrArg (fun found => (Except.ok found, connection)) absent
    have answered : connection.run (getDocumentByDocumentUuid getRequest) =
        (.ok .getFailureNotExists, connection) := by
      unfold getDocumentByDocumentUuid tryGet
      rw [run_tryCatch, named, run_bind_ok searched]
      rfl
    change serveSession _ connection = _
    unfold serveSession
    rw [answered]

/-- The form in which the column keeps a document. -/
def keptDocument (edfiDoc : Json) : Json := (ColumnTypes.jsonbInput edfiDoc).getD edfiDoc

omit [NodeRuntime] in
theorem StoredAs.shows {request : UpsertRequest} {row : MeadowlarkDocument}
    (storedAs : StoredAs request row) : row.edfiDoc = keptDocument request.edfiDoc ∧
      row.lastModifiedAt = request.documentInfo.requestTimestamp := by
  refine ⟨?_, (documentRow_requested storedAs).2.2⟩
  unfold StoredAs documentRow at storedAs
  unfold keptDocument
  split at storedAs
  · cases storedAs
  · cases taken : ColumnTypes.jsonbInput request.edfiDoc with
    | none =>
        simp only [taken] at storedAs
        cases storedAs
    | some edfiDoc =>
        simp only [taken] at storedAs
        exact congrArg MeadowlarkDocument.edfiDoc (Except.ok.inj storedAs).symm

theorem Deposited.serves (deposited : Deposited connection.committed deposits)
    (clean : connection.Clean) (generated : DocumentUuid)
    (converted : uuidColumn documentUuid = .ok documentUuid) :
    (documentStore generated).ServesDeposits connection keptDocument deposits documentUuid where
  present request deposit := by
    cases found : documentByUuid connection.committed documentUuid with
    | none =>
        obtain ⟨row, stored, named⟩ := deposited.present documentUuid request deposit
        have refused := List.find?_eq_none.mp found row stored
        exact absurd named (by simpa using refused)
    | some row =>
        obtain ⟨stored, named⟩ := documentByUuid_some found
        obtain ⟨other, same, storedAs⟩ := deposited.stored row stored
        rw [named, deposit, Option.some.injEq] at same
        subst same
        refine ⟨storedDocument row, serves_of_found generated clean converted found, ?_⟩
        exact storedAs.shows
  absent deposit := by
    apply lacks_of_none generated clean converted
    cases found : documentByUuid connection.committed documentUuid with
    | none => rfl
    | some row =>
        obtain ⟨stored, named⟩ := documentByUuid_some found
        obtain ⟨request, same, -⟩ := deposited.stored row stored
        rw [named, deposit] at same
        cases same

end Reads
end Meadowlark.Postgres
