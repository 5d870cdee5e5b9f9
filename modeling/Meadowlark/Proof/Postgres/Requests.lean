import Meadowlark.Construction.Postgres.Ownership
import Meadowlark.Proof.Core.Requests
import Meadowlark.Proof.Postgres.SequentialIntegrity

namespace Meadowlark.Postgres
open Meadowlark.Core Systems
variable [NodeRuntime] [ColumnTypes]

section Effects
variable {tables following : Tables} {call : RepositoryCall} {result : RepositoryResult}

omit [NodeRuntime] in
/-- A row that is written over an older one is none of the old rows. -/
theorem updateDocument_changes {updateRequest : UpdateRequest} {documentUuid : DocumentUuid}
    {existing : MeadowlarkDocument} (stored : existing ∈ tables.documents)
    (same : existing.documentUuid = documentUuid)
    (current : existing.lastModifiedAt < updateRequest.documentInfo.requestTimestamp)
    (done : tables.updateDocument updateRequest documentUuid = .ok following) :
    following.documents ≠ tables.documents := by
  intro unchanged
  obtain ⟨-, rewritten, -, -, -⟩ := updateDocument_ok done
  obtain ⟨row, inside, created⟩ := rewritten existing stored same
  rw [unchanged] at inside
  have identical := documents_eq_of_uuid inside stored
    ((documentRow_ok created).2.1.trans same.symm)
  rw [← identical, (documentRow_requested created).2.2] at current
  exact lt_irrefl _ current

omit [NodeRuntime] [ColumnTypes] in
/-- The delete statement reports a row exactly when there is one. -/
theorem deletedResult_succeeded {documentUuid : DocumentUuid} :
    (deletedResult tables documentUuid).succeeded = true ↔
      (documentByUuid tables documentUuid).isSome = true := by
  unfold deletedResult documentByUuid
  rw [List.find?_isSome]
  split
  · rename_i none
    refine iff_of_false nofun ?_
    rintro ⟨document, stored, named⟩
    exact List.countP_eq_zero.mp none document stored named
  · rename_i counted
    refine iff_of_true rfl ?_
    exact List.countP_pos_iff.mp (Nat.pos_of_ne_zero counted)

/-- An update that succeeds writes a newer row, and a delete that succeeds removes one. -/
theorem CallEffect.changes (addressed : ∀ generated upsertRequest, call ≠ .upsert generated upsertRequest)
    (effect : CallEffect tables call result following) (succeeded : result.succeeded = true) :
    following ≠ tables := by
  intro same
  have documents := congrArg Tables.documents same
  cases effect with
  | @upserted generated documentUuid upsertRequest written writes =>
      exact absurd rfl (addressed generated upsertRequest)
  | @updated updateRequest existing documentUuid written writes =>
      obtain ⟨stored, sameUuid⟩ := documentByUuid_some writes.found
      exact updateDocument_changes stored sameUuid writes.current writes.written documents
  | @deleted deleteRequest documentUuid accepted =>
      obtain ⟨document, found⟩ := Option.isSome_iff_exists.mp (deletedResult_succeeded.mp succeeded)
      obtain ⟨stored, named⟩ := documentByUuid_some found
      rw [← documents] at stored
      exact absurd named (by simpa using (List.mem_filter.mp stored).2)
  | failed unsuccessful =>
      rw [unsuccessful] at succeeded
      cases succeeded

/-- A call that fails leaves the tables as they are unless it deletes side rows alone. -/
theorem CallEffect.keeps (effect : CallEffect tables call result following)
    (failed : result.succeeded = false)
    (present : ∀ deleteRequest documentUuid, call = .delete deleteRequest →
      uuidColumn deleteRequest.documentUuid = .ok documentUuid →
        (documentByUuid tables documentUuid).isSome = true) : following = tables := by
  cases effect with
  | failed unsuccessful => rfl
  | upserted writes =>
      change (upsertedResult _ _ _).succeeded = false at failed
      unfold upsertedResult at failed
      split at failed <;> cases failed
  | updated writes => cases failed
  | @deleted deleteRequest documentUuid accepted =>
      have succeeded := deletedResult_succeeded.mpr
        (present deleteRequest documentUuid rfl accepted.converted)
      exact absurd (succeeded.symm.trans failed) nofun

end Effects

section Writes
variable {connection : Connection} {generated : DocumentUuid} {write : WriteRequest}

/-- The repository call that a handler makes for a write. -/
def callOf (generated : DocumentUuid) : WriteRequest → RepositoryCall
  | .upsert request => .upsert generated request
  | .update request => .update request
  | .delete request => .delete request

omit [NodeRuntime] in
theorem serveSession_snd {Result : Type} (session : Session Result) (connection : Connection) :
    (serveSession session connection).2 = (connection.run session).2 := by
  unfold serveSession
  cases connection.run session with
  | mk outcome following =>
      cases outcome with
      | ok result => rfl
      | error error => rfl

omit [NodeRuntime] in
theorem serveSession_ok {Result : Type} {session : Session Result} {result : Result} :
    (serveSession session connection).1 = .ok result ↔
      (connection.run session).1 = .ok result := by
  unfold serveSession
  cases connection.run session with
  | mk outcome following =>
      cases outcome with
      | ok result => simp
      | error error => simp

theorem contents_callOf (generated : DocumentUuid) (write : WriteRequest)
    (connection : Connection) : write.contents (documentStore generated) connection =
      (connection.run (repositorySession (callOf generated write))).2 := by
  cases write with
  | upsert request =>
      change (serveSession _ connection).2 = (connection.run (RepositoryResult.upsert <$> _)).2
      rw [serveSession_snd, run_map]
  | update request =>
      change (serveSession _ connection).2 = (connection.run (RepositoryResult.update <$> _)).2
      rw [serveSession_snd, run_map]
  | delete request =>
      change (serveSession _ connection).2 = (connection.run (RepositoryResult.delete <$> _)).2
      rw [serveSession_snd, run_map]

omit [NodeRuntime] in
/-- A wrapped result succeeds when the result does. -/
theorem run_map_succeeds {Result : Type} {session : Session Result} {succeeded : Result → Bool}
    {wrap : Result → RepositoryResult} (wrapped : ∀ result, (wrap result).succeeded = succeeded result) :
    (∃ result, (serveSession session connection).1 = .ok result ∧ succeeded result = true) ↔
      ∃ result, (connection.run (wrap <$> session)).1 = .ok result ∧ result.succeeded = true := by
  rw [run_map]
  constructor
  · rintro ⟨result, answered, success⟩
    rw [serveSession_ok] at answered
    exact ⟨wrap result, by rw [answered]; rfl, (wrapped result).trans success⟩
  · rintro ⟨result, answered, success⟩
    cases outcome : (connection.run session).1 with
    | error error =>
        rw [outcome] at answered
        cases answered
    | ok inner =>
        rw [outcome] at answered
        obtain rfl : wrap inner = result := Except.ok.inj answered
        exact ⟨inner, serveSession_ok.mpr outcome, (wrapped inner).symm.trans success⟩

theorem succeeds_callOf : write.Succeeds (documentStore generated) connection ↔
    ∃ result, (connection.run (repositorySession (callOf generated write))).1 = .ok result ∧
      result.succeeded = true := by
  cases write with
  | upsert request => exact run_map_succeeds fun _ => rfl
  | update request => exact run_map_succeeds fun _ => rfl
  | delete request => exact run_map_succeeds fun _ => rfl

/-- A write for a stored document changes the tables exactly when it succeeds. -/
theorem committed_unchanged_iff (clean : connection.Clean)
    (addressed : ∀ request, write ≠ .upsert request)
    (present : ∀ request documentUuid, write = .delete request →
      uuidColumn request.documentUuid = .ok documentUuid →
        (documentByUuid connection.committed documentUuid).isSome = true) :
    (write.contents (documentStore generated) connection).committed = connection.committed ↔
      ¬ write.Succeeds (documentStore generated) connection := by
  obtain ⟨result, following, run, -, effect⟩ :=
    repositorySession_effect clean (callOf generated write)
  have known : ∀ generatedUuid upsertRequest,
      callOf generated write ≠ .upsert generatedUuid upsertRequest := by
    intro generatedUuid upsertRequest same
    cases write with
    | upsert request => exact addressed request rfl
    | update request => cases same
    | delete request => cases same
  rw [contents_callOf, succeeds_callOf, run]
  constructor
  · rintro same ⟨_, ⟨⟩, succeeded⟩
    exact effect.changes known succeeded same
  · intro quiet
    have failed : result.succeeded = false :=
      Bool.eq_false_of_not_eq_true fun succeeded => quiet ⟨result, rfl, succeeded⟩
    apply effect.keeps failed
    intro deleteRequest documentUuid same converted
    cases write with
    | upsert request => exact absurd rfl (addressed request)
    | update request => cases same
    | delete request =>
        cases same
        exact present deleteRequest documentUuid rfl converted

/-- The tables and the request let the write through for some generated uuid. -/
def WriteAccepted (tables : Tables) : WriteRequest → Prop
  | .upsert request => ∃ generated documentUuid following,
      UpsertWrites tables generated request documentUuid following
  | .update request => ∃ existing documentUuid following,
      UpdateWrites tables request existing documentUuid following
  | .delete request => ∃ documentUuid, DeleteAccepted tables request documentUuid ∧
      (documentByUuid tables documentUuid).isSome = true

/-- A write succeeds for some generated uuid exactly when it is accepted. -/
theorem writeAccepted_iff (clean : connection.Clean) :
    (∃ generated, write.Succeeds (documentStore generated) connection) ↔
      WriteAccepted connection.committed write := by
  constructor
  · rintro ⟨generated, succeeds⟩
    obtain ⟨result, following, run, -, effect⟩ :=
      repositorySession_effect clean (callOf generated write)
    rw [succeeds_callOf, run] at succeeds
    obtain ⟨_, ⟨⟩, succeeded⟩ := succeeds
    generalize following.committed = tables at effect
    cases write with
    | upsert request =>
        change CallEffect _ (.upsert generated request) _ _ at effect
        cases effect with
        | upserted writes => exact ⟨generated, _, _, writes⟩
        | failed unsuccessful =>
            rw [unsuccessful] at succeeded
            cases succeeded
    | update request =>
        change CallEffect _ (.update request) _ _ at effect
        cases effect with
        | updated writes => exact ⟨_, _, _, writes⟩
        | failed unsuccessful =>
            rw [unsuccessful] at succeeded
            cases succeeded
    | delete request =>
        change CallEffect _ (.delete request) _ _ at effect
        cases effect with
        | @deleted _ documentUuid accepted =>
            refine ⟨documentUuid, accepted, ?_⟩
            exact deletedResult_succeeded.mp succeeded
        | failed unsuccessful =>
            rw [unsuccessful] at succeeded
            cases succeeded
  · intro accepted
    cases write with
    | upsert request =>
        obtain ⟨generated, documentUuid, following, writes⟩ := accepted
        have done := upsertDocument_accepted clean writes
        refine ⟨generated, _, serveSession_ok.mpr (congrArg Prod.fst done), ?_⟩
        unfold upsertedResult
        split <;> rfl
    | update request =>
        obtain ⟨existing, documentUuid, following, writes⟩ := accepted
        have done := updateDocument_accepted clean writes
        exact ⟨request.documentUuid, _, serveSession_ok.mpr (congrArg Prod.fst done), rfl⟩
    | delete request =>
        obtain ⟨documentUuid, accepted, present⟩ := accepted
        have done := deleteDocument_accepted clean accepted
        exact ⟨request.documentUuid, _, serveSession_ok.mpr (congrArg Prod.fst done),
          deletedResult_succeeded.mpr present⟩

end Writes

section Lookup
variable {connection : Connection} {given documentUuid : DocumentUuid}
  {document : MeadowlarkDocument}

omit [NodeRuntime] in
/-- A clean connection selects from the committed tables. -/
theorem run_selectByUuid (clean : connection.Clean)
    (converted : uuidColumn given = .ok documentUuid) :
    connection.run (query (.findDocumentByDocumentUuid given)) =
      (.ok (connection.committed.documents.filter (·.documentUuid = documentUuid)),
        connection) := by
  obtain ⟨committed, block⟩ := connection
  change Connection.send _ (.findDocumentByDocumentUuid given) = _
  rcases clean with same | same
  · obtain rfl : block = .idle := same
    simp only [Connection.send, execute, converted]
    rfl
  · obtain rfl : block = .active committed := same
    simp only [Connection.send, execute, converted]
    rfl

/-- What the frontend finds out about a row. -/
def storedDocument (document : MeadowlarkDocument) : StoredDocument where
  projectName := document.projectName
  resourceName := document.resourceName
  createdBy := document.createdBy
  edfiDoc := document.edfiDoc
  lastModifiedAt := document.lastModifiedAt

/-- The check and the read select the same row. -/
theorem serves_of_found (generated : DocumentUuid) (clean : connection.Clean)
    (converted : uuidColumn given = .ok documentUuid)
    (found : documentByUuid connection.committed documentUuid = some document) :
    (documentStore generated).Serves connection given (storedDocument document) where
  checked frontendRequest named := by
    have searched : connection.run (findOwnershipForDocumentByDocumentUuid given) =
        (.ok (some document.createdBy), connection) := by
      unfold findOwnershipForDocumentByDocumentUuid
      rw [run_bind_ok (run_selectByUuid clean converted), run_pure, List.head?_filter]
      change (Except.ok ((documentByUuid connection.committed documentUuid).map _), _) = _
      rw [found]
      rfl
    have answered : connection.run (rejectByOwnershipSecurity frontendRequest) =
        (.ok (accessTo frontendRequest document.createdBy), connection) := by
      unfold rejectByOwnershipSecurity accessTo
      by_cases reads : ReadsDescriptor frontendRequest
      · rw [if_pos reads]
        exact congrArg connection.run (if_pos reads)
      · rw [if_neg reads]
        refine (congrArg connection.run (if_neg reads)).trans ?_
        rw [run_tryCatch]
        unfold tryOwnership
        rw [named]
        dsimp only
        rw [run_bind_ok searched, run_pure]
        rfl
    change serveSession _ connection = _
    unfold serveSession
    rw [answered]
    rfl
  read getRequest named := by
    have searched : connection.run (findDocumentByDocumentUuid given) =
        (.ok (some document), connection) := by
      unfold findDocumentByDocumentUuid
      rw [run_bind_ok (run_selectByUuid clean converted), run_pure, List.head?_filter]
      exact congrArg (fun found => (Except.ok found, connection)) found
    have answered : connection.run (getDocumentByDocumentUuid getRequest) =
        (.ok (.getSuccess given document.edfiDoc document.lastModifiedAt), connection) := by
      unfold getDocumentByDocumentUuid tryGet
      rw [run_tryCatch, named, run_bind_ok searched]
      rfl
    change serveSession _ connection = _
    unfold serveSession
    rw [answered]
    rfl

end Lookup
end Meadowlark.Postgres
