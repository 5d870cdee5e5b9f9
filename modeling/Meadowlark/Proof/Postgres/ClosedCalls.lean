import Meadowlark.Proof.Postgres.Exits

namespace Meadowlark.Postgres
open Meadowlark.Core Systems Authorization

section Helpers
variable {A : Type}

theorem plain_select {statement : Statement} (f : statement.Rows → A)
    (plain : statement.plain = true) : Plain (query statement >>= fun rows => pure (f rows)) :=
  (plain_query plain).bind fun _ => plain_pure _

theorem plain_findDocumentByMeadowlarkId (meadowlarkId : MeadowlarkId) :
    Plain (findDocumentByMeadowlarkId meadowlarkId) := plain_select _ rfl

theorem plain_findDocumentByDocumentUuid (documentUuid : DocumentUuid) :
    Plain (findDocumentByDocumentUuid documentUuid) := plain_select _ rfl

theorem plain_findReferringDocumentInfo (referringMeadowlarkIds : List MeadowlarkId) :
    Plain (findReferringDocumentInfoForErrorReporting referringMeadowlarkIds) :=
  plain_select _ rfl

theorem plain_deleteDocumentRow (documentUuid : DocumentUuid) :
    Plain (deleteDocumentRowByDocumentUuid documentUuid) := plain_select _ rfl

variable [NodeRuntime]

theorem plain_validateReferenceList (references : List DocumentReference) :
    Plain (validateReferenceList references) := by
  have found : Plain (findReferencedMeadowlarkIdsByMeadowlarkId
      (references.map getMeadowlarkIdForDocumentReference)) := by
    unfold findReferencedMeadowlarkIdsByMeadowlarkId
    split
    · exact plain_pure []
    · exact plain_query rfl
  exact found.bind fun _ => plain_pure _

theorem plain_validateReferences (documentReferences descriptorReferences : List DocumentReference) :
    Plain (validateReferences documentReferences descriptorReferences) :=
  (plain_validateReferenceList _).bind fun _ =>
    (plain_validateReferenceList _).bind fun _ => plain_pure _

omit [NodeRuntime] in
theorem plain_writeDocument (upsertRequest : UpsertRequest) (documentUuid : DocumentUuid)
    (isInsert : Bool) : Plain (writeDocument upsertRequest documentUuid isInsert) := by
  unfold writeDocument
  split
  · exact plain_select _ rfl
  · exact plain_select _ rfl

theorem plain_rewrite (existingMeadowlarkId : MeadowlarkId) (documentUuid : DocumentUuid)
    (meadowlarkId : MeadowlarkId) (documentInfo : DocumentInfo) :
    Plain (rewriteAliasesAndReferences existingMeadowlarkId documentUuid meadowlarkId
      documentInfo) := by
  apply Plain.bind (plain_select _ rfl)
  intro _
  apply Plain.bind (plain_forM (fun aliasId => (plain_select _ rfl).bind fun _ => plain_pure ()) _)
  intro _
  apply Plain.bind (plain_select _ rfl)
  intro _
  exact plain_forM (fun ref => (plain_select _ rfl).bind fun _ => plain_pure ()) _

end Helpers

section Documents
variable [NodeRuntime] [ColumnTypes] {committed : Tables}

theorem checks_superclassIdentity (upsertRequest : UpsertRequest) (isInsert : Bool) :
    Checks UpsertResult.succeeded True committed (checkSuperclassIdentity upsertRequest isInsert)
      committed := by
  unfold checkSuperclassIdentity
  split
  · apply checks_read (plain_query rfl) rfl
    split
    · exact checks_pass trivial
    · apply checks_read (plain_findReferringDocumentInfo _) (run_findReferringDocumentInfo _)
      exact checks_refuse rfl
  · exact checks_pass trivial

theorem checks_upsertReferences (upsertRequest : UpsertRequest) (isInsert : Bool) :
    Checks UpsertResult.succeeded True committed (checkUpsertReferences upsertRequest isInsert)
      committed := by
  unfold checkUpsertReferences
  split
  · apply checks_read (plain_validateReferences _ _) (run_validateReferences _)
    split
    · exact checks_pass trivial
    · apply checks_read (plain_findReferringDocumentInfo _) (run_findReferringDocumentInfo _)
      apply checks_refuse
      split <;> rfl
  · exact checks_pass trivial

theorem checks_updateReferences (updateRequest : UpdateRequest)
    (existingMeadowlarkId : MeadowlarkId) :
    Checks UpdateResult.succeeded True committed
      (checkUpdateReferences updateRequest existingMeadowlarkId) committed := by
  unfold checkUpdateReferences
  split
  · apply checks_read (plain_validateReferences _ _) (run_validateReferences _)
    split
    · exact checks_pass trivial
    · apply checks_read (plain_findReferringDocumentInfo _) (run_findReferringDocumentInfo _)
      exact checks_refuse rfl
  · exact checks_pass trivial

theorem upsertDocument_closes {generated : DocumentUuid} {upsertRequest : UpsertRequest}
    (current : ∀ existing ∈ documentById committed upsertRequest.meadowlarkId,
      existing.lastModifiedAt < upsertRequest.documentInfo.requestTimestamp) :
    Always (Closed UpsertResult.succeeded committed (upsertDocument generated upsertRequest))
      (upsertDocument generated upsertRequest) ⟨committed, .idle⟩ := by
  have fresh : ((documentById committed upsertRequest.meadowlarkId).any
      fun existing => existing.lastModifiedAt ≥ upsertRequest.documentInfo.requestTimestamp) =
        false := by
    cases found : documentById committed upsertRequest.meadowlarkId with
    | none => rfl
    | some existing => simpa using current existing found
  apply closes_caught
  · apply coupled_step (plain_findDocumentByMeadowlarkId _) (run_findDocumentByMeadowlarkId _)
    simp only [fresh, Bool.false_eq_true, if_false]
    apply coupled_check (checks_superclassIdentity _ _) fun _ => rfl
    intro _
    apply coupled_check (checks_upsertReferences _ _) fun _ => rfl
    intro _
    apply coupled_bind (plain_writeDocument _ _ _)
    intro _ following _
    apply coupled_bind (plain_rewrite _ _ _ _)
    intro _ following _
    apply coupled_committed
    left
    split <;> rfl
  · exact fun error => rfl

theorem updateDocument_closes {updateRequest : UpdateRequest}
    (writes : ∀ documentUuid, uuidColumn updateRequest.documentUuid = .ok documentUuid →
      ∃ existing, documentByUuid committed documentUuid = some existing ∧
        existing.lastModifiedAt < updateRequest.documentInfo.requestTimestamp ∧
        (updateRequest.resourceInfo.allowIdentityUpdates = true ∨
          existing.meadowlarkId = updateRequest.meadowlarkId)) :
    Always (Closed UpdateResult.succeeded committed (updateDocumentByDocumentUuid updateRequest))
      (updateDocumentByDocumentUuid updateRequest) ⟨committed, .idle⟩ := by
  apply closes_caught
  · cases converted : uuidColumn updateRequest.documentUuid with
    | error error =>
        exact coupled_thrown (plain_findDocumentByDocumentUuid _)
          (run_findDocumentByDocumentUuid_error converted)
    | ok documentUuid =>
        obtain ⟨existing, found, current, permitted⟩ := writes documentUuid converted
        have unchanged : ¬ (¬ updateRequest.resourceInfo.allowIdentityUpdates = true ∧
            existing.meadowlarkId ≠ updateRequest.meadowlarkId) := by
          rcases permitted with allowed | same
          · simp [allowed]
          · simp [same]
        apply coupled_step (plain_findDocumentByDocumentUuid _)
          (run_findDocumentByDocumentUuid_ok converted)
        rw [found]
        simp only
        rw [if_neg (not_le.mpr current), if_neg unchanged]
        apply coupled_check (checks_updateReferences _ _) fun _ => rfl
        intro _
        have stored := documentByUuid_some found
        have touched : committed.documents.countP (·.documentUuid = documentUuid) > 0 :=
          List.countP_pos_iff.mpr ⟨existing, stored.1, by simpa using stored.2⟩
        cases written : committed.updateDocument updateRequest documentUuid with
        | error error =>
            obtain ⟨error, thrown⟩ := @run_updateDocument_error _ committed _ _
              fun other following same done => by
                obtain rfl := Except.ok.inj (converted.symm.trans same)
                rw [written] at done
                cases done
            exact coupled_thrown (plain_select _ rfl) thrown
        | ok following =>
            apply coupled_step (plain_select _ rfl) (run_updateDocument_ok converted written)
            apply coupled_bind (plain_rewrite _ _ _ _)
            intro _ last _
            apply coupled_committed
            left
            simp [touched, UpdateResult.succeeded]
  · exact fun error => rfl

omit [NodeRuntime] in
theorem checks_beforeDelete {deleteRequest : DeleteRequest} {documentUuid : DocumentUuid}
    (converted : uuidColumn deleteRequest.documentUuid = .ok documentUuid) :
    Checks DeleteResult.succeeded (DeleteAccepted committed deleteRequest documentUuid) committed
      (checkBeforeDelete deleteRequest (aliasRows committed documentUuid)) committed := by
  unfold checkBeforeDelete checkForReferences
  split
  · split
    · exact checks_refuse rfl
    · rename_i present
      apply checks_read (plain_query rfl) rfl
      change Checks _ _ _ (if foreignReferences committed documentUuid = [] then pure none else _) _
      split
      · rename_i none
        have unreferenced := (foreignReferences_nil committed documentUuid).mp none
        exact checks_pass ⟨converted, fun _ => present, fun _ => unreferenced⟩
      · apply checks_read (plain_findReferringDocumentInfo _) (run_findReferringDocumentInfo _)
        apply checks_refuse
        split <;> rfl
  · rename_i unvalidated
    exact checks_pass ⟨converted, fun validates => absurd validates unvalidated,
      fun validates => absurd validates unvalidated⟩

omit [NodeRuntime] in
theorem deleteDocument_closes {deleteRequest : DeleteRequest}
    (kept : ∀ documentUuid, DeleteAccepted committed deleteRequest documentUuid →
      (deletedResult committed documentUuid).succeeded = false →
        committed.without documentUuid (deletedId committed documentUuid) = committed) :
    Always (Closed DeleteResult.succeeded committed (deleteDocumentByDocumentUuid deleteRequest))
      (deleteDocumentByDocumentUuid deleteRequest) ⟨committed, .idle⟩ := by
  apply closes_caught
  · cases converted : uuidColumn deleteRequest.documentUuid with
    | error error => exact coupled_thrown (plain_query rfl) (run_findAliases_error converted)
    | ok documentUuid =>
        apply coupled_step (plain_query rfl) (run_findAliases_ok converted)
        apply coupled_check (checks_beforeDelete converted) fun _ => rfl
        intro accepted
        apply coupled_step (plain_deleteDocumentRow _) (run_deleteDocumentRow converted)
        apply coupled_step (plain_select _ rfl) rfl
        apply coupled_step (plain_select _ rfl) rfl
        apply coupled_committed
        cases answered : (deletedResult committed documentUuid).succeeded with
        | true => exact .inl rfl
        | false => exact .inr (kept documentUuid accepted answered)
  · exact fun error => rfl

omit [NodeRuntime] in
theorem getDocument_closes (getRequest : GetRequest) {succeeded : GetResult → Bool}
    (fails : succeeded .unknownFailure = false) :
    Always (Closed succeeded committed (getDocumentByDocumentUuid getRequest))
      (getDocumentByDocumentUuid getRequest) ⟨committed, .idle⟩ := by
  apply closes_settled _ fails
  unfold tryGet findDocumentByDocumentUuid
  simp only [bind_assoc, pure_bind]
  apply settles_read rfl
  intro rows
  split
  · exact settles_pure
  · exact settles_pure

theorem rejectByOwnershipSecurity_closes (frontendRequest : FrontendRequest)
    {succeeded : SecurityResult → Bool} (skips : succeeded .notApplicable = false)
    (fails : succeeded .unknownFailure = false) :
    Always (Closed succeeded committed (rejectByOwnershipSecurity frontendRequest))
      (rejectByOwnershipSecurity frontendRequest) ⟨committed, .idle⟩ := by
  unfold rejectByOwnershipSecurity
  split
  · exact closes_pure skips
  · apply closes_settled _ fails
    unfold tryOwnership
    split
    · unfold findOwnershipForDocumentByDocumentUuid
      simp only [bind_assoc, pure_bind]
      exact settles_read rfl fun rows => settles_pure
    · simp only
      split
      · exact settles_pure
      · unfold findOwnershipForDocumentByMeadowlarkId
        simp only [bind_assoc, pure_bind]
        exact settles_read rfl fun rows => settles_pure

end Documents

section Clients
variable [ColumnTypes] {committed : Tables}

theorem createAuthorizationClient_closes (request : CreateAuthorizationClientRequest)
    {succeeded : CreateAuthorizationClientResult → Bool} (created : succeeded .createSuccess = true)
    (fails : succeeded .unknownFailure = false) :
    Always (Closed succeeded committed (createAuthorizationClientDocument request))
      (createAuthorizationClientDocument request) ⟨committed, .idle⟩ := by
  apply closes_caught
  · apply coupled_step (plain_select _ rfl) rfl
    exact coupled_committed (.inl created)
  · exact fun error => fails

theorem bootstrapAdmin_closes (request : CreateAuthorizationClientRequest)
    {succeeded : TryCreateBootstrapAuthorizationAdminResult → Bool}
    (created : succeeded .createSuccess = true) (fails : succeeded .unknownFailure = false) :
    Always (Closed succeeded committed (tryCreateBootstrapAuthorizationAdminDocument request))
      (tryCreateBootstrapAuthorizationAdminDocument request) ⟨committed, .idle⟩ := by
  apply closes_settled _ fails
  unfold tryCreateBootstrapAdmin checkBootstrapAdminExists insertBootstrapAdmin
    insertOrUpdateAuthorization
  simp only [bind_assoc, pure_bind]
  apply settles_read rfl
  intro total
  split
  · exact settles_pure
  · apply settles_write rfl
    intro rows following executed failed
    cases executed
    simp [created] at failed

theorem getAuthorizationClient_closes (request : GetAuthorizationClientRequest)
    {succeeded : GetAuthorizationClientResult → Bool} (fails : succeeded .unknownFailure = false) :
    Always (Closed succeeded committed (getAuthorizationClientDocument request))
      (getAuthorizationClientDocument request) ⟨committed, .idle⟩ := by
  apply closes_settled _ fails
  unfold getAuthorizationClientDocumentById
  simp only [bind_assoc, pure_bind]
  exact settles_read rfl fun rows => settles_pure

theorem getAllAuthorizationClients_closes {succeeded : GetAllAuthorizationClientsResult → Bool}
    (fails : succeeded .unknownFailure = false) :
    Always (Closed succeeded committed getAllAuthorizationClientDocuments)
      getAllAuthorizationClientDocuments ⟨committed, .idle⟩ := by
  apply closes_settled _ fails
  exact settles_read rfl fun rows => settles_pure

omit [ColumnTypes] in
/-- A change of the rows of a client without a row changes nothing. -/
theorem authorizations_unchanged {clientId : Option String}
    {change : AuthorizationDocument → AuthorizationDocument}
    (none : committed.authorizations.countP (some ·.clientId = clientId) = 0) :
    ({ committed with
      authorizations := committed.authorizations.map fun client =>
        if some client.clientId = clientId then change client else client } : Tables) = committed := by
  have same : (committed.authorizations.map fun client =>
      if some client.clientId = clientId then change client else client) =
        committed.authorizations := by
    conv_rhs => rw [← List.map_id committed.authorizations]
    apply List.map_congr_left
    intro client stored
    have other := List.countP_eq_zero.mp none client stored
    rw [if_neg (by simpa using other)]
    rfl
  rw [same]

theorem updateAuthorizationClient_closes (request : UpdateAuthorizationClientRequest)
    {succeeded : UpdateAuthorizationClientResult → Bool}
    (updated : succeeded .updateSuccess = true) (fails : succeeded .unknownFailure = false) :
    Always (Closed succeeded committed (updateAuthorizationClientDocument request))
      (updateAuthorizationClientDocument request) ⟨committed, .idle⟩ := by
  apply closes_settled _ fails
  unfold updateAuthorizationClientDocumentByClientId
  simp only [bind_assoc, pure_bind]
  apply settles_write rfl
  intro rows following executed failed
  cases executed
  apply authorizations_unchanged
  by_contra touched
  have counted : decide (committed.authorizations.countP (some ·.clientId = request.clientId) > 0) =
      true := by
    simpa [Nat.pos_iff_ne_zero] using touched
  rw [if_pos counted, updated] at failed
  cases failed

theorem resetAuthorizationClientSecret_closes (request : ResetAuthorizationClientSecretRequest)
    {succeeded : ResetAuthorizationClientSecretResult → Bool}
    (reset : succeeded .resetSuccess = true) (fails : succeeded .unknownFailure = false) :
    Always (Closed succeeded committed (resetAuthorizationClientSecret request))
      (resetAuthorizationClientSecret request) ⟨committed, .idle⟩ := by
  apply closes_settled _ fails
  unfold resetAuthorizationClientSecretByClientId
  simp only [bind_assoc, pure_bind]
  apply settles_write rfl
  intro rows following executed failed
  cases executed
  apply authorizations_unchanged
  by_contra touched
  have counted : decide (committed.authorizations.countP (some ·.clientId = request.clientId) > 0) =
      true := by
    simpa [Nat.pos_iff_ne_zero] using touched
  rw [if_pos counted, reset] at failed
  cases failed

end Clients

section Pools
variable [NodeRuntime] [ColumnTypes]

/-- The calls that leave no block open and write nothing when they fail.
An upsert is newer than the row of its id.
An update finds a row that it may rewrite.
A delete that finds no row finds no side rows either. -/
def Operation.Tidy (tables : Tables) : Operation → Prop
  | .upsertDocument _ request =>
      ∀ existing ∈ documentById tables request.meadowlarkId,
        existing.lastModifiedAt < request.documentInfo.requestTimestamp
  | .updateDocumentById request =>
      ∀ documentUuid, uuidColumn request.documentUuid = .ok documentUuid →
        ∃ existing, documentByUuid tables documentUuid = some existing ∧
          existing.lastModifiedAt < request.documentInfo.requestTimestamp ∧
          (request.resourceInfo.allowIdentityUpdates = true ∨
            existing.meadowlarkId = request.meadowlarkId)
  | .deleteDocumentById request =>
      ∀ documentUuid, DeleteAccepted tables request documentUuid →
        (deletedResult tables documentUuid).succeeded = false →
          tables.without documentUuid (deletedId tables documentUuid) = tables
  | _ => True

/-- The call ends outside any block.
A success has committed exactly its writes, and anything else has committed nothing. -/
abbrev Operation.Closes (operation : Operation) (before : Tables)
    (outcome : Except SqlError OperationResult) (following : Connection) : Prop :=
  Closed OperationResult.succeeded before (facadeSession operation) outcome following

theorem Operation.Tidy.closes {operation : Operation} {tables : Tables}
    (tidy : operation.Tidy tables) :
    Always (operation.Closes tables) (facadeSession operation) ⟨tables, .idle⟩ := by
  cases operation with
  | deleteDocumentById request => exact closes_map (fun _ => rfl) (deleteDocument_closes tidy)
  | getDocumentById request => exact closes_map (fun _ => rfl) (getDocument_closes request rfl)
  | upsertDocument generated request => exact closes_map (fun _ => rfl) (upsertDocument_closes tidy)
  | updateDocumentById request => exact closes_map (fun _ => rfl) (updateDocument_closes tidy)
  | securityMiddleware frontendRequest =>
      exact closes_map (fun _ => rfl) (rejectByOwnershipSecurity_closes frontendRequest rfl rfl)
  | createAuthorizationClientDocument request =>
      exact closes_map (fun _ => rfl) (createAuthorizationClient_closes request rfl rfl)
  | tryCreateBootstrapAuthorizationAdminDocument request =>
      exact closes_map (fun _ => rfl) (bootstrapAdmin_closes request rfl rfl)
  | getAuthorizationClientDocument request =>
      exact closes_map (fun _ => rfl) (getAuthorizationClient_closes request rfl)
  | getAllAuthorizationClientDocuments =>
      exact closes_map (fun _ => rfl) (getAllAuthorizationClients_closes rfl)
  | updateAuthorizationClientDocument request =>
      exact closes_map (fun _ => rfl) (updateAuthorizationClient_closes request rfl rfl)
  | resetAuthorizationClientSecret request =>
      exact closes_map (fun _ => rfl) (resetAuthorizationClientSecret_closes request rfl rfl)

/-- A stale upsert answers inside the block that it opened. -/
theorem run_upsertDocument_stale {tables : Tables} {request : UpsertRequest}
    {existing : MeadowlarkDocument} (generated : DocumentUuid)
    (found : documentById tables request.meadowlarkId = some existing)
    (stale : request.documentInfo.requestTimestamp ≤ existing.lastModifiedAt) :
    ((⟨tables, .idle⟩ : Connection).run (upsertDocument generated request)) =
      (.ok (.upsertFailureWriteConflict none), working tables tables) := by
  have begun : (⟨tables, .idle⟩ : Connection).run beginTransaction =
    (.ok (), working tables tables) := run_beginTransaction (.inl rfl)
  have ran : (⟨tables, .idle⟩ : Connection).run (tryUpsert generated request) =
      (.ok (.upsertFailureWriteConflict none), working tables tables) := by
    unfold tryUpsert
    rw [run_bind_ok begun, run_bind_ok (run_findDocumentByMeadowlarkId _), found]
    simp only [Option.any_some]
    rw [if_pos (by simpa using stale)]
    rfl
  unfold upsertDocument
  rw [run_tryCatch, ran]

/-- An update that may not rewrite a row answers inside the block that it opened. -/
theorem run_updateDocument_refused {tables : Tables} {request : UpdateRequest}
    {documentUuid : DocumentUuid} (converted : uuidColumn request.documentUuid = .ok documentUuid)
    (refused : ¬ ∃ existing, documentByUuid tables documentUuid = some existing ∧
      existing.lastModifiedAt < request.documentInfo.requestTimestamp ∧
      (request.resourceInfo.allowIdentityUpdates = true ∨
        existing.meadowlarkId = request.meadowlarkId)) :
    ∃ failure, ((⟨tables, .idle⟩ : Connection).run (updateDocumentByDocumentUuid request)) =
      (.ok failure, working tables tables) := by
  have begun : (⟨tables, .idle⟩ : Connection).run beginTransaction =
    (.ok (), working tables tables) := run_beginTransaction (.inl rfl)
  have ran : ∃ failure, (⟨tables, .idle⟩ : Connection).run (tryUpdate request) =
      (.ok failure, working tables tables) := by
    unfold tryUpdate
    rw [run_bind_ok begun, run_bind_ok (run_findDocumentByDocumentUuid_ok converted)]
    cases found : documentByUuid tables documentUuid with
    | none => exact ⟨_, rfl⟩
    | some existing =>
        simp only
        split
        · exact ⟨_, rfl⟩
        · rename_i current
          split
          · exact ⟨_, rfl⟩
          · rename_i permitted
            exact absurd ⟨existing, found, not_le.mp current, by tauto⟩ refused
  obtain ⟨failure, ran⟩ := ran
  refine ⟨failure, ?_⟩
  unfold updateDocumentByDocumentUuid
  rw [run_tryCatch, ran]

/-- Without any fault, a call that is not tidy leaves its block open or its writes behind. -/
theorem Operation.tidy_of_closes {operation : Operation} {tables : Tables}
    (closes : operation.Closes tables ((⟨tables, .idle⟩ : Connection).run (facadeSession operation)).1
      ((⟨tables, .idle⟩ : Connection).run (facadeSession operation)).2) :
    operation.Tidy tables := by
  cases operation with
  | upsertDocument generated request =>
      intro existing found
      by_contra stale
      have idle := closes.block
      unfold facadeSession at idle
      rw [run_map, run_upsertDocument_stale generated found (not_lt.mp stale)] at idle
      cases idle
  | updateDocumentById request =>
      intro documentUuid converted
      by_contra refused
      obtain ⟨failure, ran⟩ := run_updateDocument_refused converted refused
      have idle := closes.block
      unfold facadeSession at idle
      rw [run_map, ran] at idle
      cases idle
  | deleteDocumentById request =>
      intro documentUuid accepted failed
      have ran : (⟨tables, .idle⟩ : Connection).run (deleteDocumentByDocumentUuid request) =
          (.ok (deletedResult tables documentUuid),
            ⟨tables.without documentUuid (deletedId tables documentUuid), .idle⟩) := by
        unfold deleteDocumentByDocumentUuid
        have clean : (⟨tables, .idle⟩ : Connection).Clean := .inl rfl
        rw [run_tryCatch, run_tryDelete_ok clean accepted]
      obtain ⟨result, answered, settled⟩ := closes.settled
      unfold facadeSession at answered settled
      rw [run_map, ran] at answered settled
      obtain rfl : OperationResult.delete (deletedResult tables documentUuid) = result :=
        Except.ok.inj answered
      have unsuccessful : (OperationResult.delete
        (deletedResult tables documentUuid)).succeeded = false := failed
      rw [unsuccessful] at settled
      exact settled
  | _ => exact trivial

/-- The call leaves its connection outside any block.
A success has committed exactly its writes, and anything else has committed nothing. -/
structure Pool.Closed (pool : Pool) (index : Nat) (operation : Operation)
    (outcome : Except SqlError OperationResult) (following : Pool) : Prop where
  block : following.blocks[index]? = some .idle
  settled : ∃ result, outcome = .ok result ∧ following.committed =
    if result.succeeded then (pool.committed.direct (facadeSession operation)).2 else pool.committed

variable {initial pool following : Pool} {index : Nat} {operation : Operation}
  {outcome : Except SqlError OperationResult}

def Pool.Idle (pool : Pool) : Prop := ∀ block ∈ pool.blocks, block = .idle

omit [NodeRuntime] [ColumnTypes] in
theorem Pool.Idle.present (idle : pool.Idle) (inside : index < pool.blocks.length) :
    pool.blocks[index]? = some .idle := by
  rw [List.getElem?_eq_getElem inside]
  exact congrArg some (idle _ (List.getElem_mem inside))

/-- A tidy call on an idle pool keeps it idle. -/
theorem Pool.Serves.closed (served : pool.Serves index operation outcome following)
    (idle : pool.Idle) (tidy : operation.Tidy pool.committed) :
    following.Idle ∧ pool.Closed index operation outcome following := by
  cases served with
  | serve present runs =>
      rename_i block last
      obtain rfl : block = .idle := idle block (List.mem_of_getElem? present)
      have closes := runs.postcondition tidy.closes
      have inside := (List.getElem?_eq_some_iff.mp present).1
      refine ⟨?_, ?_, closes.settled⟩
      · intro block listed
        rcases List.mem_or_eq_of_mem_set listed with kept | rfl
        · obtain ⟨before, stored, rfl⟩ := List.mem_map.mp kept
          rw [idle before stored]
          rfl
        · exact closes.block
      · rw [List.getElem?_set_self (by simpa using inside), closes.block]

/-- Every call runs without a fault if no statement throws. -/
theorem Pool.serves_run {block : TransactionBlock} (present : pool.blocks[index]? = some block)
    (operation : Operation) :
    pool.Serves index operation
      ((⟨pool.committed, block⟩ : Connection).run (facadeSession operation)).1
      ⟨((⟨pool.committed, block⟩ : Connection).run (facadeSession operation)).2.committed,
        (pool.blocks.map (TransactionBlock.rebase pool.committed
          ((⟨pool.committed, block⟩ : Connection).run (facadeSession operation)).2.committed)).set
            index ((⟨pool.committed, block⟩ : Connection).run (facadeSession operation)).2.block⟩ :=
  .serve present (Program.runs_of_interpret (fun _ _ => .sent) _ _)

theorem reached_idle (fresh : initial.Idle) (reached : Pool.Reached Operation.Tidy initial pool) :
    pool.Idle := by
  induction reached with
  | initial => exact fresh
  | serve reached permitted served ih => exact (served.closed ih permitted).1

/-- Tidy calls keep the pool idle.
On such a pool the tidy calls are the ones that close whatever statement throws. -/
theorem reached_closes (fresh : initial.Idle) (reached : Pool.Reached Operation.Tidy initial pool)
    (operation : Operation) (inside : index < pool.blocks.length) :
    pool.Idle ∧ ((∀ outcome following, pool.Serves index operation outcome following →
      pool.Closed index operation outcome following) ↔ operation.Tidy pool.committed) := by
  have idle := reached_idle fresh reached
  refine ⟨idle, ?_, ?_⟩
  · intro closed
    have faultless := closed _ _ (Pool.serves_run (idle.present inside) operation)
    apply Operation.tidy_of_closes
    refine ⟨?_, faultless.settled⟩
    have block := faultless.block
    rw [List.getElem?_set_self (by simpa using inside)] at block
    exact Option.some.inj block
  · intro tidy outcome following served
    exact (served.closed idle tidy).2

end Pools

section Examples
open Core.Sample Sample

/-- A pool of one client. -/
private def single (connection : Connection) : Pool := ⟨connection.committed, [connection.block]⟩

private theorem single_reached {allowed : Tables → Operation → Prop} {initial : Pool}
    {connection : Connection} {operation : Operation}
    (reached : @Pool.Reached runtime columns allowed initial (single connection))
    (permitted : allowed connection.committed operation) :
    @Pool.Reached runtime columns allowed initial
      (single (@Connection.run columns _ connection (@facadeSession runtime operation)).2) :=
  @Pool.Reached.serve runtime columns _ _ _ _ 0 _ _ reached permitted
    (@Pool.serves_run runtime columns (single connection) 0 _ rfl operation)

private def createClient : Operation :=
  .createAuthorizationClientDocument ⟨"client", "hash", "before", true, [.vendor], ⟨"trace"⟩⟩

private def postSchool : Operation :=
  .upsertDocument (documentUuid "000000000001")
    (upsertRequest (resource "School") "schoolId" "1" [] none 1 "client")

private def renameClient : Operation :=
  .updateAuthorizationClientDocument ⟨some "client", "after", some true, [.vendor], ⟨"trace"⟩⟩

private def idleStart : Connection := ⟨Tables.empty, .idle⟩

private abbrev after (connection : Connection) (operation : Operation) : Connection :=
  (@Connection.run columns _ connection (@facadeSession runtime operation)).2

/-- The second of two equal requests leaves its block open.
The next call answers with a success that is not committed. -/
theorem stale_upsert_open_block :
    ∃ pool following, @Pool.Reached runtime columns (fun _ _ => True) (single idleStart) pool ∧
      @Pool.Serves runtime columns pool 0 renameClient (.ok (.updateClient .updateSuccess))
        following ∧
      following.committed.authorizations.map (·.clientName) = ["before"] ∧
      ¬ @Pool.Closed runtime columns pool 0 renameClient (.ok (.updateClient .updateSuccess))
        following := by
  have reached : @Pool.Reached runtime columns (fun _ _ => True) (single idleStart)
      (single (after (after (after idleStart createClient) postSchool) postSchool)) :=
    single_reached (single_reached (single_reached (@Pool.Reached.initial runtime columns _ _)
      trivial) trivial) trivial
  have served := @Pool.serves_run runtime columns
    (single (after (after (after idleStart createClient) postSchool) postSchool)) 0 _ rfl renameClient
  have answered : (@Connection.run columns _
      (after (after (after idleStart createClient) postSchool) postSchool)
      (@facadeSession runtime renameClient)).1 = .ok (.updateClient .updateSuccess) := by
    decide +kernel
  have kept : (after (after (after (after idleStart createClient) postSchool) postSchool)
      renameClient).committed.authorizations.map (·.clientName) = ["before"] := by decide +kernel
  have written : (@Tables.direct columns _
      (after (after (after idleStart createClient) postSchool) postSchool).committed
      (@facadeSession runtime renameClient)).2.authorizations.map (·.clientName) = ["after"] := by
    decide +kernel
  change @Pool.Serves runtime columns _ _ _ (@Connection.run columns _
    (after (after (after idleStart createClient) postSchool) postSchool)
    (@facadeSession runtime renameClient)).1 _ at served
  rw [answered] at served
  refine ⟨_, _, reached, served, kept, ?_⟩
  rintro ⟨-, result, same, settled⟩
  cases same
  have names := congrArg (fun tables : Tables => tables.authorizations.map (·.clientName)) settled
  have clash : ["before"] = ["after"] := kept.symm.trans (names.trans written)
  exact absurd clash (by decide)

theorem reached_closes_renamedClient :
    ∃ pool, @Pool.Reached runtime columns (@Operation.Tidy columns) (single idleStart) pool ∧
      pool.committed.documents.length = 1 ∧
      ∀ outcome following, @Pool.Serves runtime columns pool 0 renameClient outcome following →
        @Pool.Closed runtime columns pool 0 renameClient outcome following := by
  have absent : documentById (after idleStart createClient).committed
      (upsertRequest (resource "School") "schoolId" "1" [] none 1 "client").meadowlarkId = none := by
    decide +kernel
  have tidy : @Operation.Tidy columns (after idleStart createClient).committed postSchool := by
    intro existing found
    rw [absent] at found
    cases found
  have reached : @Pool.Reached runtime columns (@Operation.Tidy columns) (single idleStart)
      (single (after (after idleStart createClient) postSchool)) :=
    single_reached (single_reached (@Pool.Reached.initial runtime columns _ _) trivial) tidy
  have fresh : (single idleStart).Idle := by
    rintro block (_ | ⟨_, nothing⟩)
    · rfl
    · cases nothing
  have stored : (after (after idleStart createClient) postSchool).committed.documents.length = 1 := by
    decide +kernel
  exact ⟨_, reached, stored,
    (@reached_closes runtime columns _ _ 0 fresh reached renameClient (by decide)).2.mpr trivial⟩

end Examples
end Meadowlark.Postgres
