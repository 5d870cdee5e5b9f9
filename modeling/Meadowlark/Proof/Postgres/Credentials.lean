import Meadowlark.Construction.Postgres.Authorization
import Meadowlark.Proof.Authorization.Credentials
import Meadowlark.Proof.Postgres.Sequential

namespace Meadowlark.Postgres
open Meadowlark.Core Systems Authorization

def AuthorizationDocument.toRow (authorizationClient : AuthorizationDocument) : ClientRow where
  clientSecretHashed := authorizationClient.clientSecretHashed
  clientName := authorizationClient.clientName
  active := some authorizationClient.active
  roles := authorizationClient.roles

/-- The first row with the id of the client. -/
def findClient (authorizations : List AuthorizationDocument) (clientId : String) :
    Option AuthorizationDocument := authorizations.find? fun client => client.clientId = clientId

def clientRows (connection : Connection) (clientId : String) : Option ClientRow :=
  (findClient connection.committed.authorizations clientId).map (·.toRow)

def Idle (connection : Connection) : Prop := ∃ committed, connection = ⟨committed, .idle⟩

section Rows
variable (authorizations : List AuthorizationDocument)

theorem findClient_filter (clientId : String) :
    (authorizations.filter (·.clientId = clientId)).head? = findClient authorizations clientId := by
  unfold findClient
  rw [List.head?_filter]

/-- A row that is written is the one that its id finds. -/
theorem findClient_replace (written : AuthorizationDocument) (clientId : String) :
    findClient (authorizations.filter (·.clientId ≠ written.clientId) ++ [written]) clientId =
      if clientId = written.clientId then some written
      else findClient authorizations clientId := by
  unfold findClient
  induction authorizations with
  | nil =>
      by_cases same : clientId = written.clientId
      · simp [same]
      · simp [same, Ne.symm same]
  | cons first rest ih =>
      by_cases replaced : first.clientId = written.clientId
      · by_cases same : clientId = written.clientId
        · simpa [replaced, same] using ih
        · simpa [replaced, same, Ne.symm same] using ih
      · by_cases found : first.clientId = clientId
        · subst found
          simp [replaced]
        · simpa [replaced, found] using ih

/-- A change of the rows of one client keeps every id. -/
theorem findClient_map {change : AuthorizationDocument → AuthorizationDocument}
    (keepsId : ∀ client, (change client).clientId = client.clientId) (changed clientId : String) :
    findClient (authorizations.map fun client =>
        if some client.clientId = some changed then change client else client) clientId =
      if clientId = changed then (findClient authorizations clientId).map change
      else findClient authorizations clientId := by
  unfold findClient
  induction authorizations with
  | nil => simp
  | cons first rest ih =>
      by_cases found : first.clientId = clientId
      · subst found
        by_cases same : first.clientId = changed
        · simp [same, keepsId]
        · simp [same]
      · by_cases same : first.clientId = changed
        · have other : ¬ clientId = changed := fun equal => found (same.trans equal.symm)
          simpa [same, keepsId, found, other, Ne.symm other] using ih
        · simpa [same, found] using ih

theorem clientRows_replace (committed : Tables) (written : AuthorizationDocument) :
    clientRows ⟨{ committed with
        authorizations := committed.authorizations.filter (·.clientId ≠ written.clientId) ++
          [written] }, .idle⟩ =
      Function.update (clientRows ⟨committed, .idle⟩) written.clientId (some written.toRow) := by
  funext clientId
  unfold clientRows
  rw [findClient_replace]
  by_cases same : clientId = written.clientId
  · subst same
    simp
  · simp [same]

/-- The change of a row that is there changes the row of its client alone. -/
theorem clientRows_map {committed : Tables} {clientId : Option String}
    (change : AuthorizationDocument → AuthorizationDocument)
    (keepsId : ∀ client, (change client).clientId = client.clientId)
    (touched : 0 < committed.authorizations.countP (some ·.clientId = clientId)) :
    ∃ changed, clientId = some changed ∧
      clientRows ⟨{ committed with
          authorizations := committed.authorizations.map fun client =>
            if some client.clientId = clientId then change client else client }, .idle⟩ =
        Function.update (clientRows ⟨committed, .idle⟩) changed
          ((findClient committed.authorizations changed).map fun client =>
            (change client).toRow) := by
  obtain ⟨client, stored, same⟩ := List.countP_pos_iff.mp touched
  obtain rfl : some client.clientId = clientId := by simpa using same
  refine ⟨client.clientId, rfl, ?_⟩
  funext other
  unfold clientRows
  rw [findClient_map _ keepsId]
  by_cases named : other = client.clientId
  · subst named
    simp [Function.comp_def]
  · simp [named]

end Rows

section Runs
variable [ColumnTypes] (committed : Tables)

theorem updateAuthorizationClient_run (request : UpdateAuthorizationClientRequest) :
    authorizationStore.updateAuthorizationClient request ⟨committed, .idle⟩ =
      (.ok (if decide (committed.authorizations.countP (some ·.clientId = request.clientId) > 0) = true
          then .updateSuccess else .updateFailedNotExists),
        ⟨{ committed with
          authorizations := committed.authorizations.map fun client =>
            if some client.clientId = request.clientId then
              { client with
                clientName := request.clientName
                roles := request.roles
                active := request.active.getD true }
            else client }, .idle⟩) := rfl

theorem resetAuthorizationClientSecret_run (request : ResetAuthorizationClientSecretRequest) :
    authorizationStore.resetAuthorizationClientSecret request ⟨committed, .idle⟩ =
      (.ok (if decide (committed.authorizations.countP (some ·.clientId = request.clientId) > 0) = true
          then .resetSuccess else .resetFailedNotExists),
        ⟨{ committed with
          authorizations := committed.authorizations.map fun client =>
            if some client.clientId = request.clientId then
              { client with clientSecretHashed := request.clientSecretHashed }
            else client }, .idle⟩) := rfl

/-- The insert of the first admin follows a count of the admins. -/
theorem bootstrapped_rows {request : CreateAuthorizationClientRequest} {following : Connection}
    (done : authorizationStore.tryCreateBootstrapAuthorizationAdmin request ⟨committed, .idle⟩ =
      (.ok .createSuccess, following)) :
    Idle following ∧ clientRows following =
      Function.update (clientRows ⟨committed, .idle⟩) request.clientId (some (rowOf request)) := by
  have counted : (Connection.mk committed .idle).run checkBootstrapAdminExists =
      (.ok (decide (committed.authorizations.countP (·.isBootstrapAdmin) > 0)),
        ⟨committed, .idle⟩) := rfl
  change serveSession (tryCreateBootstrapAuthorizationAdminDocument request)
    ⟨committed, .idle⟩ = _ at done
  rw [serveSession, tryCreateBootstrapAuthorizationAdminDocument, run_tryCatch,
    tryCreateBootstrapAdmin, run_bind_ok counted] at done
  cases exist : decide (committed.authorizations.countP (·.isBootstrapAdmin) > 0) with
  | true =>
      rw [exist] at done
      cases done
  | false =>
      rw [exist] at done
      cases done
      exact ⟨⟨_, rfl⟩, clientRows_replace committed _⟩

end Runs

/-- The table stores an absent flag as set. -/
theorem keepsClients [ColumnTypes] :
    KeepsClients authorizationStore Idle clientRows (fun active => some (active.getD true)) where
  created := by
    rintro request connection following ⟨committed, rfl⟩ done
    cases done
    exact ⟨⟨_, rfl⟩, clientRows_replace committed _⟩
  bootstrapped := by
    rintro request connection following ⟨committed, rfl⟩ done
    exact bootstrapped_rows committed done
  updated := by
    rintro request connection following ⟨committed, rfl⟩ done
    rw [updateAuthorizationClient_run] at done
    split at done
    · rename_i touched
      cases done
      obtain ⟨changed, named, rows⟩ := clientRows_map (fun client =>
        { client with
          clientName := request.clientName
          roles := request.roles
          active := request.active.getD true }) (fun _ => rfl) (of_decide_eq_true touched)
      refine ⟨⟨_, rfl⟩, changed, named, rows.trans ?_⟩
      unfold clientRows
      rw [Option.map_map]
      rfl
    · cases done
  reset := by
    rintro request connection following ⟨committed, rfl⟩ done
    rw [resetAuthorizationClientSecret_run] at done
    split at done
    · rename_i touched
      cases done
      obtain ⟨changed, named, rows⟩ := clientRows_map (fun client =>
        { client with clientSecretHashed := request.clientSecretHashed }) (fun _ => rfl)
          (of_decide_eq_true touched)
      refine ⟨⟨_, rfl⟩, changed, named, rows.trans ?_⟩
      unfold clientRows
      rw [Option.map_map]
      rfl
    · cases done
  found := by
    rintro request connection ⟨committed, rfl⟩
    have searched : (Connection.mk committed .idle).run
        (getAuthorizationClientDocumentById request.clientId) =
        (.ok (findClient committed.authorizations request.clientId), ⟨committed, .idle⟩) := by
      rw [← findClient_filter]
      rfl
    change (serveSession (getAuthorizationClientDocument request) ⟨committed, .idle⟩).1 = _
    rw [serveSession, getAuthorizationClientDocument, run_tryCatch, run_bind_ok searched]
    unfold clientRows
    cases findClient committed.authorizations request.clientId with
    | none => rfl
    | some client => rfl
  explicit active := rfl

end Meadowlark.Postgres
