import Meadowlark.Proof.Authorization.Directory
import Meadowlark.Proof.Authorization.Introspection
import Meadowlark.Proof.Mongo.Credentials
import Meadowlark.Proof.Postgres.Credentials

namespace Meadowlark
open Meadowlark.Core Systems Authorization

namespace Mongo

/-- The collection has one document for each id. -/
theorem listsRows : ListsRows clientDirectory (fun _ => True) clientRows := by
  intro clients _
  refine ⟨clients.items.map fun client =>
    ⟨client.id, client.clientName, client.active, client.roles⟩, ⟨?_, ?_⟩, fun _ => rfl⟩
  · have unique : (clients.items.map (·.id)).Nodup := clients.unique
    simpa [List.map_map, Function.comp_def] using unique
  · intro body
    rw [List.mem_map]
    unfold clientRows
    rw [Option.map_map, Option.map_eq_some_iff]
    constructor
    · rintro ⟨client, stored, rfl⟩
      exact ⟨client, (findClient_iff clients client.id client).mpr ⟨stored, rfl⟩, rfl⟩
    · rintro ⟨client, found, same⟩
      obtain ⟨stored, named⟩ := (findClient_iff clients body.clientId client).mp found
      refine ⟨client, stored, ?_⟩
      rw [← same, named]
      rfl

end Mongo

namespace Postgres

/-- The ids of the clients in the table are different. -/
def ClientsApart (committed : Tables) : Prop :=
  (committed.authorizations.map (·.clientId)).Nodup

def Listed (connection : Connection) : Prop := Idle connection ∧ ClientsApart connection.committed

section Rows
variable {authorizations : List AuthorizationDocument}

theorem clientIds_replace (apart : (authorizations.map (·.clientId)).Nodup)
    (written : AuthorizationDocument) :
    ((authorizations.filter (·.clientId ≠ written.clientId) ++ [written]).map
      (·.clientId)).Nodup := by
  rw [List.map_append, List.nodup_append]
  refine ⟨apart.sublist (List.filter_sublist.map _), by simp, ?_⟩
  intro clientId kept other added
  obtain ⟨client, inside, rfl⟩ := List.mem_map.mp kept
  obtain rfl : other = written.clientId := by simpa using added
  simpa using (List.mem_filter.mp inside).2

theorem clientIds_map (change : AuthorizationDocument → AuthorizationDocument)
    (keepsId : ∀ client, (change client).clientId = client.clientId)
    (apart : (authorizations.map (·.clientId)).Nodup) (clientId : Option String) :
    ((authorizations.map fun client =>
      if some client.clientId = clientId then change client else client).map
        (·.clientId)).Nodup := by
  have same : ((authorizations.map fun client =>
      if some client.clientId = clientId then change client else client).map (·.clientId)) =
        authorizations.map (·.clientId) := by
    rw [List.map_map]
    apply List.map_congr_left
    intro client _
    dsimp only [Function.comp]
    split
    · exact keepsId client
    · rfl
  rwa [same]

/-- With different ids, a row is the one that its id finds. -/
theorem findClient_of_mem (apart : (authorizations.map (·.clientId)).Nodup)
    {client : AuthorizationDocument} (stored : client ∈ authorizations) :
    findClient authorizations client.clientId = some client := by
  unfold findClient
  cases found : authorizations.find? (fun other => other.clientId = client.clientId) with
  | none => simpa using List.find?_eq_none.mp found client stored
  | some other =>
      have same : other.clientId = client.clientId := by simpa using List.find?_some found
      rw [List.inj_on_of_nodup_map apart (List.mem_of_find?_eq_some found) stored same]

end Rows

section Runs
variable [ColumnTypes]

/-- An accepted insert of the first admin keeps the ids different. -/
theorem bootstrapped_apart {committed : Tables} (apart : ClientsApart committed)
    {request : CreateAuthorizationClientRequest} {following : Connection}
    (done : authorizationStore.tryCreateBootstrapAuthorizationAdmin request ⟨committed, .idle⟩ =
      (.ok .createSuccess, following)) : ClientsApart following.committed := by
  have counted : (Connection.mk committed .idle).run checkBootstrapAdminExists =
      (.ok (decide (committed.authorizations.countP (·.isBootstrapAdmin) > 0)),
        ⟨committed, .idle⟩) := rfl
  change serveSession (tryCreateBootstrapAuthorizationAdminDocument request)
    ⟨committed, .idle⟩ = _ at done
  rw [serveSession, tryCreateBootstrapAuthorizationAdminDocument, run_tryCatch,
    tryCreateBootstrapAdmin, run_bind_ok counted] at done
  cases exist : decide (committed.authorizations.countP (·.isBootstrapAdmin) > 0) with
  | true =>
      rw [exist] at done
      cases done
  | false =>
      rw [exist] at done
      cases done
      exact clientIds_replace apart _

/-- The successful calls keep the ids of the clients different. -/
theorem keepsListed :
    KeepsClients clientDirectory.toAuthorizationStore Listed clientRows
      (fun active => some (active.getD true)) where
  created := by
    intro request connection following listed done
    obtain ⟨⟨committed, rfl⟩, apart⟩ := listed
    obtain ⟨idle, rows⟩ := keepsClients.created ⟨committed, rfl⟩ done
    refine ⟨⟨idle, ?_⟩, rows⟩
    cases done
    exact clientIds_replace apart _
  bootstrapped := by
    intro request connection following listed done
    obtain ⟨⟨committed, rfl⟩, apart⟩ := listed
    obtain ⟨idle, rows⟩ := keepsClients.bootstrapped ⟨committed, rfl⟩ done
    exact ⟨⟨idle, bootstrapped_apart apart done⟩, rows⟩
  updated := by
    intro request connection following listed done
    obtain ⟨⟨committed, rfl⟩, apart⟩ := listed
    obtain ⟨idle, rows⟩ := keepsClients.updated ⟨committed, rfl⟩ done
    refine ⟨⟨idle, ?_⟩, rows⟩
    have left := (congrArg Prod.snd (updateAuthorizationClient_run committed request)).symm.trans
      (congrArg Prod.snd done)
    obtain rfl := left
    exact clientIds_map (fun client => { client with
      clientName := request.clientName
      roles := request.roles
      active := request.active.getD true }) (fun _ => rfl) apart request.clientId
  reset := by
    intro request connection following listed done
    obtain ⟨⟨committed, rfl⟩, apart⟩ := listed
    obtain ⟨idle, rows⟩ := keepsClients.reset ⟨committed, rfl⟩ done
    refine ⟨⟨idle, ?_⟩, rows⟩
    have left := (congrArg Prod.snd
      (resetAuthorizationClientSecret_run committed request)).symm.trans (congrArg Prod.snd done)
    obtain rfl := left
    exact clientIds_map (fun client => { client with
      clientSecretHashed := request.clientSecretHashed }) (fun _ => rfl) apart request.clientId
  found := fun listed => keepsClients.found listed.1
  explicit := keepsClients.explicit

/-- An empty table is answered as if there were no list. -/
theorem listsRows : ListsRows clientDirectory Listed clientRows := by
  intro connection listed
  obtain ⟨⟨committed, rfl⟩, apart⟩ := listed
  refine ⟨committed.authorizations.map fun client =>
    ⟨client.clientId, client.clientName, some client.active, client.roles⟩, ⟨?_, ?_⟩, ?_⟩
  · have unique : (committed.authorizations.map (·.clientId)).Nodup := apart
    simpa [List.map_map, Function.comp_def] using unique
  · intro body
    rw [List.mem_map]
    unfold clientRows
    rw [Option.map_map, Option.map_eq_some_iff]
    constructor
    · rintro ⟨client, stored, rfl⟩
      exact ⟨client, findClient_of_mem apart stored, rfl⟩
    · rintro ⟨client, found, same⟩
      have named : client.clientId = body.clientId := by simpa using List.find?_some found
      refine ⟨client, List.mem_of_find?_eq_some found, ?_⟩
      rw [← same, ← named]
      rfl
  · intro traceId
    have answered : (clientDirectory.getAllAuthorizationClients traceId ⟨committed, .idle⟩).1 =
        .ok (if committed.authorizations = [] then .getFailureNotExists
          else .getSuccess (committed.authorizations.map fun client =>
            ⟨client.clientId, client.clientName, some client.active, client.roles⟩)) := rfl
    rw [answered]
    by_cases empty : committed.authorizations = []
    · rw [if_pos empty, empty]
      rfl
    · rw [if_neg empty]
      rfl

end Runs
end Postgres

/-- After successful calls, an admin sees the clients of the ledger in either store. -/
theorem directory_shows_ledger [NodeRuntime] [ServerLibrary] [TokenLibrary] [Postgres.ColumnTypes]
    (config : Config) :
    (∀ events contents, Authorization.Served config Mongo.clientDirectory.toAuthorizationStore
        Database.empty events contents →
      ShowsLedger config Mongo.clientDirectory id (ledgerOf events) contents) ∧
      ∀ events contents, Authorization.Served config Postgres.clientDirectory.toAuthorizationStore
          ⟨Postgres.Tables.empty, .idle⟩ events contents →
        ShowsLedger config Postgres.clientDirectory (fun active => some (active.getD true))
          (ledgerOf events) contents := by
  constructor
  · intro events contents served
    exact showsLedger Mongo.keepsClients Mongo.listsRows served trivial Mongo.clientRows_empty
  · intro events contents served
    exact showsLedger Postgres.keepsListed Postgres.listsRows served ⟨⟨_, rfl⟩, List.nodup_nil⟩ rfl

/-- A token that either store has issued is verified by what the later calls made of its client:
the flag is the present one, and the name and the roles are the ones of the issue. -/
theorem issued_token_verified [NodeRuntime] [ServerLibrary] [TokenLibrary] [Postgres.ColumnTypes]
    {config : Config} (disabled : config.oauthHardCodedCredentialsEnabled = false) :
    (∀ events contents,
      Authorization.Served config Mongo.authorizationStore Database.empty events contents →
        VerifiesIssued config Mongo.authorizationStore Mongo.clientRows id events contents) ∧
      ∀ events contents, Authorization.Served config Postgres.authorizationStore
          ⟨Postgres.Tables.empty, .idle⟩ events contents →
        VerifiesIssued config Postgres.authorizationStore Postgres.clientRows
          (fun active => some (active.getD true)) events contents := by
  constructor
  · intro events contents served
    exact verifiesIssued Mongo.keepsClients trivial Mongo.clientRows_empty disabled served
  · intro events contents served
    exact verifiesIssued Postgres.keepsClients ⟨_, rfl⟩ rfl disabled served

section Examples
open Authorization.Sample

private def issuedTo : String := "00000000-0000-4000-8000-000000000001"

private def issuedSecret : String := String.ofList (List.replicate 64 '0')

private def adminBody (active : String) : String :=
  "\x7b\"clientName\": \"Admin\"" ++ active ++ ", \"roles\": [\"admin\"]\x7d"

private def createAdmin : AuthorizationRequest :=
  ⟨"/oauth/clients", ⟨"trace"⟩, some (adminBody ""), [], [], "local"⟩

private def disableAdmin : AuthorizationRequest :=
  ⟨"/oauth/clients/" ++ issuedTo, ⟨"trace"⟩, some (adminBody ", \"active\": false"),
    [("authorization", "Bearer token")], [], "local"⟩

private def askToken : AuthorizationRequest :=
  ⟨"/oauth/token", ⟨"trace"⟩, some ("\x7b\"grant_type\": \"client_credentials\", \"client_id\": \"" ++
    issuedTo ++ "\", \"client_secret\": \"" ++ issuedSecret ++ "\"\x7d"), [], [], "local"⟩

private def askVerification : AuthorizationRequest :=
  ⟨"/oauth/verify", ⟨"trace"⟩, some "token=token", [("authorization", "Bearer token"),
    ("content-type", "application/x-www-form-urlencoded")], [], "local"⟩

private abbrev forms : ServerLibrary :=
  { library with querystringParse := fun _ => .object [("token", .string "token")] }

/-- The token library knows the one token of the example. -/
private abbrev oneToken : TokenLibrary where
  verify _ _ := .verified (some ⟨none, some ⟨some "edfi-meadowlark-issuer",
    some "edfi-meadowlark-audience", some "Admin", some issuedTo, some 0, some 3600,
    some ["admin"]⟩⟩)
  compact _ _ := "token"

private abbrev serveAdmin (call : CredentialCall) (clients : Mongo.Clients) :
    Except Exception AuthorizationResponse × Mongo.Clients :=
  Mongo.authorizationStore.run entropy
    (@CredentialCall.handle Core.Sample.runtime forms oneToken config call) clients

@[irreducible] private def withAdmin : Mongo.Clients :=
  (serveAdmin (.createClient createAdmin) Database.empty).2

@[irreducible] private def withDisabled : Mongo.Clients :=
  (serveAdmin (.updateClient disableAdmin) withAdmin).2

private theorem admin_evaluated :
    (serveAdmin (.createClient createAdmin) Database.empty).1.toOption.bind
        (@CredentialCall.event Core.Sample.runtime forms (.createClient createAdmin)) =
          some (.created issuedTo issuedSecret none) ∧
      (serveAdmin (.updateClient disableAdmin) withAdmin).1.toOption.bind
        (@CredentialCall.event Core.Sample.runtime forms (.updateClient disableAdmin)) =
          some (.updated issuedTo (some false)) ∧
      @parseRequestTokenBody Core.Sample.runtime forms askToken =
        .ok (.ok ⟨"client_credentials", issuedTo, issuedSecret⟩) ∧
      (Mongo.authorizationStore.run entropy
        (@requestToken Core.Sample.runtime forms oneToken config askToken) withAdmin).1 =
          .ok ⟨200, none, some (.token "token" (some 3600))⟩ ∧
      (Mongo.clientRows withAdmin issuedTo).map (fun row => (row.clientName, row.roles)) =
        some ("Admin", [.admin]) ∧
      @validateTokenForAccess oneToken config (extractAuthorizationHeader askVerification) =
        .valid ["admin"] issuedTo ∧
      @validateAdminTokenForAccess Core.Sample.runtime oneToken config
        (extractAuthorizationHeader askVerification) = none ∧
      @parseVerifyTokenBody Core.Sample.runtime forms askVerification =
        .ok (.ok ⟨"token", none⟩) := by
  refine ⟨?_, ?_, ?_, ?_, ?_, ?_, ?_, ?_⟩
  · decide +kernel
  · decide +kernel
  · decide +kernel
  · decide +kernel
  · decide +kernel
  · decide +kernel
  · decide +kernel
  · decide +kernel

private theorem withAdmin_served :
    @Authorization.Served Core.Sample.runtime forms oneToken _ config Mongo.authorizationStore
      Database.empty [.created issuedTo issuedSecret none] withAdmin := by
  have served := @Authorization.Served.extend Core.Sample.runtime forms oneToken _ _ _ _ _ _
    (@Authorization.Served.initial Core.Sample.runtime forms oneToken _ config
      Mongo.authorizationStore Database.empty) _ _ _ admin_evaluated.1
  unfold withAdmin
  exact served

/-- The first admin finds itself in the list of the clients, with its flag set. -/
theorem first_admin_listed :
    ∃ clients client,
      (@getClients _ Core.Sample.runtime oneToken config Mongo.clientDirectory askVerification
        withAdmin).1.shows = some clients ∧
      clients.find? (fun client => client.clientId = issuedTo) = some client ∧
      client.active = some true := by
  obtain ⟨clients, once, flags, answers⟩ := (@directory_shows_ledger Core.Sample.runtime forms
    oneToken Postgres.Sample.columns config).1 _ _ withAdmin_served
  have flag := flags issuedTo
  obtain ⟨client, found, active⟩ :
      ∃ client, clients.find? (fun client => client.clientId = issuedTo) = some client ∧
        client.active = some true := by
    simpa [ledgerOf, Ledger.after, Option.map_eq_some_iff] using flag
  obtain ⟨-, -, -, -, -, -, admitted, -⟩ := admin_evaluated
  exact ⟨clients, client, (answers askVerification admitted).1, found, active⟩

/-- The token of an admin that is set inactive is inactive at its next verification, and it keeps
its roles. -/
theorem disabled_admin_token_inactive :
    ∃ introspectedToken,
      (Mongo.authorizationStore.run entropy
        (@verifyToken Core.Sample.runtime forms oneToken config askVerification) withDisabled).1 =
          .ok ⟨200, none, some (.introspection introspectedToken)⟩ ∧
      introspectedToken.active = false ∧ introspectedToken.roles = ["admin"] := by
  obtain ⟨-, updated, parsed, granted, stored, valid, -, form⟩ := admin_evaluated
  have continued : @Authorization.Served Core.Sample.runtime forms oneToken _ config
      Mongo.authorizationStore withAdmin [.updated issuedTo (some false)] withDisabled := by
    have served := @Authorization.Served.extend Core.Sample.runtime forms oneToken _ _ _ _ _ _
      (@Authorization.Served.initial Core.Sample.runtime forms oneToken _ config
        Mongo.authorizationStore withAdmin) _ _ _ updated
    unfold withDisabled
    exact served
  obtain ⟨row, present, issued, verifies⟩ :=
    (@issued_token_verified Core.Sample.runtime forms oneToken Postgres.Sample.columns config rfl).1
      _ _ withAdmin_served askToken issuedTo issuedSecret none "token" (some 3600) entropy _ parsed
      (Prod.fst_eq_iff.mp granted)
  rw [present] at stored
  obtain ⟨clientSecretHashed, clientName, active, roles⟩ := row
  obtain ⟨rfl, rfl⟩ : clientName = "Admin" ∧ roles = [.admin] := by simpa using stored
  have answered := verifies [.updated issuedTo (some false)] withDisabled entropy continued rfl
    askVerification ["admin"] issuedTo none valid form
  refine ⟨_, answered.trans (congrArg Except.ok (@introspectionResponse_own Core.Sample.runtime _
    (issuedToken config id _ issuedTo _ entropy.now))), ?_, rfl⟩
  simp [issuedToken, ledgerOf, Ledger.after]

example : (ledgerOf [.created "client" "secret" none, .updated "client" (some false)] "client").bind
    (·.active) = some false := by decide +kernel

end Examples
end Meadowlark
