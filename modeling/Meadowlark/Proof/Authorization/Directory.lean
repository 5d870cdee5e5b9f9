import Meadowlark.Construction.Authorization.ReadHandlers
import Meadowlark.Proof.Authorization.Credentials

namespace Meadowlark.Authorization
open Meadowlark.Core Systems

section Rows
variable {Contents : Type}

/-- A client is shown without its secret. -/
def ClientRow.shown (clientId : String) (row : ClientRow) : GetClientBody where
  clientId := clientId
  clientName := row.clientName
  active := row.active
  roles := row.roles

/-- The clients that a response shows.
A store without clients may answer that there are none. -/
def GetClientResponse.shows : GetClientResponse → Option (List GetClientBody)
  | .clients listed => some listed
  | .other response => if response.statusCode = 404 then some [] else none
  | .client _ => none

/-- These bodies show every row exactly once. -/
structure ShowsRows (rows : String → Option ClientRow) (clients : List GetClientBody) : Prop where
  once : (clients.map (·.clientId)).Nodup
  shown (client : GetClientBody) : client ∈ clients ↔
    (rows client.clientId).map (·.shown client.clientId) = some client

/-- The listing of a store shows its rows. -/
def ListsRows (clientDirectory : ClientDirectory Contents) (Regular : Contents → Prop)
    (rows : Contents → String → Option ClientRow) : Prop :=
  ∀ contents, Regular contents → ∃ clients, ShowsRows (rows contents) clients ∧
    ∀ traceId, (getClientsResponse
      (clientDirectory.getAllAuthorizationClients traceId contents).1).shows = some clients

variable {rows : String → Option ClientRow} {clients : List GetClientBody}

/-- A client that is looked up in the listing has the body of its row. -/
theorem ShowsRows.find (shows : ShowsRows rows clients) (clientId : String) :
    clients.find? (fun client => client.clientId = clientId) =
      (rows clientId).map (·.shown clientId) := by
  cases found : clients.find? (fun client => client.clientId = clientId) with
  | some client =>
      obtain rfl : client.clientId = clientId := by simpa using List.find?_some found
      exact ((shows.shown client).mp (List.mem_of_find?_eq_some found)).symm
  | none =>
      cases present : rows clientId with
      | none => rfl
      | some row =>
          have listed : row.shown clientId ∈ clients := by
            rw [shows.shown]
            change (rows clientId).map (·.shown clientId) = _
            rw [present]
            rfl
          simpa [ClientRow.shown] using List.find?_eq_none.mp found _ listed

end Rows

section Handlers
variable [NodeRuntime] [TokenLibrary] {Contents : Type} {config : Config}
  {clientDirectory : ClientDirectory Contents} {authorizationStore : AuthorizationStore Contents}
  {entropy : Entropy} {contents : Contents} {authorizationRequest : AuthorizationRequest}

theorem getClients_response
    (admitted : validateAdminTokenForAccess config
      (extractAuthorizationHeader authorizationRequest) = none) :
    (getClients config clientDirectory authorizationRequest contents).1 =
      getClientsResponse (clientDirectory.getAllAuthorizationClients
        authorizationRequest.traceId contents).1 := by
  unfold getClients
  rw [admitted]

theorem getClientById_response {clientId : String} {row : Option ClientRow}
    (admitted : validateAdminTokenForAccess config
      (extractAuthorizationHeader authorizationRequest) = none)
    (matched : updateClientId authorizationRequest.path = .matched (some clientId))
    (found : (authorizationStore.getAuthorizationClient ⟨clientId, authorizationRequest.traceId⟩
      contents).1 = .ok (getResultOf row)) :
    (authorizationStore.run entropy (getClientById config authorizationRequest) contents).1 =
      .ok ((row.map (·.shown clientId)).elim (.other (.ofStatus 404)) .client) := by
  cases asked : authorizationStore.getAuthorizationClient
      ⟨clientId, authorizationRequest.traceId⟩ contents with
  | mk answer following =>
      rw [asked] at found
      obtain rfl : answer = .ok (getResultOf row) := found
      have first : authorizationStore.run entropy
          (ask (.getAuthorizationClient ⟨clientId, authorizationRequest.traceId⟩)) contents =
            (.ok (getResultOf row), following) := asked
      have inner : Program.runState (answerCall authorizationStore entropy)
          (ask (.getAuthorizationClient ⟨clientId, authorizationRequest.traceId⟩) >>=
            fun fetchResult => pure (getClientByIdResponse clientId fetchResult)) contents =
              (.ok (getClientByIdResponse clientId (getResultOf row)), following) :=
        run_bind_ok first
      unfold getClientById AuthorizationStore.run
      rw [Program.runState_tryCatch, admitted, matched]
      dsimp only
      rw [inner]
      cases row with
      | none => rfl
      | some row => rfl

end Handlers

section Runs
variable [NodeRuntime] [ServerLibrary] [TokenLibrary] {Contents : Type} {config : Config}
  {clientDirectory : ClientDirectory Contents} {Regular : Contents → Prop}
  {rows : Contents → String → Option ClientRow} {kept : Option Bool → Option Bool}
  {start contents : Contents} {events : List CredentialEvent}

omit [ServerLibrary] in
/-- An admin sees each client of the ledger once, with the flag that the store keeps, and the
answer for one client is its entry in the list of all clients. -/
def ShowsLedger (config : Config) (clientDirectory : ClientDirectory Contents)
    (kept : Option Bool → Option Bool) (ledger : Ledger) (contents : Contents) : Prop :=
  ∃ clients : List GetClientBody, (clients.map (·.clientId)).Nodup ∧
    (∀ clientId, (clients.find? (fun client => client.clientId = clientId)).map (·.active) =
      (ledger clientId).map fun account => kept account.active) ∧
    ∀ request, validateAdminTokenForAccess config (extractAuthorizationHeader request) = none →
      (getClients config clientDirectory request contents).1.shows = some clients ∧
      ∀ entropy clientId, updateClientId request.path = .matched (some clientId) →
        (clientDirectory.run entropy (getClientById config request) contents).1 =
          .ok ((clients.find? (fun client => client.clientId = clientId)).elim
            (.other (.ofStatus 404)) .client)

theorem showsLedger
    (keeps : KeepsClients clientDirectory.toAuthorizationStore Regular rows kept)
    (lists : ListsRows clientDirectory Regular rows)
    (served : Served config clientDirectory.toAuthorizationStore start events contents)
    (regular : Regular start) (fresh : rows start = fun _ => none) :
    ShowsLedger config clientDirectory kept (ledgerOf events) contents := by
  obtain ⟨still, represents⟩ := served.represents keeps regular fresh
  obtain ⟨clients, shows, listed⟩ := lists contents still
  refine ⟨clients, shows.once, ?_, ?_⟩
  · intro clientId
    have same := congrArg (Option.map Prod.snd) (represents clientId)
    rw [shows.find, Option.map_map]
    simpa [Option.map_map, Function.comp_def, ClientRow.shown] using same
  · intro request admitted
    refine ⟨?_, ?_⟩
    · rw [getClients_response admitted]
      exact listed request.traceId
    · intro entropy clientId matched
      rw [shows.find]
      exact getClientById_response admitted matched (keeps.found still)

end Runs
end Meadowlark.Authorization
