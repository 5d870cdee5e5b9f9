import Meadowlark.Construction.Mongo.Authorization
import Meadowlark.Proof.Authorization.Credentials

namespace Meadowlark.Mongo
open Meadowlark.Core Systems Authorization

def AuthorizationDocument.toRow (authorizationClient : AuthorizationDocument) : ClientRow where
  clientSecretHashed := authorizationClient.clientSecretHashed
  clientName := authorizationClient.clientName
  active := authorizationClient.active
  roles := authorizationClient.roles

def clientRows (clients : Clients) (clientId : String) : Option ClientRow :=
  (findClient clients (some clientId)).map (·.toRow)

theorem clientRows_empty : clientRows Database.empty = fun _ => none := rfl

/-- The id of a client finds it. -/
theorem findClient_iff (clients : Clients) (clientId : String) (existing : AuthorizationDocument) :
    findClient clients (some clientId) = some existing ↔
      existing ∈ clients.items ∧ existing.id = clientId := by
  constructor
  · intro found
    exact ⟨List.mem_of_find?_eq_some found, by simpa using List.find?_some found⟩
  · rintro ⟨stored, rfl⟩
    cases found : findClient clients (some existing.id) with
    | none => simpa using List.find?_eq_none.mp found existing stored
    | some other =>
        have same : other.id = existing.id := by simpa using List.find?_some found
        rw [clients.eq_of_key (List.mem_of_find?_eq_some found) stored same]

/-- A client that is written is the one that its id finds. -/
theorem findClient_put (clients : Clients) (authorizationClient : AuthorizationDocument)
    (clientId : String) :
    findClient (clients.put authorizationClient) (some clientId) =
      if clientId = authorizationClient.id then some authorizationClient
      else findClient clients (some clientId) := by
  apply Option.ext
  intro found
  rw [findClient_iff, Database.mem_put]
  by_cases same : clientId = authorizationClient.id
  · subst same
    simp only [if_true, key_authorizationDocument, Option.some.injEq]
    constructor
    · rintro ⟨⟨-, apart⟩ | rfl, same⟩
      · exact absurd same apart
      · rfl
    · rintro rfl
      exact ⟨Or.inr rfl, rfl⟩
  · rw [if_neg same, findClient_iff]
    constructor
    · rintro ⟨⟨stored, -⟩ | rfl, named⟩
      · exact ⟨stored, named⟩
      · exact absurd named.symm same
    · rintro ⟨stored, rfl⟩
      exact ⟨Or.inl ⟨stored, same⟩, rfl⟩

theorem clientRows_put (clients : Clients) (authorizationClient : AuthorizationDocument) :
    clientRows (clients.put authorizationClient) =
      Function.update (clientRows clients) authorizationClient.id
        (some authorizationClient.toRow) := by
  funext clientId
  unfold clientRows
  rw [findClient_put]
  by_cases same : clientId = authorizationClient.id
  · subst same
    simp
  · simp [same]

/-- A client that is inserted has a new id. -/
theorem clientRows_insertAll {clients following : Clients}
    {authorizationClient : AuthorizationDocument}
    (inserted : clients.insertAll [authorizationClient] = some following) :
    clientRows following =
      Function.update (clientRows clients) authorizationClient.id
        (some authorizationClient.toRow) := by
  have items := Database.insertAll_items inserted
  have unique := following.unique
  rw [items, List.map_append, List.nodup_append] at unique
  funext clientId
  unfold clientRows
  by_cases same : clientId = authorizationClient.id
  · subst same
    have found : findClient following (some authorizationClient.id) = some authorizationClient :=
      (findClient_iff _ _ _).mpr ⟨by simp [items], rfl⟩
    simp [found]
  · rw [Function.update_of_ne same]
    congr 1
    apply Option.ext
    intro found
    rw [findClient_iff, findClient_iff, items, List.mem_append, List.mem_singleton]
    constructor
    · rintro ⟨stored | rfl, named⟩
      · exact ⟨stored, named⟩
      · exact absurd named.symm same
    · rintro ⟨stored, named⟩
      exact ⟨Or.inl stored, named⟩

/-- The update of a stored client changes its row alone. -/
theorem clientRows_update {clients following : Clients} {clientId : Option String}
    {change : AuthorizationDocument → AuthorizationDocument} {written : List String}
    {answer : ClientUpdateAnswer}
    (done : updateClientDocument clients clientId change = (following, written, answer))
    (matched : 0 < answer.matchedCount) :
    ∃ changed existing, clientId = some changed ∧
      findClient clients (some changed) = some existing ∧
      clientRows following =
        Function.update (clientRows clients) changed
          (some (change existing).toRow) := by
  unfold updateClientDocument at done
  split at done
  · cases done
    cases matched
  · rename_i existing found
    cases done
    cases clientId with
    | none =>
        have impossible := List.find?_some found
        simp at impossible
    | some changed =>
        refine ⟨changed, existing, rfl, found, ?_⟩
        rw [clientRows_put, ((findClient_iff _ _ _).mp found).2]
        rfl

/-- A call outside the session changes nothing that is committed. -/
theorem clientDriver_handler (call : ClientCall) (clients : Clients) :
    clientDriver.handler clients call clients =
      match performClientCall call clients with
      | .ok (following, _, answer) =>
          .ok (answer, if call.inSession = true then following else clients)
      | .error error => .error error := by
  unfold Driver.handler clientDriver
  dsimp only
  by_cases inSession : call.inSession = true
  · simp only [inSession, if_true]
    cases performClientCall call clients with
    | error error => rfl
    | ok effect => rfl
  · simp only [inSession]
    cases performClientCall call clients with
    | error error => rfl
    | ok effect => rfl

/-- A session of one call commits what the call writes. -/
theorem runClientSession_call {Result : Type} (failure : Result) {call : ClientCall}
    (resultOf : call.Answer → Result) (clients : Clients) :
    runClientSession failure (resultOf <$> sendClientCall call) clients =
      match performClientCall call clients with
      | .ok (following, _, answer) =>
          (.ok (resultOf answer), if call.inSession = true then following else clients)
      | .error _ => (.ok failure, clients) := by
  unfold runClientSession
  change (match (clientDriver.handler clients call clients >>= fun reply =>
    (.ok (resultOf reply.1, reply.2) : Except ClientError (Result × Clients))) with
      | .ok (result, view) => _
      | .error _ => _) = _
  rw [clientDriver_handler]
  cases performClientCall call clients with
  | error error => rfl
  | ok effect => rfl

theorem updateResult_success {answer : ClientUpdateAnswer}
    (succeeded : updateResult answer = .updateSuccess) : 0 < answer.matchedCount := by
  unfold updateResult at succeeded
  split at succeeded
  · cases succeeded
  · split at succeeded
    · rename_i matched
      exact matched.2
    · cases succeeded

theorem resetResult_success {answer : ClientUpdateAnswer}
    (succeeded : resetResult answer = .resetSuccess) : 0 < answer.matchedCount := by
  unfold resetResult at succeeded
  split at succeeded
  · cases succeeded
  · split at succeeded
    · rename_i matched
      exact matched.2
    · cases succeeded

/-- The first admin is inserted where no client has the flag. -/
theorem upsertBootstrapAdmin_rows {authorizationClient : AuthorizationDocument}
    {clients following : Clients} {written : List String} {answer : ClientUpsertAnswer}
    (performed : performClientCall (.upsertBootstrapAdmin authorizationClient) clients =
      .ok (following, written, answer))
    (succeeded : bootstrapResult answer = .createSuccess) :
    clientRows following =
      Function.update (clientRows clients) authorizationClient.id
        (some authorizationClient.toRow) := by
  simp only [performClientCall] at performed
  split at performed
  · cases performed
    cases succeeded
  · split at performed
    · rename_i inserted
      cases performed
      exact clientRows_insertAll inserted
    · cases performed

/-- The collection keeps an absent flag as it is. -/
theorem keepsClients : KeepsClients authorizationStore (fun _ => True) clientRows id where
  created := by
    intro request clients following _ done
    cases done
    exact ⟨trivial, clientRows_put clients _⟩
  bootstrapped := by
    intro request clients following _ done
    refine ⟨trivial, ?_⟩
    have ran : authorizationStore.tryCreateBootstrapAuthorizationAdmin request clients = _ :=
      @runClientSession_call TryCreateBootstrapAuthorizationAdminResult .unknownFailure
        (.upsertBootstrapAdmin (bootstrapAdminDocumentFromCreate request)) bootstrapResult clients
    rw [ran] at done
    cases performed : performClientCall
        (.upsertBootstrapAdmin (bootstrapAdminDocumentFromCreate request)) clients with
    | error error =>
        rw [performed] at done
        cases done
    | ok effect =>
        obtain ⟨view, written, answer⟩ := effect
        rw [performed] at done
        have succeeded := Except.ok.inj (congrArg Prod.fst done)
        obtain rfl : view = following := congrArg Prod.snd done
        exact upsertBootstrapAdmin_rows performed succeeded
  updated := by
    intro request clients following _ done
    refine ⟨trivial, ?_⟩
    have ran : authorizationStore.updateAuthorizationClient request clients = _ :=
      @runClientSession_call _ .unknownFailure
        (.updateOne request.clientId request.clientName request.roles request.active) updateResult clients
    rw [ran] at done
    cases performed : performClientCall
        (.updateOne request.clientId request.clientName request.roles request.active) clients with
    | error error =>
        rw [performed] at done
        cases done
    | ok effect =>
        obtain ⟨view, written, answer⟩ := effect
        rw [performed] at done
        have succeeded := Except.ok.inj (congrArg Prod.fst done)
        obtain rfl : view = following := congrArg Prod.snd done
        obtain ⟨changed, existing, named, found, rows⟩ :=
          clientRows_update (Except.ok.inj performed) (updateResult_success succeeded)
        refine ⟨changed, named, ?_⟩
        rw [rows, clientRows, found]
        rfl
  reset := by
    intro request clients following _ done
    refine ⟨trivial, ?_⟩
    have ran : authorizationStore.resetAuthorizationClientSecret request clients = _ :=
      @runClientSession_call _ .unknownFailure
        (.updateSecret request.clientId request.clientSecretHashed) resetResult clients
    rw [ran] at done
    cases performed : performClientCall
        (.updateSecret request.clientId request.clientSecretHashed) clients with
    | error error =>
        rw [performed] at done
        cases done
    | ok effect =>
        obtain ⟨view, written, answer⟩ := effect
        rw [performed] at done
        have succeeded := Except.ok.inj (congrArg Prod.fst done)
        obtain rfl : view = following := congrArg Prod.snd done
        obtain ⟨changed, existing, named, found, rows⟩ :=
          clientRows_update (Except.ok.inj performed) (resetResult_success succeeded)
        refine ⟨changed, named, ?_⟩
        rw [rows, clientRows, found]
        rfl
  found := by
    intro request clients _
    have ran : authorizationStore.getAuthorizationClient request clients = _ :=
      @runClientSession_call _ .unknownFailure (.findOne request.clientId) getResult clients
    rw [ran]
    change Except.ok (getResult (findClient clients (some request.clientId))) = _
    unfold clientRows
    cases findClient clients (some request.clientId) with
    | none => rfl
    | some existing => rfl
  explicit active := rfl

end Meadowlark.Mongo
