import Meadowlark.Construction.Authorization.Handler

namespace Meadowlark.Authorization
open Meadowlark.Core Systems

section Runs
variable {Contents A B : Type} (authorizationStore : AuthorizationStore Contents)
  (entropy : Entropy) {contents following : Contents}

@[simp] theorem run_pure (value : A) :
    authorizationStore.run entropy (pure value) contents = (.ok value, contents) := rfl

@[simp] theorem run_ask (call : AuthorizationCall) :
    authorizationStore.run entropy (ask call) contents =
      answerCall authorizationStore entropy call contents := rfl

@[simp] theorem run_settle (outcome : Except Exception A) :
    authorizationStore.run entropy (settle outcome) contents = (outcome, contents) := rfl

theorem run_bind (program : Server A) (f : A → Server B) :
    authorizationStore.run entropy (program >>= f) contents =
      match authorizationStore.run entropy program contents with
      | (.ok value, following) => authorizationStore.run entropy (f value) following
      | (.error error, following) => (.error error, following) := by
  unfold AuthorizationStore.run
  rw [Program.runState_bind]
  rcases Program.runState (answerCall authorizationStore entropy) program contents with
    ⟨error | value, middle⟩
  · rfl
  · rfl

variable {authorizationStore entropy}

theorem run_bind_ok {program : Server A} {f : A → Server B} {value : A}
    (done : authorizationStore.run entropy program contents = (.ok value, following)) :
    authorizationStore.run entropy (program >>= f) contents =
      authorizationStore.run entropy (f value) following := by
  rw [run_bind, done]

/-- A function that returns a value has returned one from its first part. -/
theorem bind_returns {program : Server A} {f : A → Server B} {value : B}
    (done : authorizationStore.run entropy (program >>= f) contents = (.ok value, following)) :
    ∃ first middle, authorizationStore.run entropy program contents = (.ok first, middle) ∧
      authorizationStore.run entropy (f first) middle = (.ok value, following) := by
  rw [run_bind] at done
  rcases firstRun : authorizationStore.run entropy program contents with ⟨error | first, middle⟩
  · rw [firstRun] at done
    cases done
  · rw [firstRun] at done
    exact ⟨first, middle, rfl, done⟩

/-- A response that is not a server error comes from the handler itself. -/
theorem guarded_returns {handler : Server AuthorizationResponse} {response : AuthorizationResponse}
    (done : authorizationStore.run entropy (guarded handler) contents = (.ok response, following))
    (healthy : response.statusCode ≠ 500) :
    authorizationStore.run entropy handler contents = (.ok response, following) := by
  unfold guarded AuthorizationStore.run at done
  rw [Program.runState_tryCatch] at done
  rcases inner : authorizationStore.run entropy handler contents with ⟨error | answer, middle⟩
  · unfold AuthorizationStore.run at inner
    rw [inner] at done
    cases done
    exact absurd rfl healthy
  · unfold AuthorizationStore.run at inner
    rw [inner] at done
    exact done

/-- A handler that returns a response is not changed by its guard. -/
theorem run_guarded {handler : Server AuthorizationResponse} {response : AuthorizationResponse}
    (done : authorizationStore.run entropy handler contents = (.ok response, following)) :
    authorizationStore.run entropy (guarded handler) contents = (.ok response, following) := by
  unfold AuthorizationStore.run at done
  unfold guarded AuthorizationStore.run
  rw [Program.runState_tryCatch, done]

theorem guarded_congr {first second : Server AuthorizationResponse}
    (same : authorizationStore.run entropy first contents =
      authorizationStore.run entropy second contents) :
    authorizationStore.run entropy (guarded first) contents =
      authorizationStore.run entropy (guarded second) contents := by
  unfold AuthorizationStore.run at same
  unfold guarded AuthorizationStore.run
  rw [Program.runState_tryCatch, Program.runState_tryCatch, same]

/-- A question has the answer of the store. -/
theorem ask_returns {call : AuthorizationCall} {result : call.Result}
    (done : authorizationStore.run entropy (ask call) contents = (.ok result, following)) :
    answerCall authorizationStore entropy call contents = (.ok result, following) := done

end Runs

section Access
variable [TokenLibrary] {config : Config}

/-- A token that is not accepted gives a client error. -/
theorem validateTokenForAccess_status {header : Option String}
    {errorResponse : AuthorizationResponse}
    (rejected : validateTokenForAccess config header = .invalid errorResponse) :
    errorResponse.statusCode = 401 := by
  unfold validateTokenForAccess at rejected
  dsimp only at rejected
  split at rejected
  · cases rejected
    rfl
  · split at rejected
    · cases rejected
      rfl
    · split at rejected
      · cases rejected
      · cases rejected
        rfl

theorem validateAdminTokenForAccess_status [NodeRuntime] {header : Option String}
    {errorResponse : AuthorizationResponse}
    (rejected : validateAdminTokenForAccess config header = some errorResponse) :
    errorResponse.statusCode = 401 ∨ errorResponse.statusCode = 403 := by
  unfold validateAdminTokenForAccess at rejected
  split at rejected
  · rename_i invalid
    cases rejected
    exact Or.inl (validateTokenForAccess_status invalid)
  · split at rejected
    · cases rejected
    · cases rejected
      exact Or.inr rfl

end Access

section Bodies
variable [NodeRuntime] [ServerLibrary]

/-- A body that is not a client body gives a client error. -/
theorem parseClientBody_status {body : Option String} {errorResponse : AuthorizationResponse}
    (rejected : parseClientBody body = .ok (.error errorResponse)) :
    errorResponse.statusCode = 400 := by
  unfold parseClientBody at rejected
  split at rejected
  · cases rejected
    rfl
  · split at rejected
    · cases rejected
      rfl
    · rename_i parsedBody parsed
      cases validated : validateWithSuggestions clientBodySchema parsedBody with
      | error error =>
          rw [validated] at rejected
          cases rejected
      | ok outcome =>
          rw [validated] at rejected
          cases outcome with
          | error failureMessage =>
              cases rejected
              rfl
          | ok validBody =>
              cases validBody with
              | object fields =>
                  cases read : clientBodyFrom fields with
                  | none =>
                      dsimp only [bind, Except.bind] at rejected
                      rw [read] at rejected
                      cases rejected
                      rfl
                  | some clientBody =>
                      dsimp only [bind, Except.bind] at rejected
                      rw [read] at rejected
                      cases rejected
              | _ =>
                  cases rejected
                  rfl

end Bodies

section Handlers
variable [NodeRuntime] [ServerLibrary] {Contents : Type}
  {authorizationStore : AuthorizationStore Contents} {entropy : Entropy}
  {contents following : Contents} {authorizationRequest : AuthorizationRequest}
  {response : AuthorizationResponse}

omit [NodeRuntime] [ServerLibrary] in
/-- A first admin is created by the store. -/
theorem tryCreateBootstrapAdmin_returns {request : CreateAuthorizationClientRequest}
    {clientSecretAsHex path : String}
    (done : authorizationStore.run entropy
      (tryCreateBootstrapAdmin request clientSecretAsHex path) contents = (.ok response, following))
    (created : response.statusCode = 201) :
    response = createdResponse request clientSecretAsHex path ∧
      authorizationStore.tryCreateBootstrapAuthorizationAdmin request contents =
        (.ok .createSuccess, following) := by
  have inner := guarded_returns done (by rw [created]; decide)
  split at inner
  · cases inner
    cases created
  · obtain ⟨result, middle, asked, answered⟩ := bind_returns inner
    have stored := ask_returns asked
    cases result with
    | createSuccess =>
        cases answered
        exact ⟨rfl, stored⟩
    | createFailureAlreadyExists =>
        cases answered
        cases created
    | unknownFailure =>
        cases answered
        cases created

omit [NodeRuntime] in
/-- A create request that is answered with a new client has stored this client. -/
theorem createValidClient_returns {bootstrapAdminRequest : Bool} {createClientBody : ClientBody}
    (done : authorizationStore.run entropy
      (createValidClient authorizationRequest bootstrapAdminRequest createClientBody) contents =
        (.ok response, following))
    (created : response.statusCode = 201) :
    response = createdResponse (createRequestFrom createClientBody entropy.clientId
        (entropy.bytes 32) authorizationRequest.traceId) (toHex (entropy.bytes 32))
          authorizationRequest.path ∧
      (authorizationStore.createAuthorizationClient (createRequestFrom createClientBody
          entropy.clientId (entropy.bytes 32) authorizationRequest.traceId) contents =
            (.ok .createSuccess, following) ∨
        authorizationStore.tryCreateBootstrapAuthorizationAdmin (createRequestFrom createClientBody
          entropy.clientId (entropy.bytes 32) authorizationRequest.traceId) contents =
            (.ok .createSuccess, following)) := by
  obtain ⟨clientId, middle, askedId, afterId⟩ := bind_returns done
  obtain ⟨clientSecretBuffer, later, askedBytes, afterBytes⟩ := bind_returns afterId
  cases askedId
  cases askedBytes
  dsimp only at afterBytes
  split at afterBytes
  · have bootstrapped := tryCreateBootstrapAdmin_returns afterBytes created
    exact ⟨bootstrapped.1, Or.inr bootstrapped.2⟩
  · obtain ⟨result, last, asked, answered⟩ := bind_returns afterBytes
    have stored := ask_returns asked
    cases result with
    | createSuccess =>
        cases answered
        exact ⟨rfl, Or.inl stored⟩
    | unknownFailure =>
        cases answered
        cases created

variable [TokenLibrary] {config : Config}

theorem createClient_returns
    (done : authorizationStore.run entropy (createClient config authorizationRequest) contents =
      (.ok response, following))
    (created : response.statusCode = 201) :
    ∃ createClientBody, parseClientBody authorizationRequest.body = .ok (.ok createClientBody) ∧
      response = createdResponse (createRequestFrom createClientBody entropy.clientId
        (entropy.bytes 32) authorizationRequest.traceId) (toHex (entropy.bytes 32))
          authorizationRequest.path ∧
      (authorizationStore.createAuthorizationClient (createRequestFrom createClientBody
          entropy.clientId (entropy.bytes 32) authorizationRequest.traceId) contents =
            (.ok .createSuccess, following) ∨
        authorizationStore.tryCreateBootstrapAuthorizationAdmin (createRequestFrom createClientBody
          entropy.clientId (entropy.bytes 32) authorizationRequest.traceId) contents =
            (.ok .createSuccess, following)) := by
  have inner := guarded_returns done (by rw [created]; decide)
  dsimp only at inner
  split at inner
  · rename_i errorResponse rejected
    cases inner
    split at rejected
    · cases rejected
    · rcases validateAdminTokenForAccess_status rejected with status | status
      · omega
      · omega
  · obtain ⟨outcome, middle, settled, answered⟩ := bind_returns inner
    rw [run_settle] at settled
    cases outcome with
    | error errorResponse =>
        cases answered
        have status := parseClientBody_status (congrArg Prod.fst settled)
        omega
    | ok createClientBody =>
        obtain rfl : contents = middle := congrArg Prod.snd settled
        exact ⟨createClientBody, congrArg Prod.fst settled,
          createValidClient_returns answered created⟩

/-- An update that is answered without content has changed a stored client. -/
theorem updateClient_returns
    (done : authorizationStore.run entropy (updateClient config authorizationRequest) contents =
      (.ok response, following))
    (updated : response.statusCode = 204) :
    ∃ clientId updateClientBody, updateClientId authorizationRequest.path = .matched clientId ∧
      parseClientBody authorizationRequest.body = .ok (.ok updateClientBody) ∧
      authorizationStore.updateAuthorizationClient
        (updateRequestFrom updateClientBody clientId authorizationRequest.traceId) contents =
          (.ok .updateSuccess, following) := by
  have inner := guarded_returns done (by rw [updated]; decide)
  split at inner
  · rename_i errorResponse rejected
    cases inner
    rcases validateAdminTokenForAccess_status rejected with status | status
    · omega
    · omega
  · split at inner
    · cases inner
      cases updated
    · rename_i clientId matched
      obtain ⟨outcome, middle, settled, answered⟩ := bind_returns inner
      rw [run_settle] at settled
      cases outcome with
      | error errorResponse =>
          cases answered
          have status := parseClientBody_status (congrArg Prod.fst settled)
          omega
      | ok updateClientBody =>
          obtain rfl : contents = middle := congrArg Prod.snd settled
          obtain ⟨result, last, asked, returned⟩ := bind_returns answered
          have stored := ask_returns asked
          cases result with
          | updateSuccess =>
              cases returned
              exact ⟨clientId, updateClientBody, matched, congrArg Prod.fst settled, stored⟩
          | updateFailedNotExists =>
              cases returned
              cases updated
          | unknownFailure =>
              cases returned
              cases updated

/-- A reset that is answered with a secret has changed a stored client. -/
theorem resetAuthorizationClientSecret_returns
    (done : authorizationStore.run entropy
      (resetAuthorizationClientSecret config authorizationRequest) contents =
        (.ok response, following))
    (reset : response.statusCode = 201) :
    ∃ clientId, resetClientId authorizationRequest.path = .matched clientId ∧
      response = resetResponse clientId (entropy.bytes 32) .resetSuccess ∧
      authorizationStore.resetAuthorizationClientSecret
        ⟨clientId, hashClientSecretBuffer (entropy.bytes 32), authorizationRequest.traceId⟩
          contents = (.ok .resetSuccess, following) := by
  have inner := guarded_returns done (by rw [reset]; decide)
  split at inner
  · rename_i errorResponse rejected
    cases inner
    rcases validateAdminTokenForAccess_status rejected with status | status
    · omega
    · omega
  · obtain ⟨clientSecretBuffer, middle, askedBytes, afterBytes⟩ := bind_returns inner
    cases askedBytes
    split at afterBytes
    · cases afterBytes
      cases reset
    · rename_i clientId matched
      obtain ⟨result, last, asked, returned⟩ := bind_returns afterBytes
      have stored := ask_returns asked
      cases result with
      | resetSuccess =>
          cases returned
          exact ⟨clientId, matched, rfl, stored⟩
      | resetFailedNotExists =>
          cases returned
          cases reset
      | unknownFailure =>
          cases returned
          cases reset

end Handlers
end Meadowlark.Authorization
