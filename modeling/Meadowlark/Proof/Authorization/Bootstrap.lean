import Meadowlark.Proof.Authorization.Handlers

namespace Meadowlark.Authorization
open Meadowlark.Core Systems

section Bootstrap
variable [NodeRuntime] [ServerLibrary]

omit [NodeRuntime] [ServerLibrary] in
/-- The response to an attempt to create the first admin. -/
def bootstrapResponse (request : CreateAuthorizationClientRequest) (clientSecretAsHex path : String) :
    (AuthorizationCall.tryCreateBootstrapAuthorizationAdmin request).Answer → AuthorizationResponse
  | .ok .createSuccess => createdResponse request clientSecretAsHex path
  | .ok .createFailureAlreadyExists => notProvided
  | .ok .unknownFailure => .ofStatus 500
  | .error _ => .ofStatus 500

/-- The request was answered with a new client. -/
def isCreated : Except Exception AuthorizationResponse → Bool
  | .ok response => response.statusCode = 201
  | .error _ => false

variable {M : Type → Type} [Monad M] [LawfulMonad M]
  {handler : (call : AuthorizationCall) → M call.Answer}

/-- A handler that throws is answered with a server error. -/
def answered : Except Exception AuthorizationResponse → AuthorizationResponse
  | .ok response => response
  | .error _ => .ofStatus 500

omit [NodeRuntime] [ServerLibrary] in
theorem guarded_interpret (server : Server AuthorizationResponse) :
    (guarded server).run.interpret handler =
      server.run.interpret handler >>= fun outcome => pure (.ok (answered outcome)) := by
  unfold guarded
  rw [ExceptT.run_tryCatch, Program.interpret_bind]
  apply bind_congr
  intro outcome
  cases outcome with
  | ok response => rfl
  | error error => rfl

omit [NodeRuntime] [ServerLibrary] [LawfulMonad M] in
theorem tryCreateBootstrapAdmin_interpret (request : CreateAuthorizationClientRequest)
    (clientSecretAsHex path : String) :
    (request.roles ≠ [.admin] ∧
      (tryCreateBootstrapAdmin request clientSecretAsHex path).run.interpret handler =
        pure (.ok notProvided)) ∨
    (tryCreateBootstrapAdmin request clientSecretAsHex path).run.interpret handler =
      handler (.tryCreateBootstrapAuthorizationAdmin request) >>= fun answer =>
        pure (.ok (bootstrapResponse request clientSecretAsHex path answer)) := by
  by_cases other : request.roles ≠ [.admin]
  · refine Or.inl ⟨other, ?_⟩
    unfold tryCreateBootstrapAdmin guarded
    rw [if_pos other]
    rfl
  · refine Or.inr ?_
    unfold tryCreateBootstrapAdmin guarded
    rw [if_neg other]
    apply bind_congr
    intro answer
    rcases answer with error | _ | _ | _
    · rfl
    · rfl
    · rfl
    · rfl

omit [NodeRuntime] in
theorem createValidClient_interpret (authorizationRequest : AuthorizationRequest)
    (createClientBody : ClientBody) {clientId : String} {bytes : Nat → List UInt8}
    (newClientId : handler .newClientId = pure (.ok clientId))
    (randomBytes : ∀ size, handler (.randomBytes size) = pure (.ok (bytes size))) :
    (∃ response : AuthorizationResponse, response.statusCode ≠ 201 ∧
      (createValidClient authorizationRequest true createClientBody).run.interpret handler =
        pure (.ok response)) ∨
    ∃ request clientSecretAsHex,
      (createValidClient authorizationRequest true createClientBody).run.interpret handler =
        handler (.tryCreateBootstrapAuthorizationAdmin request) >>= fun answer =>
          pure (.ok (bootstrapResponse request clientSecretAsHex authorizationRequest.path
            answer)) := by
  let createRequest :=
    createRequestFrom createClientBody clientId (bytes 32) authorizationRequest.traceId
  have drawn : (createValidClient authorizationRequest true createClientBody).run.interpret handler =
      (tryCreateBootstrapAdmin createRequest (toHex (bytes 32))
        authorizationRequest.path).run.interpret handler := by
    change (handler .newClientId >>= fun answer => Program.interpret handler _) = _
    rw [newClientId, pure_bind]
    change (handler (.randomBytes 32) >>= fun answer => Program.interpret handler _) = _
    rw [randomBytes, pure_bind]
    rfl
  rw [drawn]
  rcases @tryCreateBootstrapAdmin_interpret M _ handler createRequest (toHex (bytes 32))
    authorizationRequest.path with other | asked
  · exact Or.inl ⟨notProvided, by decide, other.2⟩
  · exact Or.inr ⟨createRequest, toHex (bytes 32), asked⟩

variable [TokenLibrary] {config : Config} {authorizationRequest : AuthorizationRequest}

/-- A request without a token reaches the store only to create the first admin. -/
theorem createClient_interpret (anonymous : isBootstrapAdminRequest authorizationRequest = true)
    {clientId : String} {bytes : Nat → List UInt8}
    (newClientId : handler .newClientId = pure (.ok clientId))
    (randomBytes : ∀ size, handler (.randomBytes size) = pure (.ok (bytes size))) :
    (∃ response : AuthorizationResponse, response.statusCode ≠ 201 ∧
      (createClient config authorizationRequest).run.interpret handler = pure (.ok response)) ∨
    ∃ request clientSecretAsHex,
      (createClient config authorizationRequest).run.interpret handler =
        handler (.tryCreateBootstrapAuthorizationAdmin request) >>= fun answer =>
          pure (.ok (bootstrapResponse request clientSecretAsHex authorizationRequest.path
            answer)) := by
  unfold createClient
  rw [anonymous]
  cases parsed : parseClientBody authorizationRequest.body with
  | error error => exact Or.inl ⟨.ofStatus 500, by decide, rfl⟩
  | ok outcome =>
      cases outcome with
      | error errorResponse =>
          have status := parseClientBody_status parsed
          exact Or.inl ⟨errorResponse, by omega, rfl⟩
      | ok createClientBody =>
          change (∃ response : AuthorizationResponse, response.statusCode ≠ 201 ∧
            (guarded (createValidClient authorizationRequest true createClientBody)).run.interpret
              handler = _) ∨ ∃ request clientSecretAsHex,
            (guarded (createValidClient authorizationRequest true createClientBody)).run.interpret
              handler = _
          rw [guarded_interpret]
          rcases createValidClient_interpret authorizationRequest createClientBody newClientId
            randomBytes with
            ⟨response, other, shape⟩ | ⟨request, clientSecretAsHex, shape⟩
          · refine Or.inl ⟨response, other, ?_⟩
            rw [shape, pure_bind]
            rfl
          · refine Or.inr ⟨request, clientSecretAsHex, ?_⟩
            rw [shape, bind_assoc]
            apply bind_congr
            intro answer
            rw [pure_bind]
            rfl

end Bootstrap
end Meadowlark.Authorization
