import Meadowlark.Construction.Authorization.Handler

namespace Meadowlark.Authorization
open Meadowlark.Core Systems

section Verification
variable [NodeRuntime] [ServerLibrary]

/-- The token to verify, or a failure message if the body is not a form with a token. -/
def parseVerifyTokenBody (authorizationRequest : AuthorizationRequest) :
    Except Exception (Except Json VerifyTokenBody) :=
  match authorizationRequest.body with
  | none => .ok (.error (.string "Request body is empty"))
  | some body =>
      if (authorizationRequest.headers.lookup "content-type").any fun contentType =>
          "application/x-www-form-urlencoded".toList.isPrefixOf contentType.toList then do
        match ← validateWithSuggestions verifyTokenBodySchema (ServerLibrary.querystringParse body) with
        | .error failureMessage => pure (.error failureMessage)
        | .ok (.object fields) =>
            match verifyTokenBodyFrom fields with
            | some verifyTokenBody => pure (.ok verifyTokenBody)
            | none => pure (.error .null)
        | .ok _ => pure (.error .null)
      else .ok (.error (.string "Requires application/x-www-form-urlencoded content type"))

variable [TokenLibrary] (config : Config)

omit [ServerLibrary] [TokenLibrary] in
/-- The requester has the same client id as the token, or it is an admin or may verify any token. -/
def introspectionResponse (requesterRoles : List String) (requesterClientId : String) :
    IntrospectionResponse → AuthorizationResponse
  | .invalid => badRequest (.string "Invalid token provided for introspection")
  | .valid introspectedToken =>
      if requesterClientId ≠ introspectedToken.clientId ∧
          hasAdminOrVerifyOnlyRole requesterRoles = false then .ofStatus 401
      else ⟨200, none, some (.introspection introspectedToken)⟩

def verifyToken (authorizationRequest : AuthorizationRequest) : Server AuthorizationResponse :=
  guarded (
    match validateTokenForAccess config (extractAuthorizationHeader authorizationRequest) with
    | .invalid errorResponse => pure ⟨401, none, errorResponse.body⟩
    | .valid roles clientId => do
        match ← settle (parseVerifyTokenBody authorizationRequest) with
        | .error failureMessage => pure (badRequest failureMessage)
        | .ok verifyTokenBody => do
            let introspection ←
              introspectBearerToken config authorizationRequest.traceId verifyTokenBody.token
            pure (introspectionResponse roles clientId introspection))

end Verification

section Directory

/-- A response with a client or with all clients has status 200. -/
inductive GetClientResponse where
  | other (response : AuthorizationResponse)
  | client (client : GetClientBody)
  | clients (clients : List GetClientBody)
  deriving DecidableEq

/-- An authorization store that also lists its clients. -/
structure ClientDirectory (Contents : Type) extends AuthorizationStore Contents where
  getAllAuthorizationClients : TraceId → Contents →
    Except Exception GetAllAuthorizationClientsResult × Contents

variable {Contents : Type}

def getClientsResponse : Except Exception GetAllAuthorizationClientsResult → GetClientResponse
  | .ok (.getSuccess clients) => .clients clients
  | .ok .getFailureNotExists => .other (.ofStatus 404)
  | .ok .unknownFailure => .other (.ofStatus 500)
  | .error _ => .other (.ofStatus 500)

def getClientByIdResponse (clientId : String) : GetAuthorizationClientResult → GetClientResponse
  | .getSuccess _ clientName active roles => .client ⟨clientId, clientName, active, roles⟩
  | .getFailureNotExists => .other (.ofStatus 404)
  | .unknownFailure => .other (.ofStatus 500)

variable [NodeRuntime] [TokenLibrary] (config : Config)

def getClients (clientDirectory : ClientDirectory Contents)
    (authorizationRequest : AuthorizationRequest) (contents : Contents) :
    GetClientResponse × Contents :=
  match validateAdminTokenForAccess config (extractAuthorizationHeader authorizationRequest) with
  | some errorResponse => (.other errorResponse, contents)
  | none =>
      let fetched :=
        clientDirectory.getAllAuthorizationClients authorizationRequest.traceId contents
      (getClientsResponse fetched.1, fetched.2)

/-- The path expression is the one of an update.
No client is found under an id that is absent. -/
def getClientById (authorizationRequest : AuthorizationRequest) : Server GetClientResponse :=
  tryCatch
    (match validateAdminTokenForAccess config
        (extractAuthorizationHeader authorizationRequest) with
    | some errorResponse => pure (.other errorResponse)
    | none =>
        match updateClientId authorizationRequest.path with
        | .unmatched => pure (.other (badRequest (.string "Missing client id")))
        | .matched none => pure (.other (.ofStatus 404))
        | .matched (some clientId) => do
            let fetchResult ←
              ask (.getAuthorizationClient ⟨clientId, authorizationRequest.traceId⟩)
            pure (getClientByIdResponse clientId fetchResult))
    fun _ => pure (.other (.ofStatus 500))

end Directory
end Meadowlark.Authorization
