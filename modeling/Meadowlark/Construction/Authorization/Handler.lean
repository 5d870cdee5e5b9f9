import Meadowlark.Construction.Authorization.Body
import Meadowlark.Construction.Authorization.Token
import Meadowlark.Construction.Core.Handler

namespace Meadowlark.Authorization
open Meadowlark.Core Systems

section Paths

/-- What a path expression finds: no match, or a match whose client group may be absent. -/
inductive PathMatch where
  | unmatched
  | matched (clientId : Option String)
  deriving DecidableEq

/-- The client id is the rest of the path after two segments that are not empty. -/
def updatePathMatch : List (List Char) → PathMatch
  | oauth :: client :: next :: rest =>
      if oauth ≠ [] ∧ client ≠ [] then
        .matched ((matchDocumentUuid (next :: rest)).map (·.value))
      else updatePathMatch (client :: next :: rest)
  | _ => .unmatched

/-- The client id is the segment after two segments that are not empty and before a further one. -/
def resetPathMatch : List (List Char) → PathMatch
  | oauth :: client :: clientId :: reset :: rest =>
      if oauth ≠ [] ∧ client ≠ [] then
        .matched (if clientId = [] then none else some (String.ofList clientId))
      else resetPathMatch (client :: clientId :: reset :: rest)
  | _ => .unmatched

def updateClientId (path : String) : PathMatch := updatePathMatch (path.toList.splitOn '/').tail

def resetClientId (path : String) : PathMatch := resetPathMatch (path.toList.splitOn '/').tail

end Paths

/-- A request that the server cannot use. -/
def badRequest (error : Json) : AuthorizationResponse := ⟨400, none, some (.failure error none)⟩

/-- A handler answers with a server error when anything throws. -/
def guarded (handler : Server AuthorizationResponse) : Server AuthorizationResponse :=
  tryCatch handler fun _ => pure (.ofStatus 500)

/-- A function that makes no call runs inside a handler. -/
def settle {A : Type} (outcome : Except Exception A) : Server A := ExceptT.mk (.pure outcome)

section Clients
variable [NodeRuntime] [ServerLibrary]

/-- The body of a client request, or the response to a body that is not valid. -/
def parseClientBody (body : Option String) :
    Except Exception (Except AuthorizationResponse ClientBody) :=
  match body with
  | none => .ok (.error (badRequest (.string "Missing body")))
  | some body =>
      match Json.parse body with
      | none => .ok (.error (badRequest
          (.string ("Malformed body: " ++ NodeRuntime.syntaxErrorMessage body))))
      | some parsedBody => do
          match ← validateWithSuggestions clientBodySchema parsedBody with
          | .error failureMessage => pure (.error (badRequest failureMessage))
          | .ok validBody =>
              -- the schema accepts only an object with these fields
              match validBody with
              | .object fields =>
                  match clientBodyFrom fields with
                  | some clientBody => pure (.ok clientBody)
                  | none => pure (.error (badRequest .null))
              | _ => pure (.error (badRequest .null))

def notProvided : AuthorizationResponse where
  statusCode := 401
  headers := none
  body := some (.failure (.string "invalid_client") (some "Authorization token not provided"))

def createdResponse (request : CreateAuthorizationClientRequest) (clientSecretAsHex path : String) :
    AuthorizationResponse where
  statusCode := 201
  headers := some [(LOCATION_HEADER_NAME, path ++ "/" ++ request.clientId)]
  body := some (.createdClient request.clientId clientSecretAsHex request.clientName request.roles)

/-- A create request for the admin role alone may create the first admin without a token. -/
def tryCreateBootstrapAdmin (request : CreateAuthorizationClientRequest)
    (clientSecretAsHex httpRequestPath : String) : Server AuthorizationResponse :=
  guarded (
    if request.roles ≠ [.admin] then pure notProvided
    else do
      match ← ask (.tryCreateBootstrapAuthorizationAdmin request) with
      | .createFailureAlreadyExists => pure notProvided
      | .createSuccess => pure (createdResponse request clientSecretAsHex httpRequestPath)
      | .unknownFailure => pure (.ofStatus 500))

/-- The flag of a new client counts as set when it is absent. -/
def createRequestFrom (createClientBody : ClientBody) (clientId : String)
    (clientSecretBuffer : List UInt8) (traceId : TraceId) : CreateAuthorizationClientRequest where
  clientId := clientId
  clientSecretHashed := hashClientSecretBuffer clientSecretBuffer
  clientName := createClientBody.clientName
  active := createClientBody.active.getD true
  roles := createClientBody.roles
  traceId := traceId

def createValidClient (authorizationRequest : AuthorizationRequest) (bootstrapAdminRequest : Bool)
    (createClientBody : ClientBody) : Server AuthorizationResponse := do
  let clientId ← ask .newClientId
  let clientSecretBuffer ← ask (.randomBytes 32)
  let createRequest :=
    createRequestFrom createClientBody clientId clientSecretBuffer authorizationRequest.traceId
  if bootstrapAdminRequest then
    tryCreateBootstrapAdmin createRequest (toHex clientSecretBuffer) authorizationRequest.path
  else
    match ← ask (.createAuthorizationClient createRequest) with
    | .createSuccess =>
        pure (createdResponse createRequest (toHex clientSecretBuffer) authorizationRequest.path)
    | .unknownFailure => pure (.ofStatus 500)

variable [TokenLibrary] (config : Config)

omit [NodeRuntime] [ServerLibrary] [TokenLibrary] in
/-- A request without a token may be the attempt to create the first admin. -/
def isBootstrapAdminRequest (authorizationRequest : AuthorizationRequest) : Bool :=
  (extractAuthorizationHeader authorizationRequest).all (· = "")

def createClient (authorizationRequest : AuthorizationRequest) : Server AuthorizationResponse :=
  guarded (do
    let bootstrapAdminRequest := isBootstrapAdminRequest authorizationRequest
    let tokenValidationErrorResponse :=
      if bootstrapAdminRequest then none
      else validateAdminTokenForAccess config (extractAuthorizationHeader authorizationRequest)
    match tokenValidationErrorResponse with
    | some errorResponse => pure errorResponse
    | none => do
        match ← settle (parseClientBody authorizationRequest.body) with
        | .error errorResponse => pure errorResponse
        | .ok createClientBody =>
            createValidClient authorizationRequest bootstrapAdminRequest createClientBody)

/-- An absent flag stays absent in the request to the store. -/
def updateRequestFrom (updateClientBody : ClientBody) (clientId : Option String)
    (traceId : TraceId) : UpdateAuthorizationClientRequest where
  clientId := clientId
  clientName := updateClientBody.clientName
  active := updateClientBody.active
  roles := updateClientBody.roles
  traceId := traceId

def updateClientResponse : UpdateAuthorizationClientResult → AuthorizationResponse
  | .updateSuccess => .ofStatus 204
  | .updateFailedNotExists => .ofStatus 404
  | .unknownFailure => .ofStatus 500

def updateClient (authorizationRequest : AuthorizationRequest) : Server AuthorizationResponse :=
  guarded (
    match validateAdminTokenForAccess config
        (extractAuthorizationHeader authorizationRequest) with
    | some errorResponse => pure errorResponse
    | none =>
        match updateClientId authorizationRequest.path with
        | .unmatched => pure (badRequest (.string "Missing client id"))
        | .matched clientId => do
            match ← settle (parseClientBody authorizationRequest.body) with
            | .error errorResponse => pure errorResponse
            | .ok updateClientBody => do
                let result ← ask (.updateAuthorizationClient
                  (updateRequestFrom updateClientBody clientId authorizationRequest.traceId))
                pure (updateClientResponse result))

def resetResponse (clientId : Option String) (clientSecretBuffer : List UInt8) :
    ResetAuthorizationClientSecretResult → AuthorizationResponse
  | .resetSuccess =>
      ⟨201, none, some (.clientSecret (clientId.getD "") (toHex clientSecretBuffer))⟩
  | .resetFailedNotExists => .ofStatus 404
  | .unknownFailure => .ofStatus 500

def resetAuthorizationClientSecret (authorizationRequest : AuthorizationRequest) :
    Server AuthorizationResponse :=
  guarded (
    match validateAdminTokenForAccess config
        (extractAuthorizationHeader authorizationRequest) with
    | some errorResponse => pure errorResponse
    | none => do
        let clientSecretBuffer ← ask (.randomBytes 32)
        match resetClientId authorizationRequest.path with
        | .unmatched => pure (badRequest (.string "Missing client id"))
        | .matched clientId => do
            let result ← ask (.resetAuthorizationClientSecret
              ⟨clientId, hashClientSecretBuffer clientSecretBuffer, authorizationRequest.traceId⟩)
            pure (resetResponse clientId clientSecretBuffer result))

end Clients

section Tokens
variable [NodeRuntime] [ServerLibrary]

/-- The body is form encoded, or else JSON. -/
def decodeTokenBody (authorizationRequest : AuthorizationRequest) (body : String) :
    Except Json Json :=
  if ((authorizationRequest.headers.lookup "content-type").any fun contentType =>
      "application/x-www-form-urlencoded".toList.isPrefixOf contentType.toList) then
    .ok (ServerLibrary.querystringParse body)
  else
    match Json.parse body with
    | some parsedBody => .ok parsedBody
    | none => .error (.object
        [("message", .string ("Malformed body: " ++ NodeRuntime.syntaxErrorMessage body))])

def failureText (message : String) : Json := .object [("message", .string message)]

/-- The client id and the client secret of a request for a token. -/
structure ClientCredentials where
  grantType : String
  clientId : String
  clientSecret : String
  deriving DecidableEq

/-- The credentials are in the body or encoded in the header. -/
def credentialsFrom (authorizationRequest : AuthorizationRequest)
    (requestTokenBody : RequestTokenBody) : Except Json ClientCredentials :=
  match requestTokenBody.clientId with
  | some clientId =>
      .ok ⟨requestTokenBody.grantType, clientId, requestTokenBody.clientSecret.getD ""⟩
  | none =>
      match extractAuthorizationHeader authorizationRequest with
      | none => .error (failureText "Missing authorization header")
      | some authorizationHeader =>
          if "Basic ".toList.isPrefixOf authorizationHeader.toList then
            match (ServerLibrary.base64ToBinary
                (String.ofList (authorizationHeader.toList.drop 6))).toList.splitOn ':' with
            | [clientId, clientSecret] => .ok ⟨requestTokenBody.grantType,
                String.ofList clientId, String.ofList clientSecret⟩
            | _ => .error (failureText "Invalid authorization header")
          else .error (failureText "Invalid authorization header")

/-- The request elements, or a failure message if the request is not valid. -/
def parseRequestTokenBody (authorizationRequest : AuthorizationRequest) :
    Except Exception (Except Json ClientCredentials) :=
  match authorizationRequest.body with
  | none => .ok (.error (failureText "Request body is empty"))
  | some body =>
      match decodeTokenBody authorizationRequest body with
      | .error failureMessage => .ok (.error failureMessage)
      | .ok parsedBody => do
          match ← validateWithSuggestions requestTokenBodySchema parsedBody with
          | .error failureMessage => pure (.error failureMessage)
          | .ok (.object fields) =>
              match requestTokenBodyFrom fields with
              | some requestTokenBody =>
                  pure (credentialsFrom authorizationRequest requestTokenBody)
              | none => pure (.error .null)
          | .ok _ => pure (.error .null)

variable [TokenLibrary] (config : Config)

/-- The library stores times in seconds. -/
def createToken (clientId vendor : String) (roles : List String) (now : Int) : JwtBody where
  iss := some config.oauthTokenIssuer
  aud := some config.oauthTokenAudience
  sub := some vendor
  clientId := some clientId
  iat := some (now / 1000)
  exp := some ((now + config.oauthExpirationMinutes * 60 * 1000) / 1000)
  roles := some roles

omit [NodeRuntime] [ServerLibrary] in
def tokenResponse (clientId vendor : String) (roles : List String) : Server AuthorizationResponse := do
  let now ← ask .dateNow
  let token := createToken config clientId vendor roles now
  pure ⟨200, none,
    some (.token (TokenLibrary.compact token config.oauthSigningKey) token.exp)⟩

omit [NodeRuntime] in
/-- The secret is compared by its hash, and a client that is not active gets no token. -/
def requestStoredToken (credentials : ClientCredentials) (traceId : TraceId) :
    Server AuthorizationResponse := do
  match ← ask (.getAuthorizationClient ⟨credentials.clientId, traceId⟩) with
  | .unknownFailure => pure (.ofStatus 500)
  | .getFailureNotExists => pure (.ofStatus 401)
  | .getSuccess clientSecretHashed clientName active roles =>
      if active.getD false = false then pure (.ofStatus 403)
      else if hashClientSecretHexString credentials.clientSecret ≠ clientSecretHashed then
        pure (.ofStatus 401)
      else tokenResponse config credentials.clientId clientName (roles.map (·.toText))

def requestToken (authorizationRequest : AuthorizationRequest) : Server AuthorizationResponse :=
  guarded (do
    match ← settle (parseRequestTokenBody authorizationRequest) with
    | .error failureMessage => pure (badRequest failureMessage)
    | .ok credentials =>
        if credentials.grantType ≠ "client_credentials" then pure (.ofStatus 401)
        else if config.oauthHardCodedCredentialsEnabled = false ∧
            (credentials.clientId = admin1.key ∨ credentials.clientId = verifyOnly1.key) then
          pure (.ofStatus 401)
        else if credentials.clientId = admin1.key ∧ credentials.clientSecret = admin1.secret then
          tokenResponse config admin1.key admin1.vendor admin1.role
        else if credentials.clientId = verifyOnly1.key ∧
            credentials.clientSecret = verifyOnly1.secret then
          tokenResponse config verifyOnly1.key verifyOnly1.vendor verifyOnly1.role
        else requestStoredToken config credentials authorizationRequest.traceId)

end Tokens
end Meadowlark.Authorization
