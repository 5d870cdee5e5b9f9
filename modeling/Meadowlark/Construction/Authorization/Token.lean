import Meadowlark.Construction.Authorization.Server

namespace Meadowlark.Authorization
open Meadowlark.Core Systems

section JwtAction

structure JwtStatus where
  isMissing : Bool
  isValid : Bool
  isExpired : Bool
  issuer : String
  audience : String
  subject : Option String
  clientId : Option String
  issuedAt : Int
  expiresAt : Int
  roles : List String

def newJwtStatus : JwtStatus where
  isMissing := false
  isValid := false
  isExpired := false
  issuer := ""
  audience := ""
  subject := none
  clientId := none
  issuedAt := 0
  expiresAt := 0
  roles := []

def failureMessages : List String := ["Signature verification failed", "Jwt cannot be parsed"]

def expiredMessage : String := "Jwt is expired"

/-- The status of a token without a body has no roles and no client. -/
def toJwtStatus : Option Jwt → JwtStatus
  | none => { newJwtStatus with isValid := false }
  | some jwt =>
      { isMissing := false
        isValid := jwt.message.all (· ∉ failureMessages)
        isExpired := jwt.message = some expiredMessage
        issuer := (jwt.body.bind (·.iss)).getD ""
        audience := (jwt.body.bind (·.aud)).getD ""
        subject := jwt.body.bind (·.sub)
        clientId := jwt.body.bind (·.clientId)
        issuedAt := (jwt.body.bind (·.iat)).getD 0
        expiresAt := (jwt.body.bind (·.exp)).getD 0
        roles := (jwt.body.bind (·.roles)).getD [] }

/-- A thrown error is read like a token. -/
def JwtError.asJwt (error : JwtError) : Jwt := ⟨some error.message, error.body⟩

def Verification.status : Verification → JwtStatus
  | .verified jwt => toJwtStatus jwt
  | .threw error => toJwtStatus (some error.asJwt)

def isBearer (authorization : String) : Bool :=
  "Bearer ".toList.isPrefixOf authorization.toList || "bearer ".toList.isPrefixOf authorization.toList

/-- The word after the first blank. -/
def secondWord (authorization : String) : String :=
  String.ofList ((authorization.toList.splitOn ' ').getD 1 [])

variable [TokenLibrary]

def verifyJwt (config : Config) : Option String → JwtStatus
  | none => { newJwtStatus with isMissing := true, isValid := false }
  | some authorization =>
      if isBearer authorization then
        (TokenLibrary.verify (secondWord authorization) config.oauthSigningKey).status
      else { newJwtStatus with isMissing := true, isValid := false }

end JwtAction

section TokenValidator
variable [NodeRuntime]

def hasAdminRole (roles : List String) : Bool :=
  roles.any fun role => NodeRuntime.toLocaleLowerCase role = "admin"

def hasAdminOrVerifyOnlyRole (roles : List String) : Bool :=
  roles.any fun role =>
    NodeRuntime.toLocaleLowerCase role = "verify-only" || NodeRuntime.toLocaleLowerCase role = "admin"

inductive ValidateTokenResult where
  | valid (roles : List String) (clientId : String)
  | invalid (errorResponse : AuthorizationResponse)
  deriving DecidableEq

/-- The response to a token that is not accepted. -/
def unauthorized (error errorDescription : String) : AuthorizationResponse where
  statusCode := 401
  headers := some [("WWW-Authenticate", "Bearer")]
  body := some (.failure (.string error) (some errorDescription))

variable [TokenLibrary]

omit [NodeRuntime] in
def validateTokenForAccess (config : Config) (authorizationHeader : Option String) :
    ValidateTokenResult :=
  let jwtStatus := verifyJwt config authorizationHeader
  if jwtStatus.isMissing then
    .invalid (unauthorized "invalid_client" "Authorization token not provided")
  else if jwtStatus.isExpired then .invalid (unauthorized "invalid_token" "Token is expired")
  else if jwtStatus.isValid then .valid jwtStatus.roles (jwtStatus.clientId.getD "")
  else .invalid (unauthorized "invalid_token" "Invalid authorization token")

def validateAdminTokenForAccess (config : Config) (authorizationHeader : Option String) :
    Option AuthorizationResponse :=
  match validateTokenForAccess config authorizationHeader with
  | .invalid errorResponse => some errorResponse
  | .valid roles _ =>
      if hasAdminRole roles then none
      else some ⟨403, some [("WWW-Authenticate", "Bearer")], none⟩

omit [NodeRuntime] [TokenLibrary] in
/-- A client is valid when it is found in the authorization store. -/
def isValidClientId (config : Config) (traceId : TraceId) : Option String → Server Bool
  | none => pure false
  | some clientId =>
      if config.environmentHardCodedCredentialsEnabled ∧
          clientId ∈ [admin1.key, verifyOnly1.key] then pure true
      else do
        match ← ask (.getAuthorizationClient ⟨clientId, traceId⟩) with
        | .getSuccess _ _ active _ => pure (active.getD false)
        | _ => pure false

/-- The information that the claims of a token carry. -/
def introspectedTokenFrom (active : Bool) (body : Option JwtBody) : IntrospectedToken where
  active := active
  clientId := (body.bind (·.clientId)).getD ""
  sub := (body.bind (·.sub)).getD ""
  aud := (body.bind (·.aud)).getD ""
  iss := (body.bind (·.iss)).getD ""
  exp := (body.bind (·.exp)).getD 0
  iat := (body.bind (·.iat)).getD 0
  roles := (body.bind (·.roles)).getD []

omit [NodeRuntime] in
/-- A verified token is checked for its issuer, its audience and its client. -/
def introspectBearerToken (config : Config) (traceId : TraceId) (bearerToken : String) :
    Server IntrospectionResponse :=
  match TokenLibrary.verify bearerToken config.oauthSigningKey with
  | .threw error =>
      if error.message ≠ expiredMessage then pure .invalid
      else pure (.valid (introspectedTokenFrom false error.parsedBody))
  | .verified none => pure .invalid
  | .verified (some jwt) =>
      if jwt.body.bind (·.iss) ≠ some config.oauthTokenIssuer then pure .invalid
      else if jwt.body.bind (·.aud) ≠ some config.oauthTokenAudience then pure .invalid
      else if jwt.message = some expiredMessage then
        pure (.valid (introspectedTokenFrom false jwt.body))
      else do
        let active ← isValidClientId config traceId (jwt.body.bind (·.clientId))
        pure (.valid (introspectedTokenFrom active jwt.body))

end TokenValidator
end Meadowlark.Authorization
