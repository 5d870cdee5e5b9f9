import Meadowlark.Construction.Core.Frontend

namespace Meadowlark.Core
open Systems

/-- The validation and extraction functions that the middleware calls.
Validation may change the document that it checks.
No document info stands for the object `NoDocumentInfo` itself.
The prototype answers for the properties that an empty schema map inherits. -/
class DocumentProcessing where
  prototypeResourceSchema : String → Option ResourceSchema
  didYouMean : String → List String → Option String
  validateDocument : ResourceSchema → Json → Bool → Except Exception (Option Json × Json)
  validateEqualityConstraints : ResourceSchema → Json → Except Exception (List String)
  buildDocumentInfo : ApiSchema → ResourceSchema → Json → Int → Except Exception (Option DocumentInfo)
  isNotPositiveInteger : Json → Bool
  validateQueryString : FrontendQueryParameters → ResourceSchema → Except Exception (Option Json)

/-- A middleware answers the request instead of the later middlewares. -/
def respondWith (frontendRequest : FrontendRequest) (frontendResponse : FrontendResponse) :
    MiddlewareModel := ⟨frontendRequest, some frontendResponse⟩

/-- The request continues with new middleware data. -/
def continueWith (frontendRequest : FrontendRequest) (middleware : FrontendRequestMiddleware) :
    MiddlewareModel := ⟨{ frontendRequest with middleware := middleware }, none⟩

def errorBody (error : Json) : Json := .object [("error", error)]

section Path

def isLineTerminator (char : Char) : Bool :=
  char.toNat = 0x0A || char.toNat = 0x0D || char.toNat = 0x2028 || char.toNat = 0x2029

/-- The last group of the path expression may be absent and never matches the empty text.
It ends at the end of the path or before a line terminator. -/
def matchDocumentUuid : List (List Char) → Option DocumentUuid
  | [] => none
  | [last] => if last = [] then none else some ⟨String.ofList last⟩
  | segment :: _ =>
      let matched := ((segment.reverse.dropWhile (! isLineTerminator ·)).drop 1).reverse
      if matched = [] then none else some ⟨String.ofList matched⟩

variable [NodeRuntime]

/-- The first character of a text is one code unit. -/
def decapitalize (text : String) : String :=
  match text.toList with
  | [] => text
  | first :: rest =>
      if first.toNat > 0xFFFF then text
      else NodeRuntime.toLowerCase (String.ofList [first]) ++ String.ofList rest

/-- The path expression matches the first three adjacent segments that are not empty. -/
def matchSegments : List (List Char) → Option PathComponents
  | projectShortVersion :: projectNamespace :: endpointName :: rest =>
      if projectShortVersion ≠ [] ∧ projectNamespace ≠ [] ∧ endpointName ≠ [] then
        some
          { projectShortVersion := String.ofList projectShortVersion
            projectNamespace := NodeRuntime.toLowerCase (String.ofList projectNamespace)
            endpointName := decapitalize (String.ofList endpointName)
            documentUuid := matchDocumentUuid rest }
      else matchSegments (projectNamespace :: endpointName :: rest)
  | _ => none

def pathComponentsFrom (path : String) : Option PathComponents :=
  matchSegments (path.toList.splitOn '/').tail

def parsePath (model : MiddlewareModel) : MiddlewareModel :=
  match model.frontendResponse with
  | some _ => model
  | none =>
      match pathComponentsFrom model.frontendRequest.path with
      | none => respondWith model.frontendRequest (.ofStatus 404)
      | some pathComponents =>
          if pathComponents.documentUuid.all isDocumentUuidWellFormed then
            continueWith model.frontendRequest
              { model.frontendRequest.middleware with pathComponents := pathComponents }
          else respondWith model.frontendRequest (.ofStatus 404)

end Path

section Authorization

/-- The search ends at the first role that is as wanted.
A role that is not a text has no lower case form. -/
def someRole [NodeRuntime] (wanted : String → Bool) : List Json → Except Exception Bool
  | [] => .ok false
  | .string role :: rest =>
      if wanted (NodeRuntime.toLocaleLowerCase role) then .ok true else someRole wanted rest
  | _ :: _ => .error (typeError "role.toLocaleLowerCase is not a function")

def determineAuthStrategyFromRoles [NodeRuntime] (rolesList : List Json) :
    Except Exception AuthorizationStrategy := do
  if ← someRole (· = "host") rolesList then pure .fullAccess
  else if ← someRole (· = "admin") rolesList then pure .fullAccess
  else if ← someRole (fun role => role = "vendor" || role = "assessment") rolesList then
    pure .ownershipBased
  else pure .undefined

variable [NodeRuntime]

/-- A property of a body that may be absent. -/
def dataProperty (data : Option Json) (name : String) : Option Json := data.bind (·.field? name)

/-- A client id that is not a text stands for its text. -/
def clientIdFrom (data : Option Json) : String :=
  match dataProperty data "client_id" with
  | none => "UNKNOWN"
  | some .null => "UNKNOWN"
  | some clientId => clientId.toTemplateText

/-- A body without roles has the empty list of roles. -/
def rolesFrom (data : Option Json) : Json :=
  match dataProperty data "roles" with
  | some roles => if roles.isTruthy then roles else .array []
  | none => .array []

def isActive (data : Option Json) : Bool := (dataProperty data "active").any (·.isTruthy)

/-- The information that a verified client token carries. -/
def clientTokenInfoFrom (data : Option Json) : Except Exception ClientTokenInfo :=
  match rolesFrom data with
  | .array roles => do
      let authorizationStrategy ← determineAuthStrategyFromRoles roles
      pure
        { security :=
            { clientId := clientIdFrom data, authorizationStrategy := authorizationStrategy }
          validateResources := .string "assessment" ∉ roles }
  | _ => .error (typeError "rolesList.some is not a function")

def extractClientBearerTokenFrom (frontendRequest : FrontendRequest) : Option String := do
  let authorizationHeader ← (frontendRequest.headers.lookup "authorization").or
    (frontendRequest.headers.lookup "Authorization")
  if "bearer ".toList.isPrefixOf (NodeRuntime.toLowerCase authorizationHeader).toList then
    some (String.ofList (authorizationHeader.toList.drop 7))
  else none

def ownAccessTokenFrom (data : Option Json) : Except Exception (Option Json) :=
  if Json.isNullish data then
    .error (typeError "Cannot read properties of undefined (reading 'access_token')")
  else .ok (dataProperty data "access_token")

def requestOwnAccessToken : Frontend (Except FrontendResponse (Option Json)) :=
  let requestFailed : FrontendResponse :=
    ⟨502, none, some (errorBody (.string "Request from Meadowlark to OAuth server failed"))⟩
  tryCatch
    (do
      let ownAccessTokenResponse ← perform .fetchOwnAccessToken
      if ownAccessTokenResponse.status = 200 then do
        let ownAccessToken ← ownAccessTokenFrom ownAccessTokenResponse.data
        pure (.ok ownAccessToken)
      else if ownAccessTokenResponse.status = 401 ∨ ownAccessTokenResponse.status = 404 then
        pure (.error ⟨500, none,
          some (errorBody (.string "Invalid Meadowlark to OAuth server configuration"))⟩)
      else pure (.error requestFailed))
    fun _ => pure (.error requestFailed)

/-- A new token of Meadowlark itself enters the cache. -/
def refreshOwnAccessToken : Frontend (Except FrontendResponse (Option Json)) := do
  match ← requestOwnAccessToken with
  | .error errorResponse => pure (.error errorResponse)
  | .ok ownAccessToken => do
      perform (.setCachedOwnAccessToken ownAccessToken)
      pure (.ok ownAccessToken)

def acceptClientToken (frontendRequest : FrontendRequest) (clientTokenInfo : ClientTokenInfo) :
    MiddlewareModel :=
  continueWith frontendRequest
    { frontendRequest.middleware with
      providedSecurity := some clientTokenInfo.security
      validateResources := clientTokenInfo.validateResources }

/-- The answer of the OAuth server decides about the client token. -/
def acceptVerification (frontendRequest : FrontendRequest) (clientBearerToken : String)
    (verificationResponse : OAuthResponse) : Frontend MiddlewareModel :=
  if verificationResponse.status = 400 then pure (respondWith frontendRequest (.ofStatus 401))
  else if verificationResponse.status = 200 then
    if isActive verificationResponse.data then do
      let clientTokenInfo ← clientTokenInfoFrom verificationResponse.data
      perform (.setCachedClientTokenInfo clientBearerToken clientTokenInfo)
      pure (acceptClientToken frontendRequest clientTokenInfo)
    else pure (respondWith frontendRequest (.ofStatus 401))
  else pure (respondWith frontendRequest (.ofStatus 502))

/-- A rejected own token is fetched again for one more try. -/
def verifyClientToken (frontendRequest : FrontendRequest) (clientBearerToken : String)
    (ownAccessToken : Option Json) : Frontend MiddlewareModel := do
  let verificationResponse ← perform (.fetchClientTokenVerification clientBearerToken ownAccessToken)
  if verificationResponse.status = 401 then
    match ← refreshOwnAccessToken with
    | .error errorResponse => pure (respondWith frontendRequest errorResponse)
    | .ok renewedAccessToken => do
        let secondResponse ←
          perform (.fetchClientTokenVerification clientBearerToken renewedAccessToken)
        acceptVerification frontendRequest clientBearerToken secondResponse
  else acceptVerification frontendRequest clientBearerToken verificationResponse

def findOwnAccessToken : Frontend (Except FrontendResponse (Option Json)) := do
  let cachedOwnAccessToken ← perform .getCachedOwnAccessToken
  if Json.isNullish cachedOwnAccessToken then refreshOwnAccessToken
  else pure (.ok cachedOwnAccessToken)

def authorizeClientToken (frontendRequest : FrontendRequest) (clientBearerToken : String) :
    Frontend MiddlewareModel := do
  match ← perform (.getCachedClientTokenInfo clientBearerToken) with
  | some cachedClientTokenInfo => pure (acceptClientToken frontendRequest cachedClientTokenInfo)
  | none =>
      match ← findOwnAccessToken with
      | .error errorResponse => pure (respondWith frontendRequest errorResponse)
      | .ok ownAccessToken =>
          tryCatch (verifyClientToken frontendRequest clientBearerToken ownAccessToken)
            fun _ => pure (respondWith frontendRequest (.ofStatus 500))

def authorize (model : MiddlewareModel) : Frontend MiddlewareModel :=
  match model.frontendResponse, model.frontendRequest.middleware.providedSecurity with
  | some _, _ => pure model
  | none, some _ => pure model
  | none, none =>
      match extractClientBearerTokenFrom model.frontendRequest with
      | none => pure (respondWith model.frontendRequest
          ⟨400, some model.frontendRequest.middleware.headerMetadata,
            some (errorBody (.string "Invalid authorization header"))⟩)
      | some clientBearerToken => authorizeClientToken model.frontendRequest clientBearerToken

end Authorization

section Loading

def timestampRequest (model : MiddlewareModel) : Frontend MiddlewareModel :=
  match model.frontendResponse with
  | some _ => pure model
  | none => do
      let timestamp ← perform .dateNow
      pure (continueWith model.frontendRequest
        { model.frontendRequest.middleware with timestamp := timestamp })

def loadApiSchema (model : MiddlewareModel) : Frontend MiddlewareModel :=
  match model.frontendResponse with
  | some _ => pure model
  | none => do
      let apiSchema ← perform (.findApiSchema model.frontendRequest.traceId)
      pure (continueWith model.frontendRequest
        { model.frontendRequest.middleware with apiSchema := apiSchema })

end Loading

section Validation

def parseBody [NodeRuntime] (model : MiddlewareModel) : MiddlewareModel :=
  match model.frontendResponse with
  | some _ => model
  | none =>
      match model.frontendRequest.body with
      | none => respondWith model.frontendRequest
          ⟨400, none, some (errorBody (.string "Missing body"))⟩
      | some body =>
          match Json.parse body with
          | none => respondWith model.frontendRequest ⟨400, none, some (errorBody
              (.string ("Malformed body: " ++ NodeRuntime.syntaxErrorMessage body)))⟩
          | some parsedBody => continueWith model.frontendRequest
              { model.frontendRequest.middleware with parsedBody := parsedBody }

variable [DocumentProcessing]

structure EndpointValidationResult where
  resourceSchema : ResourceSchema
  resourceInfo : ResourceInfo
  errorBody : Option Json
  headerMetadata : Option Headers

def NoProjectSchema : ProjectSchema where
  projectName := "NoProjectName"
  projectVersion := "0.0.0"
  resourceSchemas := ⟨[], DocumentProcessing.prototypeResourceSchema⟩
  resourceNameMapping := ⟨[], fun _ => none⟩

def findProjectSchema (apiSchema : ApiSchema) (projectNamespace : String) : ProjectSchema :=
  (apiSchema.projectSchemas.property projectNamespace).getD NoProjectSchema

/-- What an object inherits under a namespace has no resource schemas, so that reading from them
throws. -/
def findResourceSchema (apiSchema : ApiSchema) (pathComponents : PathComponents) :
    Except Exception (Option ResourceSchema) :=
  if apiSchema.projectSchemas.property pathComponents.projectNamespace = none ∧
      (DocumentProcessing.prototypeResourceSchema pathComponents.projectNamespace).isSome then
    .error (typeError ("Cannot read properties of undefined (reading '" ++
      pathComponents.endpointName ++ "')"))
  else .ok ((findProjectSchema apiSchema pathComponents.projectNamespace).resourceSchemas.property
    pathComponents.endpointName)

/-- An unknown project has no endpoint names, so the listing throws. -/
def validEndpointNamesFor (apiSchema : ApiSchema) (projectNamespace : String) :
    Except Exception (List String) :=
  match apiSchema.projectSchemas.property projectNamespace with
  | none => .error (typeError "Cannot read properties of undefined (reading 'resourceSchemas')")
  | some projectSchema => .ok projectSchema.resourceSchemas.keys

/-- The endpoint names a resource schema, or another endpoint name may be suggested. -/
inductive MatchResourceSchemaResult where
  | matching (resourceSchema : ResourceSchema)
  | suggestion (endpointName : String)
  | nothing

def matchResourceSchema (apiSchema : ApiSchema) (pathComponents : PathComponents) :
    Except Exception MatchResourceSchemaResult := do
  let matchingResourceSchema ← findResourceSchema apiSchema pathComponents
  match matchingResourceSchema with
  | some resourceSchema => pure (.matching resourceSchema)
  | none => do
      let endpointNames ← validEndpointNamesFor apiSchema pathComponents.projectNamespace
      pure (match DocumentProcessing.didYouMean pathComponents.endpointName endpointNames with
        | some suggestion => .suggestion suggestion
        | none => .nothing)

def invalidEndpoint (message : String) : EndpointValidationResult where
  resourceSchema := NoResourceSchema
  resourceInfo := NoResourceInfo
  errorBody := some (errorBody (.string message))
  headerMetadata := none

def resourceInfoFrom (projectSchema : ProjectSchema) (resourceSchema : ResourceSchema) :
    ResourceInfo where
  projectName := projectSchema.projectName
  resourceVersion := projectSchema.projectVersion
  resourceName := resourceSchema.resourceName
  isDescriptor := resourceSchema.isDescriptor
  allowIdentityUpdates := resourceSchema.allowIdentityUpdates

def validateEndpoint (apiSchema : ApiSchema) (pathComponents : PathComponents) :
    Except Exception EndpointValidationResult := do
  let result ← matchResourceSchema apiSchema pathComponents
  let projectSchema := findProjectSchema apiSchema pathComponents.projectNamespace
  pure (match result with
    | .suggestion suggestedEndpointName =>
        invalidEndpoint ("Invalid resource '" ++ pathComponents.endpointName ++
          "'. The most similar resource is '" ++ suggestedEndpointName ++ "'.")
    | .nothing => invalidEndpoint ("Invalid resource '" ++ pathComponents.endpointName ++ "'.")
    | .matching resourceSchema =>
        { resourceSchema := resourceSchema
          resourceInfo := resourceInfoFrom projectSchema resourceSchema
          errorBody := none
          headerMetadata := some
            [("X-Project-Name", projectSchema.projectName),
              ("X-Project-Version", projectSchema.projectVersion)] })

def endpointValidation (model : MiddlewareModel) : Except Exception MiddlewareModel :=
  match model.frontendResponse with
  | some _ => pure model
  | none => do
      let middleware := model.frontendRequest.middleware
      let result ← validateEndpoint middleware.apiSchema middleware.pathComponents
      pure (match result.errorBody with
        | some error => respondWith model.frontendRequest
            ⟨if result.resourceInfo = NoResourceInfo then 404 else 400, result.headerMetadata,
              some error⟩
        | none => continueWith model.frontendRequest
            { middleware with
              resourceSchema := result.resourceSchema
              resourceInfo := result.resourceInfo
              headerMetadata := result.headerMetadata.getD [] })

def documentValidation (model : MiddlewareModel) : Except Exception MiddlewareModel :=
  match model.frontendResponse with
  | some _ => pure model
  | none => do
      let middleware := model.frontendRequest.middleware
      let (error, parsedBody) ← DocumentProcessing.validateDocument middleware.resourceSchema
        middleware.parsedBody (model.frontendRequest.action = .updateById)
      let validated := { middleware with parsedBody := parsedBody }
      pure (match error with
        | some error => respondWith { model.frontendRequest with middleware := validated }
            ⟨400, some middleware.headerMetadata, some error⟩
        | none => continueWith model.frontendRequest validated)

def equalityConstraintValidation (model : MiddlewareModel) : Except Exception MiddlewareModel :=
  match model.frontendResponse with
  | some _ => pure model
  | none => do
      let middleware := model.frontendRequest.middleware
      let validationFailures ← DocumentProcessing.validateEqualityConstraints
        middleware.resourceSchema middleware.parsedBody
      pure (if validationFailures = [] then model
        else respondWith model.frontendRequest ⟨400, some middleware.headerMetadata,
          some (errorBody (.array (validationFailures.map .string)))⟩)

def documentInfoExtraction (model : MiddlewareModel) : Except Exception MiddlewareModel :=
  match model.frontendResponse with
  | some _ => pure model
  | none => do
      let middleware := model.frontendRequest.middleware
      let documentInfo ← DocumentProcessing.buildDocumentInfo middleware.apiSchema
        middleware.resourceSchema middleware.parsedBody middleware.timestamp
      pure (match documentInfo with
        | none => respondWith model.frontendRequest ⟨404, some middleware.headerMetadata, none⟩
        | some documentInfo => continueWith model.frontendRequest
            { middleware with documentInfo := documentInfo })

def createInvalidRequestResponse (modelState : List (String × Json)) : Json :=
  .object [("error", .string "The request is invalid."), ("modelState", .object modelState)]

def validatePaginationParameters (parameters : PaginationParameters) : Option Json :=
  if parameters.limit = none ∧ parameters.offset = none then none
  else
    let numericError := "Must be set to a numeric value >= 0"
    let limitErrors :=
      (if parameters.limit.any DocumentProcessing.isNotPositiveInteger then [numericError] else []) ++
        if parameters.offset ≠ none ∧ parameters.limit = none then
          ["Limit must be provided when using offset"]
        else []
    let offsetErrors :=
      if parameters.offset.any DocumentProcessing.isNotPositiveInteger then [numericError] else []
    if limitErrors = [] ∧ offsetErrors = [] then none
    else some (createInvalidRequestResponse
      [("limit", .array (limitErrors.map .string)), ("offset", .array (offsetErrors.map .string))])

def onlyPaginationParameters (queryParameters : FrontendQueryParameters) : PaginationParameters where
  limit := queryParameters.lookup "limit"
  offset := queryParameters.lookup "offset"

def removeDisallowedQueryParameters (queryParameters : FrontendQueryParameters) :
    FrontendQueryParameters :=
  queryParameters.filter fun parameter => parameter.1 ∉ ["offset", "limit", "totalCount"]

def queryValidation (model : MiddlewareModel) : Except Exception MiddlewareModel :=
  match model.frontendResponse with
  | some _ => pure model
  | none =>
      let middleware := model.frontendRequest.middleware
      let queryParameters := model.frontendRequest.queryParameters
      if queryParameters = [] then pure model
      else
        match validatePaginationParameters (onlyPaginationParameters queryParameters) with
        | some error => pure (respondWith model.frontendRequest
            ⟨400, some middleware.headerMetadata, some error⟩)
        | none => do
            let error ← DocumentProcessing.validateQueryString
              (removeDisallowedQueryParameters queryParameters) middleware.resourceSchema
            pure (match error with
              | some error => respondWith model.frontendRequest
                  ⟨400, some middleware.headerMetadata, some error⟩
              | none => model)

end Validation

section Security

/-- Both document stores guard a request by the same middleware around their own check.
Only the ownership strategy is checked. -/
def ownershipMiddleware (rejectByOwnershipSecurity : FrontendRequest → Frontend SecurityResult)
    (model : MiddlewareModel) : Frontend MiddlewareModel :=
  match model.frontendResponse with
  | some _ => pure model
  | none =>
      if model.frontendRequest.middleware.security.authorizationStrategy ≠ .ownershipBased then
        pure model
      else do
        match ← rejectByOwnershipSecurity model.frontendRequest with
        | .accessApproved => pure model
        | .notApplicable => pure model
        | .unknownFailure => pure (respondWith model.frontendRequest
            ⟨500, some [], some (.string "")⟩)
        | .accessDenied => pure (respondWith model.frontendRequest
            ⟨403, some [], some (.string "")⟩)

end Security
end Meadowlark.Core
