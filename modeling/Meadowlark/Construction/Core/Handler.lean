import Meadowlark.Construction.Core.Middleware

namespace Meadowlark.Core
open Systems

section Responses

def LOCATION_HEADER_NAME : String := "Location"

def TOTAL_COUNT_HEADER_NAME : String := "total-count"

/-- A later header of the same name replaces the earlier one. -/
def withHeader (headers : Headers) (name value : String) : Headers :=
  headers.filter (·.1 ≠ name) ++ [(name, value)]

def documentIdentityJson (documentIdentity : DocumentIdentity) : Json :=
  .array (documentIdentity.map fun element => .object [element])

def missingIdentitiesJson (message : String) (failures : List MissingIdentity) : Json :=
  .object [("message", .string message),
    ("failures", .array (failures.map fun failure =>
      .object [("resourceName", .string failure.resourceName),
        ("identity", documentIdentityJson failure.identity)]))]

/-- A text is reported as the error and an object is the whole body. -/
def failureBody (failureMessage : Option FailureMessage) (details : List (String × Json)) :
    Option Json :=
  failureMessage.map fun
    | .text message => .object (("error", .string message) :: details)
    | .failures message failures => missingIdentitiesJson message failures
    | .error message failures => errorBody (missingIdentitiesJson message failures)

def messageBody (message : String) (details : List (String × Json)) : Json :=
  errorBody (.object (("message", .string message) :: details))

end Responses

section Uris

def versionAbbreviationFor (_resourceVersion : String) : String := "3.3b"

def resourceUriFrom (pathComponents : PathComponents) (documentUuid : DocumentUuid) : String :=
  "/" ++ pathComponents.projectShortVersion ++ "/" ++ pathComponents.projectNamespace ++ "/" ++
    pathComponents.endpointName ++ "/" ++ documentUuid.value

def invariantViolation (message : String) : Exception := ⟨"Invariant Violation", message, none⟩

def endpointNameFor (apiSchema : ApiSchema) (projectNamespace : String)
    (document : ReferringDocumentInfo) : Except Exception String :=
  match apiSchema.projectSchemas.property projectNamespace with
  | none => .error (typeError
      "Cannot read properties of undefined (reading 'resourceNameMapping')")
  | some projectSchema =>
      match projectSchema.resourceNameMapping.property document.resourceName with
      | some endpointName => .ok endpointName
      | none => .error (invariantViolation ("Resource name '" ++ document.resourceName ++
          "' on document with documentUuid " ++ document.documentUuid.value ++
          " does not match any known EndpointName. " ++
          "Mismatch between database data and loaded ApiSchema?"))

def projectNamespaceFor (apiSchema : ApiSchema) (document : ReferringDocumentInfo) :
    Except Exception String :=
  match apiSchema.projectNameMapping.property document.projectName with
  | some projectNamespace => .ok projectNamespace
  | none => .error (invariantViolation ("Project name '" ++ document.projectName ++
      "' on document resource " ++ document.resourceName ++ " with documentUuid " ++
      document.documentUuid.value ++ " does not match any known ProjectNamespace. " ++
      "Mismatch between database data and loaded ApiSchema?"))

def blockingDocumentUri (frontendRequest : FrontendRequest) (document : ReferringDocumentInfo) :
    Except Exception String := do
  let apiSchema := frontendRequest.middleware.apiSchema
  let projectNamespace ← projectNamespaceFor apiSchema document
  let endpointName ← endpointNameFor apiSchema projectNamespace document
  let uri := resourceUriFrom
    { projectShortVersion := versionAbbreviationFor document.resourceVersion
      projectNamespace := projectNamespace
      endpointName := endpointName
      documentUuid := none } document.documentUuid
  pure (if frontendRequest.stage ≠ "" then "/" ++ frontendRequest.stage ++ uri else uri)

def blockingDocumentsToUris (frontendRequest : FrontendRequest)
    (referringDocumentInfo : List ReferringDocumentInfo) : Except Exception (List String) :=
  referringDocumentInfo.mapM (blockingDocumentUri frontendRequest)

def urisJson (blockingUris : List String) : Json := .array (blockingUris.map .string)

end Uris

section Handlers
variable [NodeRuntime]

section Upsert

def upsertRequestFrom (frontendRequest : FrontendRequest) : UpsertRequest :=
  let middleware := frontendRequest.middleware
  { meadowlarkId := meadowlarkIdForDocumentIdentity middleware.resourceInfo.toBaseResourceInfo
      middleware.documentInfo.documentIdentity
    resourceInfo := middleware.resourceInfo
    documentInfo := middleware.documentInfo
    edfiDoc := middleware.parsedBody
    validateDocumentReferencesExist := middleware.validateResources
    security := middleware.security
    traceId := frontendRequest.traceId }

omit [NodeRuntime] in
/-- A conflict reports the documents that block the request. -/
def blockedResponse (frontendRequest : FrontendRequest) (failureMessage : Option FailureMessage)
    (referringDocumentInfo : List ReferringDocumentInfo) : Except Exception FrontendResponse := do
  let blockingUris ← blockingDocumentsToUris frontendRequest referringDocumentInfo
  pure ⟨409, some frontendRequest.middleware.headerMetadata,
    failureBody failureMessage [("blockingUris", urisJson blockingUris)]⟩

omit [NodeRuntime] in
def upsertResponse (frontendRequest : FrontendRequest) : UpsertResult →
    Except Exception FrontendResponse
  | .insertSuccess newDocumentUuid =>
      let middleware := frontendRequest.middleware
      pure ⟨201, some (withHeader middleware.headerMetadata LOCATION_HEADER_NAME
        (resourceUriFrom middleware.pathComponents newDocumentUuid)), none⟩
  | .updateSuccess existingDocumentUuid =>
      let middleware := frontendRequest.middleware
      pure ⟨200, some (withHeader middleware.headerMetadata LOCATION_HEADER_NAME
        (resourceUriFrom middleware.pathComponents existingDocumentUuid)), none⟩
  | .updateFailureReference failureMessage referringDocumentInfo =>
      blockedResponse frontendRequest failureMessage referringDocumentInfo
  | .insertFailureReference failureMessage referringDocumentInfo =>
      blockedResponse frontendRequest failureMessage referringDocumentInfo
  | .insertFailureConflict failureMessage referringDocumentInfo =>
      blockedResponse frontendRequest failureMessage referringDocumentInfo
  | .upsertFailureWriteConflict failureMessage =>
      pure ⟨409, some frontendRequest.middleware.headerMetadata, failureBody failureMessage []⟩
  | .unknownFailure _ => pure ⟨500, some frontendRequest.middleware.headerMetadata, none⟩

/-- The handler of an upsert; the uuid in the path plays no part. -/
def Upsert.upsert (documentStore : DocumentStorePlugin) (frontendRequest : FrontendRequest) :
    Frontend FrontendResponse :=
  tryCatch
    (do
      let request := upsertRequestFrom frontendRequest
      perform (.publish (.beforeUpsertDocument request))
      let result ← documentStore.upsertDocument request
      perform (.publish (.afterUpsertDocument request result))
      upsertResponse frontendRequest result)
    fun _ => pure (.ofStatus 500)

end Upsert

section Update

def updateRequestFrom (frontendRequest : FrontendRequest) (documentUuid : DocumentUuid) :
    UpdateRequest :=
  { upsertRequestFrom frontendRequest with documentUuid := documentUuid }

omit [NodeRuntime] in
def updateResponse (frontendRequest : FrontendRequest) : UpdateResult →
    Except Exception FrontendResponse
  | .updateSuccess => pure ⟨204, some frontendRequest.middleware.headerMetadata, none⟩
  | .updateFailureNotExists => pure ⟨404, some frontendRequest.middleware.headerMetadata, none⟩
  | .updateFailureReference failureMessage referringDocumentInfo =>
      blockedResponse frontendRequest failureMessage referringDocumentInfo
  | .updateCascadeRequired => pure ⟨409, some frontendRequest.middleware.headerMetadata,
      some (messageBody ("This operation would change the identity of the document and require a " ++
        "cascading update of referencing documents. Not supported at this time.") [])⟩
  | .updateFailureImmutableIdentity => pure ⟨400, some frontendRequest.middleware.headerMetadata,
      some (messageBody "The identity fields of the document cannot be modified" [])⟩
  | .updateFailureConflict failureMessage referringDocumentInfo => do
      let blockingUris ← blockingDocumentsToUris frontendRequest referringDocumentInfo
      let message := match failureMessage with
        | some (.text message) => Json.string message
        | some (.failures message failures) => missingIdentitiesJson message failures
        | some (.error message failures) => errorBody (missingIdentitiesJson message failures)
        | none => .string ""
      pure ⟨409, some frontendRequest.middleware.headerMetadata,
        some (errorBody (.object [("message", message), ("blockingUris", urisJson blockingUris)]))⟩
  | .updateFailureWriteConflict failureMessage =>
      pure ⟨409, some frontendRequest.middleware.headerMetadata, failureBody failureMessage []⟩
  | .unknownFailure _ => pure ⟨500, some frontendRequest.middleware.headerMetadata, none⟩

omit [NodeRuntime] in
/-- The id field of the body; no value but null and undefined refuses a property access. -/
def documentUuidFromBody : Json → Except Exception (Option Json)
  | .null => .error (typeError "Cannot read properties of null (reading 'id')")
  | parsedBody => .ok (parsedBody.field? "id")

def updateWith (documentStore : DocumentStorePlugin) (frontendRequest : FrontendRequest)
    (request : UpdateRequest) : Frontend FrontendResponse := do
  perform (.publish (.beforeUpdateDocumentById request))
  let result ← documentStore.updateDocumentById request
  perform (.publish (.afterUpdateDocumentById request result))
  updateResponse frontendRequest result

/-- The handler of an update; the body must repeat the uuid of the path. -/
def Update.update (documentStore : DocumentStorePlugin) (frontendRequest : FrontendRequest) :
    Frontend FrontendResponse :=
  let middleware := frontendRequest.middleware
  tryCatch
    (match middleware.pathComponents.documentUuid with
      | none => pure ⟨400, some middleware.headerMetadata, none⟩
      | some documentUuid => do
          let fromBody ← documentUuidFromBody middleware.parsedBody
          if fromBody = some (.string documentUuid.value) then
            updateWith documentStore frontendRequest (updateRequestFrom frontendRequest documentUuid)
          else
            pure ⟨400, some middleware.headerMetadata, some (messageBody
              ("The identity of the resource does not match the identity in the updated " ++
                "document.") [])⟩)
    fun _ => pure (.ofStatus 500)

end Update

section Delete
omit [NodeRuntime]

def DELETE_FAILURE_REFERENCE_MESSAGE : String :=
  "The resource cannot be deleted because it is a dependency of other documents"

def deleteRequestFrom (frontendRequest : FrontendRequest) (documentUuid : DocumentUuid) :
    DeleteRequest where
  documentUuid := documentUuid
  resourceInfo := frontendRequest.middleware.resourceInfo
  validateNoReferencesToDocument := frontendRequest.middleware.validateResources
  security := frontendRequest.middleware.security
  traceId := frontendRequest.traceId

def deleteResponse (frontendRequest : FrontendRequest) : DeleteResult →
    Except Exception FrontendResponse
  | .deleteSuccess => pure ⟨204, some frontendRequest.middleware.headerMetadata, none⟩
  | .deleteFailureNotExists => pure ⟨404, some frontendRequest.middleware.headerMetadata, none⟩
  | .deleteFailureReference referringDocumentInfo => do
      let blockingUris ← blockingDocumentsToUris frontendRequest referringDocumentInfo
      pure ⟨409, some frontendRequest.middleware.headerMetadata, some (messageBody
        DELETE_FAILURE_REFERENCE_MESSAGE [("blockingUris", urisJson blockingUris)])⟩
  | .deleteFailureWriteConflict failureMessage =>
      pure ⟨404, some frontendRequest.middleware.headerMetadata,
        some (errorBody (.string failureMessage))⟩
  | .unknownFailure _ => pure ⟨500, some frontendRequest.middleware.headerMetadata, none⟩

def Delete.deleteIt (documentStore : DocumentStorePlugin) (frontendRequest : FrontendRequest) :
    Frontend FrontendResponse :=
  tryCatch
    (match frontendRequest.middleware.pathComponents.documentUuid with
      | none => pure (.ofStatus 404)
      | some documentUuid => do
          let request := deleteRequestFrom frontendRequest documentUuid
          perform (.publish (.beforeDeleteDocumentById request))
          let result ← documentStore.deleteDocumentById request
          perform (.publish (.afterDeleteDocumentById request result))
          deleteResponse frontendRequest result)
    fun _ => pure (.ofStatus 500)

end Delete

section Read

def getRequestFrom (frontendRequest : FrontendRequest) (documentUuid : DocumentUuid) :
    GetRequest where
  documentUuid := documentUuid
  resourceInfo := frontendRequest.middleware.resourceInfo
  security := frontendRequest.middleware.security
  traceId := frontendRequest.traceId

def getResponse (frontendRequest : FrontendRequest) : GetResult →
    Except Exception FrontendResponse
  | .unknownFailure => pure ⟨500, some frontendRequest.middleware.headerMetadata, none⟩
  | .getFailureNotExists => pure ⟨404, some frontendRequest.middleware.headerMetadata, none⟩
  | .getSuccess documentUuid edfiDoc lastModifiedDate =>
      match NodeRuntime.dateToISOString lastModifiedDate with
      | none => .error ⟨"RangeError", "Invalid time value", none⟩
      | some text => pure ⟨200, some frontendRequest.middleware.headerMetadata,
          some (Json.spread [[("id", .string documentUuid.value)], edfiDoc.entries,
            [("_lastModifiedDate", .string text)]])⟩

def GetById.getById (documentStore : DocumentStorePlugin) (frontendRequest : FrontendRequest) :
    Frontend FrontendResponse :=
  match frontendRequest.middleware.pathComponents.documentUuid with
  | none => pure (.ofStatus 404)
  | some documentUuid => do
      let request := getRequestFrom frontendRequest documentUuid
      perform (.publish (.beforeGetDocumentById request))
      let result ← documentStore.getDocumentById request
      perform (.publish (.afterGetDocumentById request result))
      getResponse frontendRequest result

omit [NodeRuntime] in
def queryRequestFrom (frontendRequest : FrontendRequest) : QueryRequest where
  resourceInfo := frontendRequest.middleware.resourceInfo
  queryParameters := removeDisallowedQueryParameters frontendRequest.queryParameters
  paginationParameters := onlyPaginationParameters frontendRequest.queryParameters
  traceId := frontendRequest.traceId
  security := frontendRequest.middleware.security

omit [NodeRuntime] in
def queryResponse (frontendRequest : FrontendRequest) (result : QueryResult) : FrontendResponse :=
  let headerMetadata := frontendRequest.middleware.headerMetadata
  let totalCount := match result.totalCount with
    | some count => toString count
    | none => "0"
  match result.response with
  | .unknownFailure => ⟨500, some headerMetadata, none⟩
  | .queryFailureInvalidQuery =>
      ⟨500, some (withHeader headerMetadata TOTAL_COUNT_HEADER_NAME totalCount), none⟩
  | .queryFailureConnectionError =>
      ⟨502, some (withHeader headerMetadata TOTAL_COUNT_HEADER_NAME totalCount), none⟩
  | .queryFailureIndexNotFound =>
      ⟨200, some (withHeader headerMetadata TOTAL_COUNT_HEADER_NAME "0"),
        some (.array result.documents)⟩
  | .queryFailureAuthorization =>
      ⟨200, some (withHeader headerMetadata TOTAL_COUNT_HEADER_NAME totalCount),
        some (.array result.documents)⟩
  | .querySuccess =>
      ⟨200, some (withHeader headerMetadata TOTAL_COUNT_HEADER_NAME totalCount),
        some (.array result.documents)⟩

omit [NodeRuntime] in
def Query.query (queryHandler : QueryHandlerPlugin) (frontendRequest : FrontendRequest) :
    Frontend FrontendResponse := do
  let request := queryRequestFrom frontendRequest
  perform (.publish (.beforeQueryDocuments request))
  let result ← queryHandler.queryDocuments request
  perform (.publish (.afterQueryDocuments request result))
  pure (queryResponse frontendRequest result)

end Read

section Facade
variable [DocumentProcessing]

/-- The middlewares of a write that make no call, from the path to the document info. -/
def validateWrite (model : MiddlewareModel) : Except Exception MiddlewareModel := do
  let model ← endpointValidation (parseBody (parsePath model))
  let model ← documentValidation model
  let model ← equalityConstraintValidation model
  documentInfoExtraction model

/-- The two stacks with a body consist of the same middlewares. -/
def bodyStack (documentStore : DocumentStorePlugin) (model : MiddlewareModel) :
    Frontend MiddlewareModel := do
  let model ← timestampRequest model
  let model ← loadApiSchema model
  let model ← authorize model
  let model ← validateWrite model
  documentStore.securityMiddleware model

def postStack : DocumentStorePlugin → MiddlewareModel → Frontend MiddlewareModel := bodyStack

def putStack : DocumentStorePlugin → MiddlewareModel → Frontend MiddlewareModel := bodyStack

def deleteStack (documentStore : DocumentStorePlugin) (model : MiddlewareModel) :
    Frontend MiddlewareModel := do
  let model ← loadApiSchema model
  let model ← authorize model
  let model ← endpointValidation (parsePath model)
  documentStore.securityMiddleware model

def getByIdStack (documentStore : DocumentStorePlugin) (model : MiddlewareModel) :
    Frontend MiddlewareModel := do
  let model ← loadApiSchema model
  let model ← authorize model
  let model ← endpointValidation model
  documentStore.securityMiddleware model

def queryStack (model : MiddlewareModel) : Frontend MiddlewareModel := do
  let model ← loadApiSchema model
  let model ← authorize model
  let model ← endpointValidation model
  queryValidation model

omit [NodeRuntime] [DocumentProcessing] in
/-- An entry point runs its handler when the stack has posted no response.
Whatever is thrown becomes an internal error. -/
def entryPoint (action : Action) (stack : MiddlewareModel → Frontend MiddlewareModel)
    (handler : FrontendRequest → Frontend FrontendResponse) (frontendRequest : FrontendRequest) :
    Frontend FrontendResponse :=
  tryCatch
    (do
      let model ← stack ⟨{ frontendRequest with action := action }, none⟩
      match model.frontendResponse with
      | some frontendResponse => pure frontendResponse
      | none => handler model.frontendRequest)
    fun _ => pure (.ofStatus 500)

def query (queryHandler : QueryHandlerPlugin) : FrontendRequest → Frontend FrontendResponse :=
  entryPoint .query queryStack (Query.query queryHandler)

def getById (documentStore : DocumentStorePlugin) : FrontendRequest → Frontend FrontendResponse :=
  entryPoint .getById (getByIdStack documentStore) (GetById.getById documentStore)

def update (documentStore : DocumentStorePlugin) : FrontendRequest → Frontend FrontendResponse :=
  entryPoint .updateById (putStack documentStore) (Update.update documentStore)

def upsert (documentStore : DocumentStorePlugin) : FrontendRequest → Frontend FrontendResponse :=
  entryPoint .upsert (postStack documentStore) (Upsert.upsert documentStore)

def deleteIt (documentStore : DocumentStorePlugin) : FrontendRequest → Frontend FrontendResponse :=
  entryPoint .deleteById (deleteStack documentStore) (Delete.deleteIt documentStore)

/-- A path without a uuid is a query; the response of the path middleware is not looked at. -/
def get (documentStore : DocumentStorePlugin) (queryHandler : QueryHandlerPlugin)
    (frontendRequest : FrontendRequest) : Frontend FrontendResponse :=
  let afterParsePath := parsePath ⟨frontendRequest, none⟩
  match afterParsePath.frontendRequest.middleware.pathComponents.documentUuid with
  | none => query queryHandler afterParsePath.frontendRequest
  | some _ => getById documentStore afterParsePath.frontendRequest

end Facade
end Handlers
end Meadowlark.Core
