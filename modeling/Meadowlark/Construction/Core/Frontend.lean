import Meadowlark.Construction.Core.JsonText
import Meadowlark.Systems.Program

namespace Meadowlark.Core
open Systems

section Schema

/-- The part of a resource schema that only validation and extraction read stays JSON. -/
structure ResourceSchema where
  resourceName : String
  isDescriptor : Bool
  allowIdentityUpdates : Bool
  details : Json
  deriving DecidableEq

def NoResourceSchema : ResourceSchema where
  resourceName := "NoResourceSchema"
  isDescriptor := false
  allowIdentityUpdates := false
  details := .object []

/-- An object used as a map.
Its keys are its own, while a property access also finds what the object inherits. -/
structure PropertyMap (Value : Type) where
  keys : List String
  property : String → Option Value

structure ProjectSchema where
  projectName : String
  projectVersion : String
  resourceSchemas : PropertyMap ResourceSchema
  resourceNameMapping : PropertyMap String

structure ApiSchema where
  projectSchemas : PropertyMap ProjectSchema
  projectNameMapping : PropertyMap String

def NoApiSchema : ApiSchema := ⟨⟨[], fun _ => none⟩, ⟨[], fun _ => none⟩⟩

end Schema

section Request

inductive Action where
  | unknown
  | getById
  | query
  | upsert
  | updateById
  | deleteById
  deriving DecidableEq

/-- The important parts of the request URL in object form. -/
structure PathComponents where
  projectShortVersion : String
  projectNamespace : String
  endpointName : String
  documentUuid : Option DocumentUuid
  deriving DecidableEq

def NoPathComponents : PathComponents := ⟨"", "", "", none⟩

abbrev Headers := List (String × String)

abbrev FrontendQueryParameters := List (String × Json)

/-- The location of data provided by middlewares.
The code compares security objects by reference, so no provided security stands for the
object `UndefinedSecurity` itself. -/
structure FrontendRequestMiddleware where
  providedSecurity : Option Security
  pathComponents : PathComponents
  parsedBody : Json
  resourceInfo : ResourceInfo
  apiSchema : ApiSchema
  resourceSchema : ResourceSchema
  documentInfo : DocumentInfo
  headerMetadata : Headers
  validateResources : Bool
  timestamp : Int

def FrontendRequestMiddleware.security (middleware : FrontendRequestMiddleware) : Security :=
  middleware.providedSecurity.getD UndefinedSecurity

structure FrontendRequest where
  action : Action
  path : String
  traceId : TraceId
  body : Option String
  headers : Headers
  queryParameters : FrontendQueryParameters
  stage : String
  middleware : FrontendRequestMiddleware

def newFrontendRequestMiddleware : FrontendRequestMiddleware where
  providedSecurity := none
  pathComponents := NoPathComponents
  parsedBody := .object []
  resourceInfo := NoResourceInfo
  apiSchema := NoApiSchema
  resourceSchema := NoResourceSchema
  documentInfo := NoDocumentInfo
  headerMetadata := []
  validateResources := true
  timestamp := 0

def newFrontendRequest : FrontendRequest where
  action := .unknown
  path := ""
  traceId := ⟨""⟩
  body := none
  headers := []
  queryParameters := []
  stage := ""
  middleware := newFrontendRequestMiddleware

structure FrontendResponse where
  statusCode : Nat
  headers : Option Headers
  body : Option Json
  deriving DecidableEq

def FrontendResponse.ofStatus (statusCode : Nat) : FrontendResponse := ⟨statusCode, none, none⟩

/-- Processing ends once there is a response. -/
structure MiddlewareModel where
  frontendRequest : FrontendRequest
  frontendResponse : Option FrontendResponse

end Request

section Search

/-- The special query parameters used to drive pagination. -/
structure PaginationParameters where
  limit : Option Json
  offset : Option Json
  deriving DecidableEq

structure QueryRequest where
  resourceInfo : ResourceInfo
  queryParameters : FrontendQueryParameters
  paginationParameters : PaginationParameters
  traceId : TraceId
  security : Security
  deriving DecidableEq

inductive QueryResponse where
  | querySuccess
  | queryFailureInvalidQuery
  | queryFailureAuthorization
  | unknownFailure
  | queryFailureIndexNotFound
  | queryFailureConnectionError
  deriving DecidableEq

structure QueryResult where
  response : QueryResponse
  documents : List Json
  failureMessage : Option Json
  totalCount : Option Nat
  deriving DecidableEq

/-- One clause of a boolean search query. -/
inductive SearchClause where
  | matchPhrase (field : String) (value : Json)
  | matchCreatedBy (clientId : String)
  deriving DecidableEq

/-- The body of a search; a property that is not defined is not sent. -/
structure SearchRequest where
  index : String
  must : List SearchClause
  size : Option Json
  from_ : Option Json
  deriving DecidableEq

/-- The number of all hits and the source of each hit on the page. -/
structure SearchAnswer where
  total : Nat
  sources : List Json
  deriving DecidableEq

end Search

section Calls

/-- An error that JavaScript code throws; the error of a search client can carry a body. -/
structure Exception where
  name : String
  message : String
  body : Option Json
  deriving DecidableEq

def typeError (message : String) : Exception := ⟨"TypeError", message, none⟩

/-- The information from a client token, after being parsed by the OAuth server. -/
structure ClientTokenInfo where
  security : Security
  validateResources : Bool
  deriving DecidableEq

/-- A response of the OAuth server; its body can be anything. -/
structure OAuthResponse where
  status : Nat
  data : Option Json
  deriving DecidableEq

/-- The events that are published to listeners. -/
inductive ListenerEvent where
  | beforeUpsertDocument (request : UpsertRequest)
  | afterUpsertDocument (request : UpsertRequest) (result : UpsertResult)
  | beforeUpdateDocumentById (request : UpdateRequest)
  | afterUpdateDocumentById (request : UpdateRequest) (result : UpdateResult)
  | beforeDeleteDocumentById (request : DeleteRequest)
  | afterDeleteDocumentById (request : DeleteRequest) (result : DeleteResult)
  | beforeGetDocumentById (request : GetRequest)
  | afterGetDocumentById (request : GetRequest) (result : GetResult)
  | beforeQueryDocuments (request : QueryRequest)
  | afterQueryDocuments (request : QueryRequest) (result : QueryResult)
  deriving DecidableEq

/-- The answer of an ownership check. -/
inductive SecurityResult where
  | unknownFailure
  | accessApproved
  | accessDenied
  | notApplicable
  deriving DecidableEq

/-- The calls that leave the frontend: to its caches, to the OAuth server, to listeners,
to the document store and to the search engine. -/
inductive Call where
  | dateNow
  | findApiSchema (traceId : TraceId)
  | getCachedClientTokenInfo (clientBearerToken : String)
  | setCachedClientTokenInfo (clientBearerToken : String) (clientTokenInfo : ClientTokenInfo)
  | getCachedOwnAccessToken
  | setCachedOwnAccessToken (ownAccessToken : Option Json)
  | fetchOwnAccessToken
  | fetchClientTokenVerification (clientBearerToken : String) (ownAccessToken : Option Json)
  | publish (event : ListenerEvent)
  | rejectByOwnershipSecurity (frontendRequest : FrontendRequest)
  | upsertDocument (request : UpsertRequest)
  | updateDocumentById (request : UpdateRequest)
  | deleteDocumentById (request : DeleteRequest)
  | getDocumentById (request : GetRequest)
  | search (request : SearchRequest)

abbrev Call.Result : Call → Type
  | .dateNow => Int
  | .findApiSchema _ => ApiSchema
  | .getCachedClientTokenInfo _ => Option ClientTokenInfo
  | .setCachedClientTokenInfo _ _ => Unit
  | .getCachedOwnAccessToken => Option Json
  | .setCachedOwnAccessToken _ => Unit
  | .fetchOwnAccessToken => OAuthResponse
  | .fetchClientTokenVerification _ _ => OAuthResponse
  | .publish _ => Unit
  | .rejectByOwnershipSecurity _ => SecurityResult
  | .upsertDocument _ => UpsertResult
  | .updateDocumentById _ => UpdateResult
  | .deleteDocumentById _ => DeleteResult
  | .getDocumentById _ => GetResult
  | .search _ => SearchAnswer

/-- Every call can throw. -/
abbrev Call.Answer (call : Call) : Type := Except Exception call.Result

/-- A frontend function is a program over these calls that can throw an error. -/
abbrev Frontend := ExceptT Exception (Program Call Call.Answer)

def perform (call : Call) : Frontend call.Result := ExceptT.mk (Program.request call)

/-- A function that makes no call runs inside a frontend function. -/
instance : MonadLift (Except Exception) Frontend where
  monadLift outcome := ExceptT.mk (.pure outcome)

/-- The functions of a document store that the frontend uses. -/
structure DocumentStorePlugin where
  upsertDocument : UpsertRequest → Frontend UpsertResult
  getDocumentById : GetRequest → Frontend GetResult
  updateDocumentById : UpdateRequest → Frontend UpdateResult
  deleteDocumentById : DeleteRequest → Frontend DeleteResult
  securityMiddleware : MiddlewareModel → Frontend MiddlewareModel

structure QueryHandlerPlugin where
  queryDocuments : QueryRequest → Frontend QueryResult

end Calls
end Meadowlark.Core
