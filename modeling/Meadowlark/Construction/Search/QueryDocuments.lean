import Meadowlark.Construction.Core.Handler
import Meadowlark.Construction.Core.JsonText

namespace Meadowlark.Search
open Meadowlark.Core
variable [NodeRuntime]

/-- Indexes have lower case names without periods. -/
def indexFromResourceInfo (resourceInfo : ResourceInfo) : String :=
  (NodeRuntime.toLowerCase (resourceInfo.projectName ++ "$" ++ resourceInfo.resourceVersion ++ "$" ++
    resourceInfo.resourceName)).map fun char => if char = '.' then '-' else char

/-- The search for a query: a clause for each parameter, and for an ownership strategy one for the
client unless descriptors are queried. -/
def searchRequestFrom (request : QueryRequest) : SearchRequest where
  index := indexFromResourceInfo request.resourceInfo
  must := request.queryParameters.map (fun parameter => .matchPhrase parameter.1 parameter.2) ++
    if request.security.authorizationStrategy = .ownershipBased ∧
        request.resourceInfo.isDescriptor = false then
      [.matchCreatedBy request.security.clientId]
    else []
  size := request.paginationParameters.limit
  from_ := request.paginationParameters.offset

/-- The document of a hit is parsed from the text in its source. -/
def documentFrom (source : Json) : Except Exception Json :=
  if source = .null then
    .error (typeError "Cannot read properties of null (reading 'info')")
  else
    let info := ((source.field? "info").map Json.toTemplateText).getD "undefined"
    match Json.parse info with
    | some document => .ok document
    | none => .error ⟨"SyntaxError", NodeRuntime.syntaxErrorMessage info, none⟩

/-- Both search engines are queried alike; an error of the search is handled by its engine. -/
def queryDocumentsWith (handleError : Exception → QueryResult) (request : QueryRequest) :
    Frontend QueryResult :=
  tryCatch
    (do
      let answer ← perform (.search (searchRequestFrom request))
      let documents ← (if answer.total > 0 then answer.sources.mapM documentFrom else .ok [] :
        Except Exception (List Json))
      pure ⟨.querySuccess, documents, none, some answer.total⟩)
    fun error => pure (handleError error)

section Errors

def failedQuery (response : QueryResponse) (failureMessage : Option Json) : QueryResult :=
  ⟨response, [], failureMessage, none⟩

def unknownFailure (error : Exception) : QueryResult :=
  failedQuery .unknownFailure (some (.string error.message))

/-- The errors that mean there is no connection. -/
def isConnectionError (error : Exception) : Bool :=
  error.name ∈ ["ConfigurationError", "ConnectionError", "RequestAbortedError", "TimeoutError"]

def containsText (text expected : String) : Bool :=
  text.toList.tails.any expected.toList.isPrefixOf

/-- An answer with an error message that is not the general one. -/
def responseErrorResult (error : Exception) : QueryResult :=
  if containsText error.message "index_not_found_exception" then
    failedQuery .queryFailureIndexNotFound (some (.string "IndexNotFoundException"))
  else failedQuery .queryFailureInvalidQuery (some (.string error.message))

/-- An answer whose error is in its body; a body that cannot be parsed throws. -/
def responseBodyResult (error : Exception) (body : Json) : QueryResult :=
  match Json.parse body.toTemplateText with
  | none => unknownFailure error
  | some responseBody =>
      let detail := responseBody.field? "error"
      match detail.bind (·.field? "type") with
      | none => failedQuery .unknownFailure (some body)
      | some (.string "IndexNotFoundException") =>
          failedQuery .queryFailureIndexNotFound (some (.string "IndexNotFoundException"))
      | some (.string "SemanticAnalysisException") =>
          failedQuery .queryFailureInvalidQuery (detail.bind (·.field? "details"))
      | some _ => failedQuery .unknownFailure (some responseBody)

def handleOpenSearchError (error : Exception) : QueryResult :=
  if isConnectionError error then
    failedQuery .queryFailureConnectionError (some (.string error.message))
  else if error.name = "ResponseError" then
    if error.message ≠ "Response Error" then responseErrorResult error
    else match error.body with
      | some body => responseBodyResult error body
      | none => unknownFailure error
  else unknownFailure error

/-- This engine does not look at the body of an answer. -/
def handleElasticSearchError (error : Exception) : QueryResult :=
  if isConnectionError error then
    failedQuery .queryFailureConnectionError (some (.string error.message))
  else if error.name = "ResponseError" ∧ error.message ≠ "Response Error" then
    responseErrorResult error
  else unknownFailure error

end Errors

/-- The two search engines that can be configured. -/
inductive Engine where
  | opensearch
  | elasticsearch
  deriving DecidableEq

def Engine.handleError : Engine → Exception → QueryResult
  | .opensearch => handleOpenSearchError
  | .elasticsearch => handleElasticSearchError

def Engine.queryHandler (engine : Engine) : QueryHandlerPlugin :=
  ⟨queryDocumentsWith engine.handleError⟩

end Meadowlark.Search
