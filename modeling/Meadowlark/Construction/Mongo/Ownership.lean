import Meadowlark.Construction.Core.DocumentStore
import Meadowlark.Construction.Mongo.Backend

namespace Meadowlark.Mongo
open Meadowlark.Core Systems
variable [NodeRuntime]

def extractMeadowlarkIdIfUpsert (frontendRequest : FrontendRequest) : Option MeadowlarkId :=
  if frontendRequest.action = .upsert then
    some (meadowlarkIdForDocumentIdentity frontendRequest.middleware.resourceInfo.toBaseResourceInfo
      frontendRequest.middleware.documentInfo.documentIdentity)
  else none

omit [NodeRuntime] in
/-- A document may be used by the client that created it. -/
def accessFor (frontendRequest : FrontendRequest) : Option MeadowlarkDocument → SecurityResult
  | none => .notApplicable
  | some result =>
      if result.createdBy = frontendRequest.middleware.security.clientId then .accessApproved
      else .accessDenied

/-- The check looks for the uuid of the path.
An upsert without one is checked by the id of its body. -/
def rejectByOwnershipSecurity (frontendRequest : FrontendRequest) : Session SecurityResult :=
  if frontendRequest.middleware.resourceInfo.isDescriptor ∧
      (frontendRequest.action = .getById ∨ frontendRequest.action = .query) then
    pure .notApplicable
  else
    match frontendRequest.middleware.pathComponents.documentUuid with
    | some documentUuid => do
        let result ← findOne (.documentUuid documentUuid) .whole false
        pure (accessFor frontendRequest result)
    | none =>
        match extractMeadowlarkIdIfUpsert frontendRequest with
        | none => pure .notApplicable
        | some meadowlarkId => do
            let result ← findOne (.id meadowlarkId) .whole false
            pure (accessFor frontendRequest result)

/-- A call that rejects reaches the frontend as an exception. -/
def serveCall {Result : Type} (outcome : Except DriverError Result × Store) :
    Except Exception Result × Store :=
  (outcome.1.mapError fun error => ⟨"MongoTransactionError", error.message, none⟩, outcome.2)

/-- The repository functions as they serve one request after another. -/
def documentStore (generated : GeneratedUuids) : DocumentStore Store where
  rejectByOwnershipSecurity frontendRequest store :=
    match (rejectByOwnershipSecurity frontendRequest).interpret (mongoDriver.handler store) store with
    | .ok (result, _) => (.ok result, store)
    | .error _ => (.ok .unknownFailure, store)
  upsertDocument request store := serveCall (upsertDocument generated request store)
  updateDocumentById request store :=
    serveCall (updateDocumentByDocumentUuid generated request store)
  deleteDocumentById request store :=
    serveCall (deleteDocumentByDocumentUuid generated request store)
  getDocumentById request store := (.ok (getDocumentByDocumentUuid request store), store)

end Meadowlark.Mongo
