import Meadowlark.Construction.Core.DocumentStore
import Meadowlark.Construction.Postgres.Backend

namespace Meadowlark.Postgres
open Meadowlark.Core Systems

section Check
variable [NodeRuntime]

def extractIdIfUpsert (frontendRequest : FrontendRequest) : Option MeadowlarkId :=
  if frontendRequest.action = .upsert then
    some (meadowlarkIdForDocumentIdentity frontendRequest.middleware.resourceInfo.toBaseResourceInfo
      frontendRequest.middleware.documentInfo.documentIdentity)
  else none

omit [NodeRuntime] in
/-- A document may be used by the client that created it. -/
def accessFor (frontendRequest : FrontendRequest) : Option String → SecurityResult
  | none => .notApplicable
  | some createdBy =>
      if createdBy = frontendRequest.middleware.security.clientId then .accessApproved
      else .accessDenied

def tryOwnership (frontendRequest : FrontendRequest) : Session SecurityResult :=
  match frontendRequest.middleware.pathComponents.documentUuid with
  | some documentUuid => do
      let createdBy ← findOwnershipForDocumentByDocumentUuid documentUuid
      pure (accessFor frontendRequest createdBy)
  | none =>
      let meadowlarkId := (extractIdIfUpsert frontendRequest).getD ⟨""⟩
      if meadowlarkId = ⟨""⟩ then pure .notApplicable
      else do
        let createdBy ← findOwnershipForDocumentByMeadowlarkId meadowlarkId
        pure (accessFor frontendRequest createdBy)

/-- The check looks for the uuid of the path.
An upsert without one is checked by the id of its body. -/
def rejectByOwnershipSecurity (frontendRequest : FrontendRequest) : Session SecurityResult :=
  if frontendRequest.middleware.resourceInfo.isDescriptor ∧
      (frontendRequest.action = .getById ∨ frontendRequest.action = .query) then
    pure .notApplicable
  else tryCatch (tryOwnership frontendRequest) fun _ => pure .unknownFailure

end Check

section Store
variable [NodeRuntime] [ColumnTypes]

/-- An error that a repository function does not catch reaches the frontend. -/
def serveSession {Result : Type} (session : Session Result) (connection : Connection) :
    Except Exception Result × Connection :=
  match connection.run session with
  | (.ok result, following) => (.ok result, following)
  | (.error error, following) => (.error ⟨"error", error.message, none⟩, following)

/-- The repository functions as they serve one request after another on one connection. -/
def documentStore (generated : DocumentUuid) : DocumentStore Connection where
  rejectByOwnershipSecurity frontendRequest :=
    serveSession (rejectByOwnershipSecurity frontendRequest)
  upsertDocument request := serveSession (upsertDocument generated request)
  updateDocumentById request := serveSession (updateDocumentByDocumentUuid request)
  deleteDocumentById request := serveSession (deleteDocumentByDocumentUuid request)
  getDocumentById request := serveSession (getDocumentByDocumentUuid request)

end Store
end Meadowlark.Postgres
