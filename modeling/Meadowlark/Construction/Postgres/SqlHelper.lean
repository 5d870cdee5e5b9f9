import Meadowlark.Construction.Postgres.Tables

namespace Meadowlark.Postgres
open Meadowlark.Core Systems Authorization

def beginTransaction : Session Unit := query .begin

def rollbackTransaction : Session Unit := query .rollback

def commitTransaction : Session Unit := query .commit

def findReferencingMeadowlarkIds (referencedMeadowlarkIds : List MeadowlarkId) :
    Session (List MeadowlarkId) := query (.findReferencingMeadowlarkIds referencedMeadowlarkIds)

def findAliasMeadowlarkIdsForDocumentByDocumentUuid (documentUuid : DocumentUuid) :
    Session (List AliasRow) :=
  query (.findAliasMeadowlarkIdsForDocumentByDocumentUuid documentUuid)

def findAliasMeadowlarkId (meadowlarkId : MeadowlarkId) : Session (List MeadowlarkId) :=
  query (.findAliasMeadowlarkId meadowlarkId)

def findDocumentByMeadowlarkId (meadowlarkId : MeadowlarkId) :
    Session (Option MeadowlarkDocument) := do
  let rows ← query (.findDocumentByMeadowlarkId meadowlarkId)
  pure rows.head?

def findDocumentByDocumentUuid (documentUuid : DocumentUuid) :
    Session (Option MeadowlarkDocument) := do
  let rows ← query (.findDocumentByDocumentUuid documentUuid)
  pure rows.head?

/-- The ownership statements select one column of the same rows. -/
def findOwnershipForDocumentByDocumentUuid (documentUuid : DocumentUuid) :
    Session (Option String) := do
  let rows ← query (.findDocumentByDocumentUuid documentUuid)
  pure (rows.head?.map (·.createdBy))

def findOwnershipForDocumentByMeadowlarkId (meadowlarkId : MeadowlarkId) :
    Session (Option String) := do
  let rows ← query (.findDocumentByMeadowlarkId meadowlarkId)
  pure (rows.head?.map (·.createdBy))

def validateReferenceExistence (meadowlarkIds : List MeadowlarkId) : Session (List MeadowlarkId) :=
  query (.validateReferenceExistence meadowlarkIds)

def referringDocumentInfoFrom (document : MeadowlarkDocument) : ReferringDocumentInfo where
  resourceName := document.resourceName
  meadowlarkId := document.meadowlarkId
  documentUuid := document.documentUuid
  projectName := document.projectName
  resourceVersion := document.resourceVersion

def findReferringDocumentInfoForErrorReporting (referringMeadowlarkIds : List MeadowlarkId) :
    Session (List ReferringDocumentInfo) := do
  let rows ← query (.findReferringDocumentInfo referringMeadowlarkIds)
  pure (rows.map referringDocumentInfoFrom)

def insertAlias (documentUuid : DocumentUuid) (meadowlarkId aliasId : MeadowlarkId) :
    Session Bool := do
  let rowCount ← query (.insertAlias documentUuid meadowlarkId aliasId)
  pure (decide (rowCount > 0))

def insertOutboundReferences (meadowlarkId referencedMeadowlarkId : MeadowlarkId) :
    Session Bool := do
  let rowCount ← query (.insertOutboundReferences meadowlarkId referencedMeadowlarkId)
  pure (decide (rowCount > 0))

def updateDocument (updateRequest : UpdateRequest) : Session Bool := do
  let rowCount ← query (.updateDocument updateRequest)
  pure (decide (rowCount > 0))

def insertDocument (updateRequest : UpdateRequest) : Session Bool := do
  let rowCount ← query (.insertDocument updateRequest)
  pure (decide (rowCount > 0))

/-- The statement always answers with one row, which holds the number of deleted rows. -/
def deleteDocumentRowByDocumentUuid (documentUuid : DocumentUuid) : Session DeleteResult := do
  let count ← query (.deleteDocumentRow documentUuid)
  pure (if count = 0 then .deleteFailureNotExists else .deleteSuccess)

def deleteOutboundReferencesOfDocumentByMeadowlarkId (meadowlarkId : MeadowlarkId) :
    Session Bool := do
  let rowCount ← query (.deleteOutboundReferences meadowlarkId)
  pure (decide (rowCount > 0))

def deleteAliasesForDocumentByMeadowlarkId (meadowlarkId : MeadowlarkId) : Session Bool := do
  let rowCount ← query (.deleteAliases meadowlarkId)
  pure (decide (rowCount > 0))

section Authorization

def insertOrUpdateAuthorization (authorizationClient : AuthorizationDocument) : Session Bool := do
  let rowCount ← query (.insertOrUpdateAuthorization authorizationClient)
  pure (decide (rowCount > 0))

def getAuthorizationClientDocumentList : Session (List AuthorizationDocument) :=
  query .getAuthorizationClientDocumentList

def getAuthorizationClientDocumentById (clientId : String) :
    Session (Option AuthorizationDocument) := do
  let rows ← query (.getAuthorizationClientDocumentById clientId)
  pure rows.head?

def resetAuthorizationClientSecretByClientId (clientId : Option String)
    (clientSecretHashed : String) : Session Bool := do
  let rowCount ← query (.resetAuthorizationClientSecret clientId clientSecretHashed)
  pure (decide (rowCount > 0))

def checkBootstrapAdminExists : Session Bool := do
  let total ← query .checkBootstrapAdminExists
  pure (decide (total > 0))

def insertBootstrapAdmin (authorizationClient : AuthorizationDocument) : Session Bool :=
  insertOrUpdateAuthorization { authorizationClient with isBootstrapAdmin := true }

def updateAuthorizationClientDocumentByClientId (clientId : Option String) (clientName : String)
    (roles : List AuthorizationClientRole) (active : Option Bool) : Session Bool := do
  let rowCount ← query
    (.updateAuthorizationClient clientId clientName roles (active.getD true))
  pure (decide (rowCount > 0))

end Authorization
end Meadowlark.Postgres
