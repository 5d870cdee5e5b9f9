import Meadowlark.Construction.Postgres.SqlHelper

namespace Meadowlark.Postgres
open Meadowlark.Core Systems

section References
variable [NodeRuntime]

/-- No statement is sent for an empty list. -/
def findReferencedMeadowlarkIdsByMeadowlarkId (referenceMeadowlarkIds : List MeadowlarkId) :
    Session (List MeadowlarkId) :=
  if referenceMeadowlarkIds = [] then pure [] else validateReferenceExistence referenceMeadowlarkIds

def findMissingReferences (refsInDb documentOutboundRefs : List MeadowlarkId)
    (documentReferences : List DocumentReference) : List MissingIdentity :=
  let outRefIdsNotInDb := (documentOutboundRefs.filter fun id => id ∉ refsInDb).eraseDups
  let arrayIndexesOfMissing := outRefIdsNotInDb.map documentOutboundRefs.idxOf
  let pickedDocumentReferencesOfMissing := arrayIndexesOfMissing.filterMap (documentReferences[·]?)
  pickedDocumentReferencesOfMissing.map fun reference =>
    ⟨reference.resourceName, reference.documentIdentity⟩

/-- A list of references is checked by the number of alias rows that hold one of its ids. -/
def validateReferenceList (references : List DocumentReference) : Session (List MissingIdentity) := do
  let referenceMeadowlarkIds := references.map getMeadowlarkIdForDocumentReference
  let referencesInDb ← findReferencedMeadowlarkIdsByMeadowlarkId referenceMeadowlarkIds
  pure (if referenceMeadowlarkIds.length ≠ referencesInDb.length then
    findMissingReferences referencesInDb referenceMeadowlarkIds references
  else [])

def validateReferences (documentReferences descriptorReferences : List DocumentReference) :
    Session (List MissingIdentity) := do
  let failures ← validateReferenceList documentReferences
  let descriptorFailures ← validateReferenceList descriptorReferences
  pure (failures ++ descriptorFailures)

end References

section Delete

/-- The references of other documents refuse the delete. -/
def checkForReferences (meadowlarkId : MeadowlarkId) (documentAliasIds : List AliasRow) :
    Session (Option DeleteResult) := do
  let referenceResult ← findReferencingMeadowlarkIds (documentAliasIds.map (·.aliasMeadowlarkId))
  let references := referenceResult.filter (· ≠ meadowlarkId)
  if references = [] then pure none
  else do
    let referringDocumentInfo ← findReferringDocumentInfoForErrorReporting references
    rollbackTransaction
    pure (some (if referringDocumentInfo = [] then
      .unknownFailure ("postgresql.repository.Delete.deleteDocumentByDocumentUuid Error retrieving " ++
        "documents referenced by " ++ meadowlarkId.value ++ ", a null result set was returned")
    else .deleteFailureReference referringDocumentInfo))

/-- The id of the first alias row stands for the document. -/
def meadowlarkIdFrom (documentAliasIds : List AliasRow) : MeadowlarkId :=
  match documentAliasIds with
  | [] => ⟨""⟩
  | first :: _ => first.meadowlarkId

/-- All documents have an alias row, so a document without one does not exist. -/
def checkBeforeDelete (deleteRequest : DeleteRequest) (documentAliasIds : List AliasRow) :
    Session (Option DeleteResult) :=
  if deleteRequest.validateNoReferencesToDocument then
    if meadowlarkIdFrom documentAliasIds = ⟨""⟩ then do
      rollbackTransaction
      pure (some .deleteFailureNotExists)
    else checkForReferences (meadowlarkIdFrom documentAliasIds) documentAliasIds
  else pure none

def performDelete (documentUuid : DocumentUuid) (meadowlarkId : MeadowlarkId) :
    Session DeleteResult := do
  let deleteResult ← deleteDocumentRowByDocumentUuid documentUuid
  let _ ← deleteOutboundReferencesOfDocumentByMeadowlarkId meadowlarkId
  let _ ← deleteAliasesForDocumentByMeadowlarkId meadowlarkId
  commitTransaction
  pure deleteResult

def tryDelete (deleteRequest : DeleteRequest) : Session DeleteResult := do
  beginTransaction
  let documentAliasIds ← findAliasMeadowlarkIdsForDocumentByDocumentUuid deleteRequest.documentUuid
  match ← checkBeforeDelete deleteRequest documentAliasIds with
  | some deleteResult => pure deleteResult
  | none => performDelete deleteRequest.documentUuid (meadowlarkIdFrom documentAliasIds)

def deleteDocumentByDocumentUuid (deleteRequest : DeleteRequest) : Session DeleteResult :=
  tryCatch (tryDelete deleteRequest) fun _ => do
    rollbackTransaction
    pure (.unknownFailure "")

end Delete

section Write
variable [NodeRuntime]

def superclassAliasIds (documentInfo : DocumentInfo) : List MeadowlarkId :=
  (documentInfo.superclassInfo.map getMeadowlarkIdForSuperclassInfo).toList

def outboundRefsFrom (documentInfo : DocumentInfo) : List MeadowlarkId :=
  documentInfo.documentReferences.map getMeadowlarkIdForDocumentReference ++
    documentInfo.descriptorReferences.map getMeadowlarkIdForDocumentReference

/-- The rows of the old id are replaced by the rows of the new one. -/
def rewriteAliasesAndReferences (existingMeadowlarkId : MeadowlarkId) (documentUuid : DocumentUuid)
    (meadowlarkId : MeadowlarkId) (documentInfo : DocumentInfo) : Session Unit := do
  let _ ← deleteAliasesForDocumentByMeadowlarkId existingMeadowlarkId
  (meadowlarkId :: superclassAliasIds documentInfo).forM fun aliasId => do
    let _ ← insertAlias documentUuid meadowlarkId aliasId
  let _ ← deleteOutboundReferencesOfDocumentByMeadowlarkId existingMeadowlarkId
  (outboundRefsFrom documentInfo).forM fun ref => do
    let _ ← insertOutboundReferences meadowlarkId ref

end Write

section Upsert
variable [NodeRuntime]

/-- An insert of a subclass document fails when its superclass identity is in use. -/
def checkSuperclassIdentity (upsertRequest : UpsertRequest) (isInsert : Bool) :
    Session (Option UpsertResult) :=
  match isInsert, upsertRequest.documentInfo.superclassInfo with
  | true, some superclassInfo => do
      let superclassAliasId := getMeadowlarkIdForSuperclassInfo superclassInfo
      let superclassAliasMeadowlarkIdInUseResult ← findAliasMeadowlarkId superclassAliasId
      if superclassAliasMeadowlarkIdInUseResult = [] then pure none
      else do
        let referringDocumentInfo ← findReferringDocumentInfoForErrorReporting [superclassAliasId]
        rollbackTransaction
        pure (some (.insertFailureConflict
          (some (.text ("Insert failed: the identity is in use by '" ++
            upsertRequest.resourceInfo.resourceName ++ "' which is also a(n) '" ++
            superclassInfo.resourceName ++ "'")))
          referringDocumentInfo))
  | _, _ => pure none

def checkUpsertReferences (upsertRequest : UpsertRequest) (isInsert : Bool) :
    Session (Option UpsertResult) :=
  if upsertRequest.validateDocumentReferencesExist then do
    let failures ← validateReferences upsertRequest.documentInfo.documentReferences
      upsertRequest.documentInfo.descriptorReferences
    if failures = [] then pure none
    else do
      let referringDocumentInfo ←
        findReferringDocumentInfoForErrorReporting [upsertRequest.meadowlarkId]
      rollbackTransaction
      let failureMessage := FailureMessage.error "Reference validation failed" failures
      pure (some (if isInsert then
        .insertFailureReference (some failureMessage) referringDocumentInfo
      else .updateFailureReference (some failureMessage) referringDocumentInfo))
  else pure none

def writeDocument (upsertRequest : UpsertRequest) (documentUuid : DocumentUuid)
    (isInsert : Bool) : Session Bool :=
  if isInsert then insertDocument { upsertRequest with documentUuid := documentUuid }
  else updateDocument { upsertRequest with documentUuid := documentUuid }

def writeUpsert (upsertRequest : UpsertRequest) (documentUuid : DocumentUuid) (isInsert : Bool) :
    Session UpsertResult := do
  let _ ← writeDocument upsertRequest documentUuid isInsert
  rewriteAliasesAndReferences upsertRequest.meadowlarkId documentUuid upsertRequest.meadowlarkId
    upsertRequest.documentInfo
  commitTransaction
  pure (if isInsert then .insertSuccess documentUuid else .updateSuccess documentUuid)

def tryUpsert (generated : DocumentUuid) (upsertRequest : UpsertRequest) :
    Session UpsertResult := do
  beginTransaction
  let documentFromDb ← findDocumentByMeadowlarkId upsertRequest.meadowlarkId
  let isInsert := documentFromDb.isNone
  let documentUuid := (documentFromDb.map (·.documentUuid)).getD generated
  -- A stale request returns without a rollback.
  if documentFromDb.any fun existing =>
      existing.lastModifiedAt ≥ upsertRequest.documentInfo.requestTimestamp then
    pure (.upsertFailureWriteConflict none)
  else
    match ← checkSuperclassIdentity upsertRequest isInsert with
    | some failure => pure failure
    | none =>
        match ← checkUpsertReferences upsertRequest isInsert with
        | some failure => pure failure
        | none => writeUpsert upsertRequest documentUuid isInsert

def upsertDocument (generated : DocumentUuid) (upsertRequest : UpsertRequest) :
    Session UpsertResult :=
  tryCatch (tryUpsert generated upsertRequest) fun error => do
    rollbackTransaction
    pure (.unknownFailure (some (.text error.message)))

end Upsert

section Update
variable [NodeRuntime]

def checkUpdateReferences (updateRequest : UpdateRequest) (existingMeadowlarkId : MeadowlarkId) :
    Session (Option UpdateResult) :=
  if updateRequest.validateDocumentReferencesExist then do
    let failures ← validateReferences updateRequest.documentInfo.documentReferences
      updateRequest.documentInfo.descriptorReferences
    if failures = [] then pure none
    else do
      let referringDocumentInfo ←
        findReferringDocumentInfoForErrorReporting [existingMeadowlarkId]
      rollbackTransaction
      pure (some (.updateFailureReference
        (some (.error "Reference validation failed" failures)) referringDocumentInfo))
  else pure none

def writeUpdate (updateRequest : UpdateRequest) (existingMeadowlarkId : MeadowlarkId) :
    Session UpdateResult := do
  let updateDocumentResult ← updateDocument updateRequest
  rewriteAliasesAndReferences existingMeadowlarkId updateRequest.documentUuid
    updateRequest.meadowlarkId updateRequest.documentInfo
  commitTransaction
  pure (if updateDocumentResult then .updateSuccess else .updateFailureNotExists)

/-- The first three failures return without a rollback. -/
def tryUpdate (updateRequest : UpdateRequest) : Session UpdateResult := do
  beginTransaction
  match ← findDocumentByDocumentUuid updateRequest.documentUuid with
  | none => pure .updateFailureNotExists
  | some documentFromDb =>
      if documentFromDb.lastModifiedAt ≥ updateRequest.documentInfo.requestTimestamp then
        pure (.updateFailureWriteConflict none)
      else if ¬ updateRequest.resourceInfo.allowIdentityUpdates ∧
          documentFromDb.meadowlarkId ≠ updateRequest.meadowlarkId then
        pure .updateFailureImmutableIdentity
      else
        match ← checkUpdateReferences updateRequest documentFromDb.meadowlarkId with
        | some failure => pure failure
        | none => writeUpdate updateRequest documentFromDb.meadowlarkId

def updateDocumentByDocumentUuid (updateRequest : UpdateRequest) : Session UpdateResult :=
  tryCatch (tryUpdate updateRequest) fun error => do
    rollbackTransaction
    pure (.unknownFailure (some (.text error.message)))

end Update

def tryGet (getRequest : GetRequest) : Session GetResult := do
  match ← findDocumentByDocumentUuid getRequest.documentUuid with
  | none => pure .getFailureNotExists
  | some meadowlarkDocument =>
      pure (.getSuccess getRequest.documentUuid meadowlarkDocument.edfiDoc
        meadowlarkDocument.lastModifiedAt)

def getDocumentByDocumentUuid (getRequest : GetRequest) : Session GetResult :=
  tryCatch (tryGet getRequest) fun _ => pure .unknownFailure

end Meadowlark.Postgres
