import Meadowlark.Construction.Mongo.Collection

namespace Meadowlark.Mongo
open Meadowlark.Core Systems
variable [NodeRuntime]

/-- Finds the references whose ids are absent from the documents found in the database. -/
def findMissingReferences (refsInDb : List MeadowlarkDocument)
    (documentOutboundRefs : List MeadowlarkId) (documentReferences : List DocumentReference) :
    List MissingIdentity :=
  let meadowlarkIdsOfRefsInDb := refsInDb.map fun outRef =>
    match outRef.aliasMeadowlarkIds with
    | [] => outRef.id
    | first :: _ => first
  let outRefMeadowlarkIdsNotInDb :=
    (documentOutboundRefs.filter fun id => id ∉ meadowlarkIdsOfRefsInDb).eraseDups
  let arrayIndexesOfMissing := outRefMeadowlarkIdsNotInDb.map documentOutboundRefs.idxOf
  let pickedDocumentReferencesOfMissing := arrayIndexesOfMissing.filterMap (documentReferences[·]?)
  pickedDocumentReferencesOfMissing.map fun reference =>
    ⟨reference.resourceName, reference.documentIdentity⟩

/-- A list of references is checked by the number of documents that hold one of its ids. -/
def validateReferenceList (projection : Projection) (references : List DocumentReference) :
    Session (List MissingIdentity) := do
  let referencedMeadowlarkIds := references.map getMeadowlarkIdForDocumentReference
  let referencesInDb ← find (.aliasMeadowlarkIds referencedMeadowlarkIds) projection none true
  pure (if referencedMeadowlarkIds.length ≠ referencesInDb.length then
    findMissingReferences referencesInDb referencedMeadowlarkIds references
  else [])

def validateReferences (documentReferences descriptorReferences : List DocumentReference) :
    Session (List MissingIdentity) := do
  let failures ← validateReferenceList .onlyReturnAliasMeadowlarkId documentReferences
  let descriptorFailures ← validateReferenceList .onlyReturnId descriptorReferences
  pure (failures ++ descriptorFailures)

/-- The lock writes and removes one entry for each document in use. -/
def lockDocuments (concurrencyDocuments : List DocumentUuid) : Session Unit := do
  insertMany concurrencyDocuments
  deleteMany concurrencyDocuments

/-- The documents that hold a referenced alias are read outside the session.
They are locked together with the document itself. -/
def lockReferencedDocuments (outboundRefs : List MeadowlarkId) (documentUuid : DocumentUuid) :
    Session Unit := do
  let referringDocumentUuids ← find (.aliasMeadowlarkIds outboundRefs) .whole none false
  lockDocuments (referringDocumentUuids.map (·.documentUuid) ++ [documentUuid])

def referringDocumentInfoFrom (document : MeadowlarkDocument) : ReferringDocumentInfo where
  documentUuid := document.documentUuid
  meadowlarkId := document.id
  resourceName := document.resourceName
  projectName := document.projectName
  resourceVersion := document.resourceVersion

/-- At most five documents that refer to one of the ids. -/
def findReferringDocumentInfo (ids : List MeadowlarkId) : Session (List ReferringDocumentInfo) := do
  let referringDocuments ← find (.outboundRefs ids) .whole (some 5) true
  pure (referringDocuments.map referringDocumentInfoFrom)

section Delete

def checkForReferencesToDocument (documentUuid : DocumentUuid) :
    Session (Option DeleteResult) := do
  match ← findOne (.documentUuid documentUuid) .whole true with
  | none => pure (some .deleteFailureNotExists)
  | some deleteCandidate =>
      match ← findOne (.outboundRefs deleteCandidate.aliasMeadowlarkIds) .onlyReturnId true with
      | none => pure none
      | some _ => do
          let referringDocumentInfo ← findReferringDocumentInfo deleteCandidate.aliasMeadowlarkIds
          pure (some (.deleteFailureReference referringDocumentInfo))

def performDelete (documentUuid : DocumentUuid) : Session DeleteResult := do
  lockDocuments [documentUuid]
  let answer ← deleteOne documentUuid
  pure (if ¬ answer.acknowledged then .unknownFailure ""
    else if answer.deletedCount = 0 then .deleteFailureNotExists
    else .deleteSuccess)

def deleteDocumentByMeadowlarkIdTransaction (documentUuid : DocumentUuid)
    (validateNoReferencesToDocument : Bool) : Session DeleteResult :=
  if validateNoReferencesToDocument then do
    match ← checkForReferencesToDocument documentUuid with
    | some result => pure result
    | none => performDelete documentUuid
  else performDelete documentUuid

end Delete

section Upsert

/-- An insert of a subclass document fails when its superclass identity is in use. -/
def checkSuperclassIdentity (upsertRequest : UpsertRequest) (isInsert : Bool) :
    Session (Option UpsertResult) :=
  match isInsert, upsertRequest.documentInfo.superclassInfo with
  | true, some superclassInfo => do
      match ← findOne (.aliasMeadowlarkId (getMeadowlarkIdForSuperclassInfo superclassInfo))
          .whole true with
      | none => pure none
      | some inUse => pure (some (.insertFailureConflict
          (some (.text ("Insert failed: the identity is in use by '" ++
            upsertRequest.resourceInfo.resourceName ++ "' which is also a(n) '" ++
            superclassInfo.resourceName ++ "'")))
          [referringDocumentInfoFrom inUse]))
  | _, _ => pure none

def checkUpsertReferences (upsertRequest : UpsertRequest) (isInsert : Bool) :
    Session (Option UpsertResult) :=
  if upsertRequest.validateDocumentReferencesExist then do
    let failures ← validateReferences upsertRequest.documentInfo.documentReferences
      upsertRequest.documentInfo.descriptorReferences
    if failures = [] then pure none
    else do
      let referringDocumentInfo ← findReferringDocumentInfo [upsertRequest.meadowlarkId]
      let failureMessage := FailureMessage.error "Reference validation failed" failures
      pure (some (if isInsert then
        .insertFailureReference (some failureMessage) referringDocumentInfo
      else .updateFailureReference (some failureMessage) referringDocumentInfo))
  else pure none

def writeDocument (upsertRequest : UpsertRequest) (documentUuid : DocumentUuid)
    (document : MeadowlarkDocument) : Session UpsertResult := do
  lockReferencedDocuments document.outboundRefs documentUuid
  let answer ← replaceOne upsertRequest.meadowlarkId document
  pure (if ¬ answer.acknowledged then .unknownFailure none
    else if answer.upsertedCount > 0 then .insertSuccess documentUuid
    else if answer.modifiedCount = 0 then .unknownFailure none
    else .updateSuccess documentUuid)

/-- The document keeps the uuid and the creation time of the one it replaces. -/
def documentFromUpsert (upsertRequest : UpsertRequest) (generated : DocumentUuid)
    (existingDocument : Option MeadowlarkDocument) : MeadowlarkDocument :=
  let requestTimestamp := upsertRequest.documentInfo.requestTimestamp
  meadowlarkDocumentFrom upsertRequest.resourceInfo upsertRequest.documentInfo
    ((existingDocument.map (·.documentUuid)).getD generated) upsertRequest.meadowlarkId
    upsertRequest.edfiDoc upsertRequest.validateDocumentReferencesExist
    upsertRequest.security.clientId
    (some ((existingDocument.bind (·.createdAt)).getD requestTimestamp)) requestTimestamp

def upsertDocumentTransaction (generated : DocumentUuid) (upsertRequest : UpsertRequest)
    (documentFromUpdate : Option MeadowlarkDocument) : Session UpsertResult := do
  let existingDocument ← findOne (.id upsertRequest.meadowlarkId) .whole true
  if existingDocument.any fun existing =>
      existing.lastModifiedAt ≥ upsertRequest.documentInfo.requestTimestamp then
    pure (.upsertFailureWriteConflict none)
  else
    let documentUuid := (existingDocument.map (·.documentUuid)).getD generated
    let isInsert := existingDocument.isNone
    match ← checkSuperclassIdentity upsertRequest isInsert with
    | some failure => pure failure
    | none =>
        match ← checkUpsertReferences upsertRequest isInsert with
        | some failure => pure failure
        | none =>
            writeDocument upsertRequest documentUuid
              (documentFromUpdate.getD
                (documentFromUpsert upsertRequest generated existingDocument))

end Upsert

section Update

/-- The references of an updated document have been validated before. -/
def reinsertRequest (updateRequest : UpdateRequest) : UpsertRequest :=
  { updateRequest.toUpsertRequest with validateDocumentReferencesExist := false }

def insertUpdatedDocument (generated : DocumentUuid) (updateRequest : UpdateRequest)
    (document : MeadowlarkDocument) : Session UpdateResult := do
  let upsertResult ←
    upsertDocumentTransaction generated (reinsertRequest updateRequest) (some document)
  pure (match upsertResult with
    | .insertSuccess _ => .updateSuccess
    | .updateSuccess _ => .updateSuccess
    | .insertFailureReference _ referringDocumentInfo =>
        .updateFailureReference none referringDocumentInfo
    | .updateFailureReference _ referringDocumentInfo =>
        .updateFailureReference none referringDocumentInfo
    | .insertFailureConflict _ referringDocumentInfo =>
        .updateFailureConflict none referringDocumentInfo
    | .upsertFailureWriteConflict failureMessage => .unknownFailure failureMessage
    | .unknownFailure failureMessage => .unknownFailure failureMessage)

/-- The replacement matches the id, the uuid and an older modification time. -/
def tryUpdateByReplacement (document : MeadowlarkDocument) (updateRequest : UpdateRequest) :
    Session (Option UpdateResult) := do
  let answer ← updateOne
    (.replaceable updateRequest.meadowlarkId updateRequest.documentUuid document.lastModifiedAt)
    document
  pure (if ¬ answer.acknowledged then some (.unknownFailure none)
    else if answer.matchedCount > 0 then some .updateSuccess
    else none)

/-- The failed replacement is explained by an absent document or by a stale request. -/
def findUpdatableDocument (document : MeadowlarkDocument) (updateRequest : UpdateRequest) :
    Session (Except UpdateResult MeadowlarkDocument) := do
  let documentByUuid ← findOne (.documentUuid updateRequest.documentUuid) .whole true
  pure (match documentByUuid with
    | none => .error .updateFailureNotExists
    | some existing =>
        if existing.lastModifiedAt ≥ document.lastModifiedAt then
          .error (.updateFailureWriteConflict none)
        else .ok existing)

/-- An identity change deletes the document and inserts it again. -/
def deleteAndInsert (generated : DocumentUuid) (document : MeadowlarkDocument)
    (updateRequest : UpdateRequest) : Session UpdateResult := do
  match ← deleteDocumentByMeadowlarkIdTransaction updateRequest.documentUuid true with
  | .deleteSuccess => insertUpdatedDocument generated updateRequest document
  | .deleteFailureNotExists =>
      pure (.unknownFailure (some (.text ("Document uuid " ++ updateRequest.documentUuid.value ++
        " should have been found but was not"))))
  | .deleteFailureReference _ => pure .updateCascadeRequired
  | .deleteFailureWriteConflict failureMessage =>
      pure (.unknownFailure (some (.text failureMessage)))
  | .unknownFailure failureMessage => pure (.unknownFailure (some (.text failureMessage)))

def updateAllowingIdentityChange (generated : DocumentUuid) (document : MeadowlarkDocument)
    (updateRequest : UpdateRequest) : Session UpdateResult := do
  lockReferencedDocuments document.outboundRefs updateRequest.documentUuid
  match ← tryUpdateByReplacement document updateRequest with
  | some result => pure result
  | none =>
      match ← findUpdatableDocument document updateRequest with
      | .error result => pure result
      | .ok documentByUuid =>
          deleteAndInsert generated { document with createdAt := documentByUuid.createdAt }
            updateRequest

def updateDisallowingIdentityChange (document : MeadowlarkDocument)
    (updateRequest : UpdateRequest) : Session UpdateResult := do
  lockReferencedDocuments document.outboundRefs updateRequest.documentUuid
  match ← tryUpdateByReplacement document updateRequest with
  | some result => pure result
  | none =>
      match ← findUpdatableDocument document updateRequest with
      | .error result => pure result
      | .ok _ => pure .updateFailureImmutableIdentity

def checkForInvalidReferences (updateRequest : UpdateRequest) : Session (Option UpdateResult) := do
  let failures ← validateReferences updateRequest.documentInfo.documentReferences
    updateRequest.documentInfo.descriptorReferences
  if failures = [] then pure none
  else do
    let referringDocumentInfo ← findReferringDocumentInfo [updateRequest.meadowlarkId]
    pure (some (.updateFailureReference
      (some (.failures "Reference validation failed" failures)) referringDocumentInfo))

def documentFromUpdateRequest (updateRequest : UpdateRequest) : MeadowlarkDocument :=
  meadowlarkDocumentFrom updateRequest.resourceInfo updateRequest.documentInfo
    updateRequest.documentUuid updateRequest.meadowlarkId updateRequest.edfiDoc
    updateRequest.validateDocumentReferencesExist updateRequest.security.clientId none
    updateRequest.documentInfo.requestTimestamp

def updateValidDocument (generated : DocumentUuid) (updateRequest : UpdateRequest) :
    Session UpdateResult :=
  let document := documentFromUpdateRequest updateRequest
  if updateRequest.resourceInfo.allowIdentityUpdates then
    updateAllowingIdentityChange generated document updateRequest
  else updateDisallowingIdentityChange document updateRequest

def updateDocumentByDocumentUuidTransaction (generated : DocumentUuid)
    (updateRequest : UpdateRequest) : Session UpdateResult :=
  if updateRequest.validateDocumentReferencesExist then do
    match ← checkForInvalidReferences updateRequest with
    | some result => pure result
    | none => updateValidDocument generated updateRequest
  else updateValidDocument generated updateRequest

end Update

end Meadowlark.Mongo
