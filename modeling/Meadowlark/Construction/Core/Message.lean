import Meadowlark.Construction.Core.Identity

namespace Meadowlark.Core

/-- The rule that decides which documents a client may touch. -/
inductive AuthorizationStrategy where
  | ownershipBased
  | fullAccess
  | undefined
  deriving DecidableEq

/-- The security information associated with a frontend request. -/
structure Security where
  authorizationStrategy : AuthorizationStrategy
  clientId : String
  deriving DecidableEq

def UndefinedSecurity : Security := ⟨.undefined, "UNKNOWN"⟩

structure UpsertRequest where
  meadowlarkId : MeadowlarkId
  resourceInfo : ResourceInfo
  documentInfo : DocumentInfo
  edfiDoc : Json
  validateDocumentReferencesExist : Bool
  security : Security
  traceId : TraceId
  deriving DecidableEq

structure UpdateRequest extends UpsertRequest where
  documentUuid : DocumentUuid
  deriving DecidableEq

structure DeleteRequest where
  documentUuid : DocumentUuid
  resourceInfo : ResourceInfo
  validateNoReferencesToDocument : Bool
  security : Security
  traceId : TraceId
  deriving DecidableEq

structure GetRequest where
  documentUuid : DocumentUuid
  resourceInfo : ResourceInfo
  security : Security
  traceId : TraceId
  deriving DecidableEq

/-- A document that refers to another one. -/
structure ReferringDocumentInfo where
  projectName : String
  resourceName : String
  resourceVersion : String
  documentUuid : DocumentUuid
  meadowlarkId : MeadowlarkId
  deriving DecidableEq

/-- A failure carries a text or an object that lists missing identities. -/
inductive FailureMessage where
  | text (message : String)
  | failures (message : String) (failures : List MissingIdentity)
  | error (message : String) (failures : List MissingIdentity)
  deriving DecidableEq

inductive UpsertResult where
  | insertSuccess (newDocumentUuid : DocumentUuid)
  | updateSuccess (existingDocumentUuid : DocumentUuid)
  | insertFailureReference (failureMessage : Option FailureMessage)
      (referringDocumentInfo : List ReferringDocumentInfo)
  | insertFailureConflict (failureMessage : Option FailureMessage)
      (referringDocumentInfo : List ReferringDocumentInfo)
  | updateFailureReference (failureMessage : Option FailureMessage)
      (referringDocumentInfo : List ReferringDocumentInfo)
  | upsertFailureWriteConflict (failureMessage : Option FailureMessage)
  | unknownFailure (failureMessage : Option FailureMessage)
  deriving DecidableEq

inductive UpdateResult where
  | updateSuccess
  | updateFailureReference (failureMessage : Option FailureMessage)
      (referringDocumentInfo : List ReferringDocumentInfo)
  | updateFailureConflict (failureMessage : Option FailureMessage)
      (referringDocumentInfo : List ReferringDocumentInfo)
  | updateFailureNotExists
  | updateFailureWriteConflict (failureMessage : Option FailureMessage)
  | updateFailureImmutableIdentity
  | updateCascadeRequired
  | unknownFailure (failureMessage : Option FailureMessage)
  deriving DecidableEq

inductive DeleteResult where
  | deleteSuccess
  | deleteFailureReference (referringDocumentInfo : List ReferringDocumentInfo)
  | deleteFailureNotExists
  | deleteFailureWriteConflict (failureMessage : String)
  | unknownFailure (failureMessage : String)
  deriving DecidableEq

/-- A backend answers a read with these cases. -/
inductive GetResult where
  | getSuccess (documentUuid : DocumentUuid) (edfiDoc : Json) (lastModifiedDate : Int)
  | getFailureNotExists
  | unknownFailure
  deriving DecidableEq

/-- The upsert changed the store. -/
def UpsertResult.succeeded : UpsertResult → Bool
  | .insertSuccess _ => true
  | .updateSuccess _ => true
  | _ => false

/-- The update changed the store. -/
def UpdateResult.succeeded : UpdateResult → Bool
  | .updateSuccess => true
  | _ => false

/-- The delete changed the store. -/
def DeleteResult.succeeded : DeleteResult → Bool
  | .deleteSuccess => true
  | _ => false

namespace Sample

/-- The digest of a sample request is the text itself. -/
abbrev runtime : NodeRuntime where
  shake256 _ data := data
  toLowerCase text := String.ofList (text.toList.map Char.toLower)
  toLocaleLowerCase text := String.ofList (text.toList.map Char.toLower)
  numberToString numeral := numeral
  dateToISOString _ := some "1970-01-01T00:00:00.000Z"
  syntaxErrorMessage _ := "Unexpected token in JSON"

def documentUuid (digits : String) : DocumentUuid := ⟨"00000000-0000-4000-a000-" ++ digits⟩

def resource (resourceName : String) : ResourceInfo where
  projectName := "Ed-Fi"
  resourceName := resourceName
  isDescriptor := false
  resourceVersion := "3.3.1-b"
  allowIdentityUpdates := false

def reference (resourceName key value : String) : DocumentReference where
  projectName := "Ed-Fi"
  resourceName := resourceName
  isDescriptor := false
  documentIdentity := [(key, .string value)]

def superclass (resourceName key value : String) : SuperclassInfo where
  projectName := "Ed-Fi"
  resourceName := resourceName
  documentIdentity := [(key, .string value)]

/-- A request of one client that stores a document with a single identity element. -/
def upsertRequest (resourceInfo : ResourceInfo) (key value : String)
    (documentReferences : List DocumentReference) (superclassInfo : Option SuperclassInfo)
    (requestTimestamp : Int) (clientId : String) : UpsertRequest where
  meadowlarkId := @meadowlarkIdForDocumentIdentity runtime resourceInfo.toBaseResourceInfo
    [(key, .string value)]
  resourceInfo := resourceInfo
  documentInfo :=
    { documentIdentity := [(key, .string value)]
      documentReferences := documentReferences
      descriptorReferences := []
      superclassInfo := superclassInfo
      requestTimestamp := requestTimestamp }
  edfiDoc := .object [(key, .string value)]
  validateDocumentReferencesExist := true
  security := ⟨.ownershipBased, clientId⟩
  traceId := ⟨"trace"⟩

def deleteRequest (resourceInfo : ResourceInfo) (documentUuid : DocumentUuid)
    (clientId : String) : DeleteRequest where
  documentUuid := documentUuid
  resourceInfo := resourceInfo
  validateNoReferencesToDocument := true
  security := ⟨.ownershipBased, clientId⟩
  traceId := ⟨"trace"⟩

end Sample
end Meadowlark.Core
