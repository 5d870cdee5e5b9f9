import Meadowlark.Construction.Mongo.Write

namespace Meadowlark.Mongo
open Meadowlark.Core Systems
variable [NodeRuntime]

/-- One attempt of a repository call, with the uuid that it would generate. -/
inductive RepositoryCall where
  | upsert (generated : DocumentUuid) (upsertRequest : UpsertRequest)
  | update (generated : DocumentUuid) (updateRequest : UpdateRequest)
  | delete (deleteRequest : DeleteRequest)

inductive RepositoryResult where
  | upsert (result : UpsertResult)
  | update (result : UpdateResult)
  | delete (result : DeleteResult)
  deriving DecidableEq

def RepositoryResult.succeeded : RepositoryResult → Bool
  | .upsert result => result.succeeded
  | .update result => result.succeeded
  | .delete result => result.succeeded

def repositoryTransaction : RepositoryCall → Session RepositoryResult
  | .upsert generated upsertRequest =>
      .upsert <$> upsertDocumentTransaction generated upsertRequest none
  | .update generated updateRequest =>
      .update <$> updateDocumentByDocumentUuidTransaction generated updateRequest
  | .delete deleteRequest =>
      .delete <$> deleteDocumentByMeadowlarkIdTransaction deleteRequest.documentUuid
        deleteRequest.validateNoReferencesToDocument

/-- Concurrent repository calls under snapshot isolation. -/
def repository : Service Record Call Call.Answer DriverError RepositoryCall RepositoryResult where
  driver := mongoDriver
  transaction := repositoryTransaction
  commits := RepositoryResult.succeeded

section Transactions

/-- The transaction of a session after it has been started. -/
inductive TransactionState where
  | inProgress
  | committed
  | aborted
  deriving DecidableEq

/-- The driver refuses to end a transaction that has ended.
The transaction counts as aborted even when the abort itself throws. -/
def TransactionState.abortTransaction (state : TransactionState) (thrown : Option DriverError) :
    Except DriverError Unit × TransactionState :=
  match state, thrown with
  | .inProgress, none => (.ok (), .aborted)
  | .inProgress, some error => (.error error, .aborted)
  | .aborted, _ => (.error ⟨"", "Cannot call abortTransaction twice"⟩, .aborted)
  | .committed, _ =>
      (.error ⟨"", "Cannot call abortTransaction after calling commitTransaction"⟩, .committed)

end Transactions

section Sequential

/-- A transaction that runs alone keeps its writes when its result is a success.
Otherwise the callback aborts it. -/
def withTransaction {Result : Type} (succeeded : Result → Bool) (program : Session Result)
    (store : Store) : Except DriverError (Result × Store) :=
  match program.interpret (mongoDriver.handler store) store with
  | .error error => .error error
  | .ok (result, view) => .ok (result, if succeeded result then view else store)

/-- Every attempt generates its own uuid, and a thrown error starts the next attempt. -/
def retry {Answer : Type} (attempt : DocumentUuid → Except DriverError Answer)
    (generated : DocumentUuid) : List DocumentUuid → Except DriverError Answer
  | [] => attempt generated
  | next :: rest =>
      match attempt generated with
      | .ok answer => .ok answer
      | .error _ => retry attempt next rest

/-- The uuids that the attempts of one call generate. -/
structure GeneratedUuids where
  first : DocumentUuid
  retries : List DocumentUuid

def GeneratedUuids.all (generated : GeneratedUuids) : List DocumentUuid :=
  generated.first :: generated.retries

def upsertFailure (error : DriverError) : UpsertResult :=
  if error.codeName = "WriteConflict" then
    .upsertFailureWriteConflict (some (.text
      "Write conflict due to concurrent access to this or related resources"))
  else .unknownFailure (some (.text error.message))

def updateFailure (error : DriverError) : UpdateResult :=
  if error.codeName = "WriteConflict" then
    .updateFailureWriteConflict (some (.text
      "Write conflict due to concurrent access to this or related resources."))
  else .unknownFailure (some (.text error.message))

def deleteFailure (error : DriverError) : DeleteResult :=
  if error.codeName = "WriteConflict" then
    .deleteFailureWriteConflict
      "Write conflict due to concurrent access to this or related resources"
  else .unknownFailure error.message

/-- The catch block aborts the transaction before it answers with a failure.
The driver has already aborted it when the last attempt throws, so the call rejects. -/
def settle {Result : Type} (failure : DriverError → Result) (store : Store) :
    Except DriverError (Result × Store) → Except DriverError Result × Store
  | .ok (result, following) => (.ok result, following)
  | .error error =>
      ((TransactionState.aborted.abortTransaction none).1.map fun _ => failure error, store)

def upsertDocument (generated : GeneratedUuids) (upsertRequest : UpsertRequest) (store : Store) :
    Except DriverError UpsertResult × Store :=
  settle upsertFailure store (retry (fun documentUuid => withTransaction UpsertResult.succeeded
    (upsertDocumentTransaction documentUuid upsertRequest none) store)
    generated.first generated.retries)

def updateDocumentByDocumentUuid (generated : GeneratedUuids) (updateRequest : UpdateRequest)
    (store : Store) : Except DriverError UpdateResult × Store :=
  settle updateFailure store (retry (fun documentUuid => withTransaction UpdateResult.succeeded
    (updateDocumentByDocumentUuidTransaction documentUuid updateRequest) store)
    generated.first generated.retries)

def deleteDocumentByDocumentUuid (generated : GeneratedUuids) (deleteRequest : DeleteRequest)
    (store : Store) : Except DriverError DeleteResult × Store :=
  settle deleteFailure store (retry (fun _ => withTransaction DeleteResult.succeeded
    (deleteDocumentByMeadowlarkIdTransaction deleteRequest.documentUuid
      deleteRequest.validateNoReferencesToDocument) store)
    generated.first generated.retries)

def getDocumentByDocumentUuid (getRequest : GetRequest) (store : Store) : GetResult :=
  match findDocument store (.documentUuid getRequest.documentUuid) with
  | none => .getFailureNotExists
  | some document =>
      .getSuccess getRequest.documentUuid document.edfiDoc document.lastModifiedAt

/-- One repository call, with the uuids that its attempts would generate. -/
inductive SequentialCall where
  | upsert (generated : GeneratedUuids) (upsertRequest : UpsertRequest)
  | update (generated : GeneratedUuids) (updateRequest : UpdateRequest)
  | delete (generated : GeneratedUuids) (deleteRequest : DeleteRequest)

def SequentialCall.generated : SequentialCall → GeneratedUuids
  | .upsert generated _ => generated
  | .update generated _ => generated
  | .delete generated _ => generated

def SequentialCall.perform : SequentialCall → Store → Except DriverError RepositoryResult × Store
  | .upsert generated upsertRequest, store =>
      (upsertDocument generated upsertRequest store).map (.map .upsert) id
  | .update generated updateRequest, store =>
      (updateDocumentByDocumentUuid generated updateRequest store).map (.map .update) id
  | .delete generated deleteRequest, store =>
      (deleteDocumentByDocumentUuid generated deleteRequest store).map (.map .delete) id

/-- Calls run one after another while an observer sees every call with its result. -/
inductive Observed {Observation : Type} (allowed : Store → SequentialCall → Prop)
    (observe : Observation → SequentialCall → Except DriverError RepositoryResult → Observation)
    (initial : Observation) : Store → Observation → Prop where
  | empty : Observed allowed observe initial Database.empty initial
  | call {store : Store} {observation : Observation} {call : SequentialCall}
      (reached : Observed allowed observe initial store observation)
      (permitted : allowed store call) :
      Observed allowed observe initial (call.perform store).2
        (observe observation call (call.perform store).1)

end Sequential
end Meadowlark.Mongo
