import Meadowlark.Construction.Mongo.Backend
import Meadowlark.Systems.RetriedCalls

namespace Meadowlark.Mongo
open Meadowlark.Core Systems
variable [NodeRuntime]

/-- A call to the document store. Its attempts have different generated uuids. -/
inductive RepositoryRequest where
  | upsert (upsertRequest : UpsertRequest)
  | update (updateRequest : UpdateRequest)
  | delete (deleteRequest : DeleteRequest)

def RepositoryRequest.attempt : RepositoryRequest → DocumentUuid → RepositoryCall
  | .upsert upsertRequest, generated => .upsert generated upsertRequest
  | .update updateRequest, generated => .update generated updateRequest
  | .delete deleteRequest, _ => .delete deleteRequest

/-- The result variable before the first attempt. -/
def RepositoryRequest.initial : RepositoryRequest → RepositoryResult
  | .upsert _ => .upsert (.unknownFailure none)
  | .update _ => .update (.unknownFailure none)
  | .delete _ => .delete (.unknownFailure "")

/-- The answer of the catch block after the last attempt has thrown. -/
def RepositoryRequest.failure : RepositoryRequest → DriverError → RepositoryResult
  | .upsert _, error => .upsert (upsertFailure error)
  | .update _, error => .update (updateFailure error)
  | .delete _, error => .delete (deleteFailure error)

/-- The repository functions with their two nested retry loops. -/
def repositoryProcedure :
    Procedure Record Call Call.Answer DriverError RepositoryCall RepositoryResult RepositoryRequest
      DocumentUuid where
  service := repository
  input := RepositoryRequest.attempt
  initial := RepositoryRequest.initial
  failure := RepositoryRequest.failure
  failure_fails request error := by
    cases request <;> simp only [RepositoryRequest.failure, upsertFailure, updateFailure,
      deleteFailure] <;> split <;> rfl

end Meadowlark.Mongo
