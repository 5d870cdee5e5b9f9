import Meadowlark.Construction.Postgres.Write

namespace Meadowlark.Postgres
open Meadowlark.Core Systems
variable [NodeRuntime]

/-- One repository call, with the uuid that an insert would generate. -/
inductive RepositoryCall where
  | upsert (generated : DocumentUuid) (upsertRequest : UpsertRequest)
  | update (updateRequest : UpdateRequest)
  | delete (deleteRequest : DeleteRequest)

inductive RepositoryResult where
  | upsert (result : UpsertResult)
  | update (result : UpdateResult)
  | delete (result : DeleteResult)
  deriving DecidableEq

def RepositoryResult.succeeded : RepositoryResult → Bool
  | .upsert result => result.succeeded
  | .update result => result.succeeded
  | .delete result => result.succeeded

/-- The call checks that references exist, or that no reference remains. -/
def RepositoryCall.validates : RepositoryCall → Bool
  | .upsert _ upsertRequest => upsertRequest.validateDocumentReferencesExist
  | .update updateRequest => updateRequest.validateDocumentReferencesExist
  | .delete deleteRequest => deleteRequest.validateNoReferencesToDocument

def repositorySession : RepositoryCall → Session RepositoryResult
  | .upsert generated upsertRequest => .upsert <$> upsertDocument generated upsertRequest
  | .update updateRequest => .update <$> updateDocumentByDocumentUuid updateRequest
  | .delete deleteRequest => .delete <$> deleteDocumentByDocumentUuid deleteRequest

/-- The calls run one after another on one connection. -/
def performAll [ColumnTypes] (connection : Connection) : List RepositoryCall → Connection
  | [] => connection
  | call :: rest => performAll (connection.run (repositorySession call)).2 rest

/-- The tables that calls reach one after another.
Each call is given a connection that shows the committed tables. -/
inductive Reached [ColumnTypes] (allowed : Tables → RepositoryCall → Prop) : Tables → Prop where
  | empty : Reached allowed Tables.empty
  | call {connection : Connection} {call : RepositoryCall}
      (reached : Reached allowed connection.committed)
      (clean : connection.block = .idle ∨ connection.block = .active connection.committed)
      (permitted : allowed connection.committed call) :
      Reached allowed (connection.run (repositorySession call)).2.committed

namespace Sample

/-- The server takes the sample values as they are. -/
abbrev columns : ColumnTypes where
  uuidInput text := some ⟨text⟩
  uuidInput_output := by
    rintro text documentUuid ⟨⟩
    rfl
  jsonbInput document := some document

end Sample
end Meadowlark.Postgres
