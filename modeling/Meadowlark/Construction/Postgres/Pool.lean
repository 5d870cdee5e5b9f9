import Meadowlark.Construction.Postgres.Authorization
import Meadowlark.Construction.Postgres.Ownership
import Meadowlark.Systems.Nondeterminism

namespace Meadowlark.Postgres
open Meadowlark.Core Systems Authorization

section Operations
variable [NodeRuntime]

/-- The operations of the facade. Each one runs on one client of the pool. -/
inductive Operation where
  | deleteDocumentById (request : DeleteRequest)
  | getDocumentById (request : GetRequest)
  | upsertDocument (generated : DocumentUuid) (request : UpsertRequest)
  | updateDocumentById (request : UpdateRequest)
  | securityMiddleware (frontendRequest : FrontendRequest)
  | createAuthorizationClientDocument (request : CreateAuthorizationClientRequest)
  | tryCreateBootstrapAuthorizationAdminDocument (request : CreateAuthorizationClientRequest)
  | getAuthorizationClientDocument (request : GetAuthorizationClientRequest)
  | getAllAuthorizationClientDocuments
  | updateAuthorizationClientDocument (request : UpdateAuthorizationClientRequest)
  | resetAuthorizationClientSecret (request : ResetAuthorizationClientSecretRequest)

inductive OperationResult where
  | delete (result : DeleteResult)
  | get (result : GetResult)
  | upsert (result : UpsertResult)
  | update (result : UpdateResult)
  | security (result : SecurityResult)
  | create (result : CreateAuthorizationClientResult)
  | bootstrap (result : TryCreateBootstrapAuthorizationAdminResult)
  | getClient (result : GetAuthorizationClientResult)
  | getAllClients (result : GetAllAuthorizationClientsResult)
  | updateClient (result : UpdateAuthorizationClientResult)
  | resetSecret (result : ResetAuthorizationClientSecretResult)
  deriving DecidableEq

def OperationResult.succeeded : OperationResult → Bool
  | .delete result => result.succeeded
  | .get (.getSuccess _ _ _) => true
  | .upsert result => result.succeeded
  | .update result => result.succeeded
  | .security .accessApproved => true
  | .create .createSuccess => true
  | .bootstrap .createSuccess => true
  | .getClient (.getSuccess _ _ _ _) => true
  | .getAllClients (.getSuccess _) => true
  | .updateClient .updateSuccess => true
  | .resetSecret .resetSuccess => true
  | _ => false

def facadeSession : Operation → Session OperationResult
  | .deleteDocumentById request => .delete <$> deleteDocumentByDocumentUuid request
  | .getDocumentById request => .get <$> getDocumentByDocumentUuid request
  | .upsertDocument generated request => .upsert <$> upsertDocument generated request
  | .updateDocumentById request => .update <$> updateDocumentByDocumentUuid request
  | .securityMiddleware frontendRequest => .security <$> rejectByOwnershipSecurity frontendRequest
  | .createAuthorizationClientDocument request => .create <$> createAuthorizationClientDocument request
  | .tryCreateBootstrapAuthorizationAdminDocument request =>
      .bootstrap <$> tryCreateBootstrapAuthorizationAdminDocument request
  | .getAuthorizationClientDocument request => .getClient <$> getAuthorizationClientDocument request
  | .getAllAuthorizationClientDocuments => .getAllClients <$> getAllAuthorizationClientDocuments
  | .updateAuthorizationClientDocument request =>
      .updateClient <$> updateAuthorizationClientDocument request
  | .resetAuthorizationClientSecret request =>
      .resetSecret <$> resetAuthorizationClientSecret request

end Operations

section Faults
variable [ColumnTypes]

/-- The statements that end a transaction block. -/
def Statement.ends : Statement → Bool
  | .commit => true
  | .rollback => true
  | _ => false

/-- An error on the server aborts the block in which it happens. -/
def TransactionBlock.abort : TransactionBlock → TransactionBlock
  | .active _ => .failed
  | block => block

/-- A statement is answered as the server means it, or it throws.
It throws before it reaches the server, or the server reports an error. -/
inductive Connection.Answers (connection : Connection) (statement : Statement) :
    statement.Answer → Connection → Prop where
  | sent : Answers connection statement (connection.send statement).1 (connection.send statement).2
  | lost (error : SqlError) (inside : statement.ends = false) :
      Answers connection statement (.error error) connection
  | rejected (error : SqlError) (inside : statement.ends = false) :
      Answers connection statement (.error error)
        { connection with block := connection.block.abort }

/-- The outcomes of a session on one connection when statements may throw. -/
abbrev Connection.Runs {A : Type} (connection : Connection) (session : Session A)
    (outcome : Except SqlError A) (following : Connection) : Prop :=
  Program.Runs (fun statement connection => connection.Answers statement) session.run connection
    outcome following

end Faults

section Pool
variable [NodeRuntime] [ColumnTypes]

/-- The clients of a pool show the same committed tables, each through its own block. -/
structure Pool where
  committed : Tables
  blocks : List TransactionBlock

/-- A block that is still open sees the tables that others commit where it has not written. -/
def TransactionBlock.rebase (before after : Tables) : TransactionBlock → TransactionBlock
  | .active tables =>
      .active
        { documents := if tables.documents = before.documents then after.documents else tables.documents
          aliases := if tables.aliases = before.aliases then after.aliases else tables.aliases
          references := if tables.references = before.references then after.references
            else tables.references
          authorizations := if tables.authorizations = before.authorizations then
            after.authorizations else tables.authorizations
          uniqueIds := by
            split
            · exact after.uniqueIds
            · exact tables.uniqueIds
          uniqueUuids := by
            split
            · exact after.uniqueUuids
            · exact tables.uniqueUuids }
  | block => block

/-- An operation runs on one client while no other operation runs. -/
inductive Pool.Serves (pool : Pool) (index : Nat) (operation : Operation) :
    Except SqlError OperationResult → Pool → Prop where
  | serve {block : TransactionBlock} {outcome : Except SqlError OperationResult}
      {following : Connection} (present : pool.blocks[index]? = some block)
      (runs : Connection.Runs ⟨pool.committed, block⟩ (facadeSession operation) outcome following) :
      Serves pool index operation outcome
        ⟨following.committed, (pool.blocks.map
          (TransactionBlock.rebase pool.committed following.committed)).set index following.block⟩

/-- The pools that operations reach one after another. -/
inductive Pool.Reached (allowed : Tables → Operation → Prop) (initial : Pool) : Pool → Prop where
  | initial : Reached allowed initial initial
  | serve {pool following : Pool} {index : Nat} {operation : Operation}
      {outcome : Except SqlError OperationResult} (reached : Reached allowed initial pool)
      (permitted : allowed pool.committed operation)
      (served : pool.Serves index operation outcome following) : Reached allowed initial following

end Pool
end Meadowlark.Postgres
