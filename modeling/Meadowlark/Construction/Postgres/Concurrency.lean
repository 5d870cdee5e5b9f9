import Meadowlark.Construction.Postgres.Backend
import Meadowlark.Systems.RowVersions

namespace Meadowlark.Postgres
open Meadowlark.Core Systems

section Statements

/-- The tables with the rows that open transactions have written. -/
structure Database where
  documents : Versions MeadowlarkDocument
  aliases : Versions AliasRow
  references : Versions ReferenceRow
  authorizations : Versions AuthorizationDocument

def Database.ofTables (tables : Tables) : Database where
  documents := .ofRows tables.documents
  aliases := .ofRows tables.aliases
  references := .ofRows tables.references
  authorizations := .ofRows tables.authorizations

def Database.commit (transaction : Nat) (database : Database) : Database where
  documents := database.documents.commit transaction
  aliases := database.aliases.commit transaction
  references := database.references.commit transaction
  authorizations := database.authorizations.commit transaction

def Database.abort (transaction : Nat) (database : Database) : Database where
  documents := database.documents.abort transaction
  aliases := database.aliases.abort transaction
  references := database.references.abort transaction
  authorizations := database.authorizations.abort transaction

/-- A statement waits for another transaction, or it throws, or it answers. -/
abbrev Waiting := ExceptT SqlError Option

def lockNotAvailable : SqlError := ⟨"could not obtain lock on row in relation"⟩

def checked {A : Type} (outcome : Except SqlError A) : Waiting A := ExceptT.mk (some outcome)

def awaited {A : Type} (outcome : Option A) : Waiting A := ExceptT.mk (outcome.map .ok)

/-- A read for a lock throws where another transaction holds a row. -/
def nowait {A : Type} (outcome : Option A) : Waiting A :=
  match outcome with
  | some value => pure value
  | none => throw lockNotAvailable

/-- Both unique indexes of the documents table accept the row. -/
def uniqueRow (transaction : Nat) (documents : Versions MeadowlarkDocument)
    (row : MeadowlarkDocument) : Waiting Unit :=
  match documents.uniqueness transaction (·.meadowlarkId = row.meadowlarkId),
    documents.uniqueness transaction (·.documentUuid = row.documentUuid) with
  | .free, .free => pure ()
  | .taken, _ => throw uniqueViolation
  | _, .taken => throw uniqueViolation
  | _, _ => awaited none

def insertRows (transaction : Nat) :
    List MeadowlarkDocument → Versions MeadowlarkDocument → Waiting (Versions MeadowlarkDocument)
  | [], documents => pure documents
  | row :: rest, documents => do
      uniqueRow transaction documents row
      insertRows transaction rest (documents.insert transaction row)

variable [ColumnTypes]

def Database.updateDocument (transaction : Nat) (updateRequest : UpdateRequest)
    (database : Database) : Waiting (Database × Nat) := do
  let documentUuid ← checked (uuidColumn updateRequest.documentUuid)
  let existing := (database.documents.rows transaction).filter (·.documentUuid = documentUuid)
  let documents ← awaited (database.documents.remove transaction (·.documentUuid = documentUuid))
  let rows ← checked
    (existing.mapM fun document => documentRow updateRequest documentUuid document.createdAt)
  let documents ← insertRows transaction rows documents
  pure ({ database with documents := documents }, existing.length)

def Database.insertDocument (transaction : Nat) (updateRequest : UpdateRequest)
    (database : Database) : Waiting (Database × Nat) := do
  let documentUuid ← checked (uuidColumn updateRequest.documentUuid)
  let row ← checked
    (documentRow updateRequest documentUuid updateRequest.documentInfo.requestTimestamp)
  let documents ← insertRows transaction [row] database.documents
  pure ({ database with documents := documents }, 1)

def Database.deleteDocument (transaction : Nat) (documentUuid : DocumentUuid)
    (database : Database) : Waiting (Database × Nat) := do
  let documentUuid ← checked (uuidColumn documentUuid)
  let existing := (database.documents.rows transaction).filter (·.documentUuid = documentUuid)
  let documents ← awaited (database.documents.remove transaction (·.documentUuid = documentUuid))
  pure ({ database with documents := documents }, existing.length)

/-- A client row is replaced by another one with the same id. -/
def Database.updateAuthorization (transaction : Nat) (clientId : Option String)
    (change : AuthorizationDocument → AuthorizationDocument) (database : Database) :
    Waiting (Database × Nat) := do
  let existing := (database.authorizations.rows transaction).filter (some ·.clientId = clientId)
  let authorizations ← awaited
    (database.authorizations.remove transaction (some ·.clientId = clientId))
  let rewritten := (existing.map change).foldl (fun versions row => versions.insert transaction row)
    authorizations
  pure ({ database with authorizations := rewritten }, existing.length)

/-- The insert of a client that exists rewrites its row. -/
def Database.insertOrUpdateAuthorization (transaction : Nat)
    (authorizationClient : AuthorizationDocument) (database : Database) :
    Waiting (Database × Nat) := do
  let authorizations ← awaited
    (database.authorizations.remove transaction (·.clientId = authorizationClient.clientId))
  match authorizations.uniqueness transaction (·.clientId = authorizationClient.clientId) with
  | .free => pure ({ database with
      authorizations := authorizations.insert transaction authorizationClient }, 1)
  | _ => awaited none

/-- The meaning of one statement of a transaction on the versions that are there. -/
def Database.perform (transaction : Nat) :
    (statement : Statement) → Database → Waiting (Database × statement.Rows)
  | .begin, database => pure (database, ())
  | .rollback, database => pure (database, ())
  | .commit, database => pure (database, ())
  | .findReferencingMeadowlarkIds referencedMeadowlarkIds, database =>
      pure (database, ((database.references.rows transaction).filter
        (·.referencedMeadowlarkId ∈ referencedMeadowlarkIds)).map (·.parentMeadowlarkId))
  | .findAliasMeadowlarkIdsForDocumentByDocumentUuid documentUuid, database => do
      let documentUuid ← checked (uuidColumn documentUuid)
      let aliases ← nowait
        (database.aliases.lock transaction .share (·.documentUuid = documentUuid))
      pure ({ database with aliases := aliases },
        (database.aliases.rows transaction).filter (·.documentUuid = documentUuid))
  | .findAliasMeadowlarkId meadowlarkId, database =>
      pure (database, ((database.aliases.rows transaction).filter
        (·.aliasMeadowlarkId = meadowlarkId)).map (·.aliasMeadowlarkId))
  | .findDocumentByMeadowlarkId meadowlarkId, database =>
      pure (database, (database.documents.rows transaction).filter
        (·.meadowlarkId = meadowlarkId))
  | .findDocumentByDocumentUuid documentUuid, database => do
      let documentUuid ← checked (uuidColumn documentUuid)
      pure (database, (database.documents.rows transaction).filter
        (·.documentUuid = documentUuid))
  | .validateReferenceExistence meadowlarkIds, database => do
      let aliases ← nowait
        (database.aliases.lock transaction .noKeyUpdate (·.aliasMeadowlarkId ∈ meadowlarkIds))
      pure ({ database with aliases := aliases }, ((database.aliases.rows transaction).filter
        (·.aliasMeadowlarkId ∈ meadowlarkIds)).map (·.aliasMeadowlarkId))
  | .findReferringDocumentInfo referringMeadowlarkIds, database =>
      pure (database, ((database.documents.rows transaction).filter
        (·.meadowlarkId ∈ referringMeadowlarkIds)).take 5)
  | .insertAlias documentUuid meadowlarkId aliasId, database => do
      let documentUuid ← checked (uuidColumn documentUuid)
      pure ({ database with
        aliases := database.aliases.insert transaction ⟨documentUuid, meadowlarkId, aliasId⟩ },
        (1 : Nat))
  | .insertOutboundReferences meadowlarkId referencedMeadowlarkId, database =>
      pure ({ database with references :=
        database.references.insert transaction ⟨meadowlarkId, referencedMeadowlarkId⟩ }, (1 : Nat))
  | .updateDocument updateRequest, database => database.updateDocument transaction updateRequest
  | .insertDocument updateRequest, database => database.insertDocument transaction updateRequest
  | .deleteDocumentRow documentUuid, database => database.deleteDocument transaction documentUuid
  | .deleteOutboundReferences meadowlarkId, database => do
      let references ← awaited
        (database.references.remove transaction (·.parentMeadowlarkId = meadowlarkId))
      pure ({ database with references := references },
        (database.references.rows transaction).countP (·.parentMeadowlarkId = meadowlarkId))
  | .deleteAliases meadowlarkId, database => do
      let aliases ← awaited
        (database.aliases.remove transaction (·.meadowlarkId = meadowlarkId))
      pure ({ database with aliases := aliases },
        (database.aliases.rows transaction).countP (·.meadowlarkId = meadowlarkId))
  | .insertOrUpdateAuthorization authorizationClient, database =>
      database.insertOrUpdateAuthorization transaction authorizationClient
  | .getAuthorizationClientDocumentList, database =>
      pure (database, database.authorizations.rows transaction)
  | .getAuthorizationClientDocumentById clientId, database =>
      pure (database, (database.authorizations.rows transaction).filter (·.clientId = clientId))
  | .resetAuthorizationClientSecret clientId clientSecretHashed, database =>
      database.updateAuthorization transaction clientId fun client =>
        { client with clientSecretHashed := clientSecretHashed }
  | .checkBootstrapAdminExists, database =>
      pure (database, (database.authorizations.rows transaction).countP (·.isBootstrapAdmin))
  | .updateAuthorizationClient clientId clientName roles active, database =>
      database.updateAuthorization transaction clientId fun client =>
        { client with clientName := clientName, roles := roles, active := active }

end Statements

section Callers
variable [ColumnTypes]

inductive CallBlock where
  | idle
  | active
  | failed

/-- The answer to one statement, or none while it waits.
An error ends the transaction at once, and the block stays until it is rolled back. -/
def Database.send (transaction : Nat) (statement : Statement) (block : CallBlock)
    (database : Database) : Option (statement.Answer × CallBlock × Database) :=
  match statement, block with
  | .begin, .idle => some (.ok (), .active, database)
  | .begin, .active => some (.ok (), .active, database)
  | .commit, _ => some (.ok (), .idle, database.commit transaction)
  | .rollback, _ => some (.ok (), .idle, database.abort transaction)
  | _, .failed => some (.error transactionAborted, .failed, database)
  | statement, .active =>
      match (database.perform transaction statement).run with
      | none => none
      | some (.error error) => some (.error error, .failed, database.abort transaction)
      | some (.ok (following, rows)) => some (.ok rows, .active, following)
  | statement, .idle =>
      match (database.perform transaction statement).run with
      | none => none
      | some (.error error) => some (.error error, .idle, database)
      | some (.ok (following, rows)) => some (.ok rows, .idle, following.commit transaction)

/-- A call on its own connection, with the statements that were answered. -/
structure Caller where
  call : RepositoryCall
  block : CallBlock
  history : List ((statement : Statement) × statement.Answer)
  rest : Program Statement Statement.Answer (Except SqlError RepositoryResult)

/-- The calls that share a database. The index of a call names its transaction. -/
structure Clients where
  database : Database
  callers : List Caller

def Clients.start (tables : Tables) : Clients := ⟨.ofTables tables, []⟩

def Caller.answered (caller : Caller) (block : CallBlock) (statement : Statement)
    (answer : statement.Answer)
    (rest : Program Statement Statement.Answer (Except SqlError RepositoryResult)) : Caller where
  call := caller.call
  block := block
  history := ⟨statement, answer⟩ :: caller.history
  rest := rest

def CallBlock.abort : CallBlock → CallBlock
  | .active => .failed
  | block => block

variable [NodeRuntime]

/-- One call arrives, or the next statement of one call is answered or throws. -/
inductive Clients.Step (permitted : RepositoryCall → Prop) : Clients → Clients → Prop where
  | arrive {clients : Clients} {call : RepositoryCall} (allowed : permitted call) :
      Step permitted clients
        ⟨clients.database, clients.callers ++ [⟨call, .idle, [], (repositorySession call).run⟩]⟩
  | sent {clients : Clients} {index : Nat} {caller : Caller} {statement : Statement}
      {next : statement.Answer → Program Statement Statement.Answer (Except SqlError RepositoryResult)}
      {answer : statement.Answer} {block : CallBlock} {database : Database}
      (present : clients.callers[index]? = some caller) (pending : caller.rest = .call statement next)
      (sent : clients.database.send index statement caller.block = some (answer, block, database)) :
      Step permitted clients
        ⟨database, clients.callers.set index (caller.answered block statement answer (next answer))⟩
  | lost {clients : Clients} {index : Nat} {caller : Caller} {statement : Statement}
      {next : statement.Answer → Program Statement Statement.Answer (Except SqlError RepositoryResult)}
      (error : SqlError) (present : clients.callers[index]? = some caller)
      (pending : caller.rest = .call statement next) :
      Step permitted clients
        ⟨clients.database, clients.callers.set index
          (caller.answered caller.block statement (.error error) (next (.error error)))⟩
  | rejected {clients : Clients} {index : Nat} {caller : Caller} {statement : Statement}
      {next : statement.Answer → Program Statement Statement.Answer (Except SqlError RepositoryResult)}
      (error : SqlError) (present : clients.callers[index]? = some caller)
      (pending : caller.rest = .call statement next) :
      Step permitted clients
        ⟨clients.database.abort index, clients.callers.set index
          (caller.answered caller.block.abort statement (.error error) (next (.error error)))⟩

/-- The states that calls reach in any interleaving of steps as described. -/
inductive Clients.Reached (permitted : RepositoryCall → Prop) (orderly : Clients → Clients → Prop)
    (tables : Tables) : Clients → Prop where
  | start : Reached permitted orderly tables (.start tables)
  | step {clients following : Clients} (reached : Reached permitted orderly tables clients)
      (step : clients.Step permitted following) (kept : orderly clients following) :
      Reached permitted orderly tables following

end Callers
end Meadowlark.Postgres
