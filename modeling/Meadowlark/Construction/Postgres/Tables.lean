import Meadowlark.Construction.Authorization.Message
import Meadowlark.Construction.Core.Message
import Meadowlark.Systems.Program

namespace Meadowlark.Postgres
open Meadowlark.Core Systems Authorization

/-- The conversions that the server applies to the values of a column.
A rejected value raises an error. -/
class ColumnTypes where
  uuidInput : String → Option DocumentUuid
  uuidInput_output {text : String} {documentUuid : DocumentUuid} :
    uuidInput text = some documentUuid → uuidInput documentUuid.value = some documentUuid
  jsonbInput : Json → Option Json

/-- A row of the documents table. -/
structure MeadowlarkDocument where
  meadowlarkId : MeadowlarkId
  documentUuid : DocumentUuid
  documentIdentity : DocumentIdentity
  projectName : String
  resourceName : String
  resourceVersion : String
  isDescriptor : Bool
  validated : Bool
  createdBy : String
  edfiDoc : Json
  createdAt : Int
  lastModifiedAt : Int
  deriving DecidableEq

/-- A row of the aliases table. -/
structure AliasRow where
  documentUuid : DocumentUuid
  meadowlarkId : MeadowlarkId
  aliasMeadowlarkId : MeadowlarkId
  deriving DecidableEq

/-- A row of the references table. -/
structure ReferenceRow where
  parentMeadowlarkId : MeadowlarkId
  referencedMeadowlarkId : MeadowlarkId
  deriving DecidableEq

/-- A row of the authorizations table. -/
structure AuthorizationDocument where
  clientId : String
  clientSecretHashed : String
  clientName : String
  roles : List AuthorizationClientRole
  isBootstrapAdmin : Bool
  active : Bool
  deriving DecidableEq

/-- The unique indexes belong to the documents table. -/
structure Tables where
  documents : List MeadowlarkDocument
  aliases : List AliasRow
  references : List ReferenceRow
  authorizations : List AuthorizationDocument
  uniqueIds : (documents.map (·.meadowlarkId)).Nodup
  uniqueUuids : (documents.map (·.documentUuid)).Nodup

def Tables.empty : Tables := ⟨[], [], [], [], List.nodup_nil, List.nodup_nil⟩

/-- The client throws an error with a message. -/
structure SqlError where
  message : String
  deriving DecidableEq

def uniqueViolation : SqlError := ⟨"duplicate key value violates unique constraint"⟩

def invalidInput : SqlError := ⟨"invalid input syntax"⟩

def valueTooLong : SqlError := ⟨"value too long for type character varying"⟩

def transactionAborted : SqlError :=
  ⟨"current transaction is aborted, commands ignored until end of transaction block"⟩

/-- The statements that the helper functions send. -/
inductive Statement where
  | begin
  | rollback
  | commit
  | findReferencingMeadowlarkIds (referencedMeadowlarkIds : List MeadowlarkId)
  | findAliasMeadowlarkIdsForDocumentByDocumentUuid (documentUuid : DocumentUuid)
  | findAliasMeadowlarkId (meadowlarkId : MeadowlarkId)
  | findDocumentByMeadowlarkId (meadowlarkId : MeadowlarkId)
  | findDocumentByDocumentUuid (documentUuid : DocumentUuid)
  | validateReferenceExistence (meadowlarkIds : List MeadowlarkId)
  | findReferringDocumentInfo (referringMeadowlarkIds : List MeadowlarkId)
  | insertAlias (documentUuid : DocumentUuid) (meadowlarkId aliasId : MeadowlarkId)
  | insertOutboundReferences (meadowlarkId referencedMeadowlarkId : MeadowlarkId)
  | updateDocument (updateRequest : UpdateRequest)
  | insertDocument (updateRequest : UpdateRequest)
  | deleteDocumentRow (documentUuid : DocumentUuid)
  | deleteOutboundReferences (meadowlarkId : MeadowlarkId)
  | deleteAliases (meadowlarkId : MeadowlarkId)
  | insertOrUpdateAuthorization (authorizationClient : AuthorizationDocument)
  | getAuthorizationClientDocumentList
  | getAuthorizationClientDocumentById (clientId : String)
  | resetAuthorizationClientSecret (clientId : Option String) (clientSecretHashed : String)
  | checkBootstrapAdminExists
  | updateAuthorizationClient (clientId : Option String) (clientName : String)
      (roles : List AuthorizationClientRole) (active : Bool)
  deriving DecidableEq

/-- A statement without a result set answers with the number of rows it touched. -/
abbrev Statement.Rows : Statement → Type
  | .begin => Unit
  | .rollback => Unit
  | .commit => Unit
  | .findReferencingMeadowlarkIds _ => List MeadowlarkId
  | .findAliasMeadowlarkIdsForDocumentByDocumentUuid _ => List AliasRow
  | .findAliasMeadowlarkId _ => List MeadowlarkId
  | .findDocumentByMeadowlarkId _ => List MeadowlarkDocument
  | .findDocumentByDocumentUuid _ => List MeadowlarkDocument
  | .validateReferenceExistence _ => List MeadowlarkId
  | .findReferringDocumentInfo _ => List MeadowlarkDocument
  | .getAuthorizationClientDocumentList => List AuthorizationDocument
  | .getAuthorizationClientDocumentById _ => List AuthorizationDocument
  | _ => Nat

abbrev Statement.Answer (statement : Statement) : Type := Except SqlError statement.Rows

section Meaning

/-- The written documents pass the unique indexes or the statement fails. -/
def Tables.withDocuments (tables : Tables) (documents : List MeadowlarkDocument) :
    Except SqlError Tables :=
  if unique : (documents.map (·.meadowlarkId)).Nodup ∧ (documents.map (·.documentUuid)).Nodup then
    .ok { tables with documents := documents, uniqueIds := unique.1, uniqueUuids := unique.2 }
  else .error uniqueViolation

variable [ColumnTypes]

def uuidColumn (documentUuid : DocumentUuid) : Except SqlError DocumentUuid :=
  match ColumnTypes.uuidInput documentUuid.value with
  | some converted => .ok converted
  | none => .error invalidInput

/-- The new form of a document row keeps its uuid and its creation time. -/
def documentRow (updateRequest : UpdateRequest) (documentUuid : DocumentUuid) (createdAt : Int) :
    Except SqlError MeadowlarkDocument :=
  if updateRequest.meadowlarkId.value.length > 56 ∨ updateRequest.security.clientId.length > 100 then
    .error valueTooLong
  else
    match ColumnTypes.jsonbInput updateRequest.edfiDoc with
    | none => .error invalidInput
    | some edfiDoc => .ok
        { meadowlarkId := updateRequest.meadowlarkId
          documentUuid := documentUuid
          documentIdentity := updateRequest.documentInfo.documentIdentity
          projectName := updateRequest.resourceInfo.projectName
          resourceName := updateRequest.resourceInfo.resourceName
          resourceVersion := updateRequest.resourceInfo.resourceVersion
          isDescriptor := updateRequest.resourceInfo.isDescriptor
          validated := updateRequest.validateDocumentReferencesExist
          createdBy := updateRequest.security.clientId
          edfiDoc := edfiDoc
          createdAt := createdAt
          lastModifiedAt := updateRequest.documentInfo.requestTimestamp }

/-- The update rewrites the row that its uuid names. -/
def updateRow (updateRequest : UpdateRequest) (documentUuid : DocumentUuid)
    (existing : MeadowlarkDocument) : Except SqlError MeadowlarkDocument :=
  if existing.documentUuid = documentUuid then
    documentRow updateRequest documentUuid existing.createdAt
  else .ok existing

def Tables.updateDocument (tables : Tables) (updateRequest : UpdateRequest)
    (documentUuid : DocumentUuid) : Except SqlError Tables := do
  let documents ← tables.documents.mapM (updateRow updateRequest documentUuid)
  tables.withDocuments documents

def Tables.insertDocument (tables : Tables) (updateRequest : UpdateRequest)
    (documentUuid : DocumentUuid) : Except SqlError Tables := do
  let row ← documentRow updateRequest documentUuid updateRequest.documentInfo.requestTimestamp
  tables.withDocuments (tables.documents ++ [row])

def Tables.deleteDocument (tables : Tables) (documentUuid : DocumentUuid) : Tables :=
  { tables with
    documents := tables.documents.filter (·.documentUuid ≠ documentUuid)
    uniqueIds := tables.uniqueIds.sublist (List.filter_sublist.map _)
    uniqueUuids := tables.uniqueUuids.sublist (List.filter_sublist.map _) }

/-- The meaning of one statement on the tables that it sees. -/
def execute : (statement : Statement) → Tables → Except SqlError (Tables × statement.Rows)
  | .begin, tables => .ok (tables, ())
  | .rollback, tables => .ok (tables, ())
  | .commit, tables => .ok (tables, ())
  | .findReferencingMeadowlarkIds referencedMeadowlarkIds, tables =>
      .ok (tables, (tables.references.filter (·.referencedMeadowlarkId ∈ referencedMeadowlarkIds)).map
        (·.parentMeadowlarkId))
  | .findAliasMeadowlarkIdsForDocumentByDocumentUuid documentUuid, tables => do
      let documentUuid ← uuidColumn documentUuid
      pure (tables, tables.aliases.filter (·.documentUuid = documentUuid))
  | .findAliasMeadowlarkId meadowlarkId, tables =>
      .ok (tables, (tables.aliases.filter (·.aliasMeadowlarkId = meadowlarkId)).map
        (·.aliasMeadowlarkId))
  | .findDocumentByMeadowlarkId meadowlarkId, tables =>
      .ok (tables, tables.documents.filter (·.meadowlarkId = meadowlarkId))
  | .findDocumentByDocumentUuid documentUuid, tables => do
      let documentUuid ← uuidColumn documentUuid
      pure (tables, tables.documents.filter (·.documentUuid = documentUuid))
  | .validateReferenceExistence meadowlarkIds, tables =>
      .ok (tables, (tables.aliases.filter (·.aliasMeadowlarkId ∈ meadowlarkIds)).map
        (·.aliasMeadowlarkId))
  | .findReferringDocumentInfo referringMeadowlarkIds, tables =>
      .ok (tables, (tables.documents.filter (·.meadowlarkId ∈ referringMeadowlarkIds)).take 5)
  | .insertAlias documentUuid meadowlarkId aliasId, tables => do
      let documentUuid ← uuidColumn documentUuid
      pure ({ tables with aliases := tables.aliases ++ [⟨documentUuid, meadowlarkId, aliasId⟩] }, (1 : Nat))
  | .insertOutboundReferences meadowlarkId referencedMeadowlarkId, tables =>
      .ok ({ tables with
        references := tables.references ++ [⟨meadowlarkId, referencedMeadowlarkId⟩] }, (1 : Nat))
  | .updateDocument updateRequest, tables => do
      let documentUuid ← uuidColumn updateRequest.documentUuid
      let following ← tables.updateDocument updateRequest documentUuid
      pure (following, tables.documents.countP (·.documentUuid = documentUuid))
  | .insertDocument updateRequest, tables => do
      let documentUuid ← uuidColumn updateRequest.documentUuid
      let following ← tables.insertDocument updateRequest documentUuid
      pure (following, (1 : Nat))
  | .deleteDocumentRow documentUuid, tables => do
      let documentUuid ← uuidColumn documentUuid
      pure (tables.deleteDocument documentUuid,
        tables.documents.countP (·.documentUuid = documentUuid))
  | .deleteOutboundReferences meadowlarkId, tables =>
      .ok ({ tables with
          references := tables.references.filter (·.parentMeadowlarkId ≠ meadowlarkId) },
        tables.references.countP (·.parentMeadowlarkId = meadowlarkId))
  | .deleteAliases meadowlarkId, tables =>
      .ok ({ tables with aliases := tables.aliases.filter (·.meadowlarkId ≠ meadowlarkId) },
        tables.aliases.countP (·.meadowlarkId = meadowlarkId))
  | .insertOrUpdateAuthorization authorizationClient, tables =>
      .ok ({ tables with
        authorizations := tables.authorizations.filter
          (·.clientId ≠ authorizationClient.clientId) ++ [authorizationClient] }, (1 : Nat))
  | .getAuthorizationClientDocumentList, tables => .ok (tables, tables.authorizations)
  | .getAuthorizationClientDocumentById clientId, tables =>
      .ok (tables, tables.authorizations.filter (·.clientId = clientId))
  | .resetAuthorizationClientSecret clientId clientSecretHashed, tables =>
      .ok ({ tables with
          authorizations := tables.authorizations.map fun client =>
            if some client.clientId = clientId then
              { client with clientSecretHashed := clientSecretHashed }
            else client },
        tables.authorizations.countP (some ·.clientId = clientId))
  | .checkBootstrapAdminExists, tables =>
      .ok (tables, tables.authorizations.countP (·.isBootstrapAdmin))
  | .updateAuthorizationClient clientId clientName roles active, tables =>
      .ok ({ tables with
          authorizations := tables.authorizations.map fun client =>
            if some client.clientId = clientId then
              { client with clientName := clientName, roles := roles, active := active }
            else client },
        tables.authorizations.countP (some ·.clientId = clientId))

end Meaning

/-- A transaction block stays open until it is committed or rolled back.
An error inside the block makes every later statement fail. -/
inductive TransactionBlock where
  | idle
  | active (tables : Tables)
  | failed

/-- A connection sees the committed tables through its own transaction block. -/
structure Connection where
  committed : Tables
  block : TransactionBlock

section Connections
variable [ColumnTypes]

/-- The answer to one statement that is sent while no other connection is in use. -/
def Connection.send (connection : Connection) (statement : Statement) :
    statement.Answer × Connection :=
  match statement, connection.block with
  | .begin, .idle => (.ok (), { connection with block := .active connection.committed })
  | .begin, .active _ => (.ok (), connection)
  | .commit, .active tables => (.ok (), ⟨tables, .idle⟩)
  | .commit, _ => (.ok (), { connection with block := .idle })
  | .rollback, _ => (.ok (), { connection with block := .idle })
  | _, .failed => (.error transactionAborted, connection)
  | statement, .idle =>
      match execute statement connection.committed with
      | .ok (tables, rows) => (.ok rows, { connection with committed := tables })
      | .error error => (.error error, connection)
  | statement, .active tables =>
      match execute statement tables with
      | .ok (following, rows) => (.ok rows, { connection with block := .active following })
      | .error error => (.error error, { connection with block := .failed })

end Connections

/-- A repository function is a program over statements that can throw an error. -/
abbrev Session := ExceptT SqlError (Program Statement Statement.Answer)

/-- The client sends one statement and waits for its answer. -/
def query (statement : Statement) : Session statement.Rows :=
  ExceptT.mk (Program.request statement)

section Run
variable [ColumnTypes]

def Connection.handler (statement : Statement) : StateM Connection statement.Answer :=
  fun connection => connection.send statement

/-- A program runs on one connection while no other program runs. -/
def Connection.run {A : Type} (connection : Connection) (program : Session A) :
    Except SqlError A × Connection :=
  program.run.interpret Connection.handler connection

end Run
end Meadowlark.Postgres
