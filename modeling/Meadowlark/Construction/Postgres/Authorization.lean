import Meadowlark.Construction.Authorization.ReadHandlers
import Meadowlark.Construction.Postgres.Ownership
import Meadowlark.Systems.Interleaving

namespace Meadowlark.Postgres
open Meadowlark.Core Systems Authorization

def authorizationDocumentFromCreate (request : CreateAuthorizationClientRequest)
    (isBootstrapAdmin : Bool) : AuthorizationDocument where
  clientId := request.clientId
  clientSecretHashed := request.clientSecretHashed
  clientName := request.clientName
  roles := request.roles
  active := request.active
  isBootstrapAdmin := isBootstrapAdmin

def bootstrapAdminDocumentFromCreate (request : CreateAuthorizationClientRequest) :
    AuthorizationDocument := authorizationDocumentFromCreate request true

/-- A failed insert is rolled back, and the commit follows in any case. -/
def tryCreateAuthorizationClientDocument (request : CreateAuthorizationClientRequest) :
    Session CreateAuthorizationClientResult := do
  beginTransaction
  let hasResults ← insertOrUpdateAuthorization (authorizationDocumentFromCreate request false)
  if hasResults then do
    commitTransaction
    pure .createSuccess
  else do
    rollbackTransaction
    commitTransaction
    pure .unknownFailure

def createAuthorizationClientDocument (request : CreateAuthorizationClientRequest) :
    Session CreateAuthorizationClientResult :=
  tryCatch (tryCreateAuthorizationClientDocument request) fun _ => do
    rollbackTransaction
    pure .unknownFailure

/-- The operations below open no transaction of their own. -/
def tryCreateBootstrapAdmin (request : CreateAuthorizationClientRequest) :
    Session TryCreateBootstrapAuthorizationAdminResult := do
  let bootstrapAdminExists ← checkBootstrapAdminExists
  if bootstrapAdminExists then pure .createFailureAlreadyExists
  else do
    let insertResult ← insertBootstrapAdmin (bootstrapAdminDocumentFromCreate request)
    pure (if insertResult then .createSuccess else .unknownFailure)

def tryCreateBootstrapAuthorizationAdminDocument (request : CreateAuthorizationClientRequest) :
    Session TryCreateBootstrapAuthorizationAdminResult :=
  tryCatch (tryCreateBootstrapAdmin request) fun _ => pure .unknownFailure

def getAuthorizationClientDocument (request : GetAuthorizationClientRequest) :
    Session GetAuthorizationClientResult :=
  tryCatch
    (do
      let authorizationClientResult ← getAuthorizationClientDocumentById request.clientId
      pure (match authorizationClientResult with
        | none => .getFailureNotExists
        | some client =>
            .getSuccess client.clientSecretHashed client.clientName (some client.active)
              client.roles))
    fun _ => pure .unknownFailure

def getAllAuthorizationClientDocuments : Session GetAllAuthorizationClientsResult :=
  tryCatch
    (do
      let clients ← getAuthorizationClientDocumentList
      pure (if clients = [] then .getFailureNotExists
        else .getSuccess (clients.map fun client =>
          ⟨client.clientId, client.clientName, some client.active, client.roles⟩)))
    fun _ => pure .unknownFailure

def updateAuthorizationClientDocument (request : UpdateAuthorizationClientRequest) :
    Session UpdateAuthorizationClientResult :=
  tryCatch
    (do
      let updated ← updateAuthorizationClientDocumentByClientId request.clientId request.clientName
        request.roles request.active
      pure (if updated then .updateSuccess else .updateFailedNotExists))
    fun _ => pure .unknownFailure

def resetAuthorizationClientSecret (request : ResetAuthorizationClientSecretRequest) :
    Session ResetAuthorizationClientSecretResult :=
  tryCatch
    (do
      let reset ← resetAuthorizationClientSecretByClientId request.clientId
        request.clientSecretHashed
      pure (if reset then .resetSuccess else .resetFailedNotExists))
    fun _ => pure .unknownFailure

/-- An error that a repository function does not catch reaches the server. -/
def throwing {A : Type} (outcome : Except SqlError A) : Except Exception A :=
  outcome.mapError fun error => ⟨"error", error.message, none⟩

/-- A call of the server runs a repository function or draws from a generator. -/
def callSession (entropy : Entropy) :
    (call : AuthorizationCall) → Program Statement Statement.Answer call.Answer
  | .createAuthorizationClient request =>
      throwing <$> (createAuthorizationClientDocument request).run
  | .tryCreateBootstrapAuthorizationAdmin request =>
      throwing <$> (tryCreateBootstrapAuthorizationAdminDocument request).run
  | .getAuthorizationClient request => throwing <$> (getAuthorizationClientDocument request).run
  | .updateAuthorizationClient request =>
      throwing <$> (updateAuthorizationClientDocument request).run
  | .resetAuthorizationClientSecret request =>
      throwing <$> (resetAuthorizationClientSecret request).run
  | .newClientId => pure (.ok entropy.clientId)
  | .randomBytes size => pure (.ok (entropy.bytes size))
  | .dateNow => pure (.ok entropy.now)

/-- A statement outside a transaction block commits by itself, unless the client loses it. -/
inductive Tables.Autocommits [ColumnTypes] (statement : Statement) (tables : Tables) :
    statement.Answer → Tables → Prop where
  | sent : Autocommits statement tables (Connection.send ⟨tables, .idle⟩ statement).1
      (Connection.send ⟨tables, .idle⟩ statement).2.committed
  | lost (error : SqlError) : Autocommits statement tables (.error error) tables

/-- The create requests send their statements on connections of their own.
A request without a token opens no transaction block. -/
def createClientHost [NodeRuntime] [ServerLibrary] [TokenLibrary] [ColumnTypes] (config : Config) :
    Host Tables (AuthorizationRequest × Entropy) Statement (Except Exception AuthorizationResponse)
      Statement.Answer where
  program input := (createClient config input.1).run.interpret (callSession input.2)
  awaited _ := true
  serves statement tables := tables.Autocommits statement
  drifts _ _ := False

/-- The authorization functions as they serve one request after another on one connection. -/
def authorizationStore [ColumnTypes] : AuthorizationStore Connection where
  createAuthorizationClient request := serveSession (createAuthorizationClientDocument request)
  tryCreateBootstrapAuthorizationAdmin request :=
    serveSession (tryCreateBootstrapAuthorizationAdminDocument request)
  getAuthorizationClient request := serveSession (getAuthorizationClientDocument request)
  updateAuthorizationClient request := serveSession (updateAuthorizationClientDocument request)
  resetAuthorizationClientSecret request :=
    serveSession (resetAuthorizationClientSecret request)

def clientDirectory [ColumnTypes] : ClientDirectory Connection where
  toAuthorizationStore := authorizationStore
  getAllAuthorizationClients _ := serveSession getAllAuthorizationClientDocuments

end Meadowlark.Postgres
