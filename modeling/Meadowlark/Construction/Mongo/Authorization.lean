import Meadowlark.Construction.Authorization.ReadHandlers
import Meadowlark.Systems.SnapshotIsolation

namespace Meadowlark.Mongo
open Meadowlark.Core Systems Authorization

/-- The stored form of a client; its id replaces the built-in key of the collection.
The driver stores an undefined flag as null. -/
structure AuthorizationDocument where
  id : String
  clientSecretHashed : String
  clientName : String
  roles : List AuthorizationClientRole
  isBootstrapAdmin : Bool
  active : Option Bool
  deriving DecidableEq

instance : Keyed AuthorizationDocument String where
  key := AuthorizationDocument.id

@[simp] theorem key_authorizationDocument (authorizationClient : AuthorizationDocument) :
    key authorizationClient = authorizationClient.id := rfl

def authorizationDocumentFromCreate (request : CreateAuthorizationClientRequest)
    (isBootstrapAdmin : Bool) : AuthorizationDocument where
  id := request.clientId
  clientSecretHashed := request.clientSecretHashed
  clientName := request.clientName
  roles := request.roles
  active := some request.active
  isBootstrapAdmin := isBootstrapAdmin

def bootstrapAdminDocumentFromCreate (request : CreateAuthorizationClientRequest) :
    AuthorizationDocument := authorizationDocumentFromCreate request true

abbrev Clients := Database AuthorizationDocument

section Driver

/-- The driver calls on the authorizations collection. -/
inductive ClientCall where
  | findOne (clientId : String)
  | replaceOne (authorizationClient : AuthorizationDocument)
  | updateOne (clientId : Option String) (clientName : String)
      (roles : List AuthorizationClientRole) (active : Option Bool)
  | updateSecret (clientId : Option String) (clientSecretHashed : String)
  | upsertBootstrapAdmin (authorizationClient : AuthorizationDocument)
  deriving DecidableEq

structure ClientUpdateAnswer where
  acknowledged : Bool
  matchedCount : Nat
  deriving DecidableEq

structure ClientUpsertAnswer where
  acknowledged : Bool
  upsertedCount : Nat
  deriving DecidableEq

abbrev ClientCall.Answer : ClientCall → Type
  | .findOne _ => Option AuthorizationDocument
  | .replaceOne _ => Bool
  | .updateOne _ _ _ _ => ClientUpdateAnswer
  | .updateSecret _ _ => ClientUpdateAnswer
  | .upsertBootstrapAdmin _ => ClientUpsertAnswer

/-- A client is looked up outside any session. -/
def ClientCall.inSession : ClientCall → Bool
  | .findOne _ => false
  | _ => true

inductive ClientError where
  | duplicateKey
  deriving DecidableEq

def findClient (clients : Clients) (clientId : Option String) : Option AuthorizationDocument :=
  clients.items.find? fun authorizationClient => some authorizationClient.id = clientId

/-- One client changes, and its id stays. -/
def updateClientDocument (clients : Clients) (clientId : Option String)
    (change : AuthorizationDocument → AuthorizationDocument) :
    Clients × List String × ClientUpdateAnswer :=
  match findClient clients clientId with
  | none => (clients, [], ⟨true, 0⟩)
  | some existing =>
      (clients.put { change existing with id := existing.id }, [existing.id], ⟨true, 1⟩)

/-- The meaning of one call with the keys it writes.
The upsert of the first admin only inserts, and it inserts where no client has the flag. -/
def performClientCall : (call : ClientCall) → Clients →
    Except ClientError (Clients × List String × call.Answer)
  | .findOne clientId, clients => .ok (clients, [], findClient clients (some clientId))
  | .replaceOne authorizationClient, clients =>
      .ok (clients.put authorizationClient, [authorizationClient.id], true)
  | .updateOne clientId clientName roles active, clients =>
      .ok (updateClientDocument clients clientId fun existing =>
        { existing with clientName := clientName, roles := roles, active := active })
  | .updateSecret clientId clientSecretHashed, clients =>
      .ok (updateClientDocument clients clientId fun existing =>
        { existing with clientSecretHashed := clientSecretHashed })
  | .upsertBootstrapAdmin authorizationClient, clients =>
      if clients.items.any (·.isBootstrapAdmin) then .ok (clients, [], ⟨true, 0⟩)
      else
        match clients.insertAll [authorizationClient] with
        | some following => .ok (following, [authorizationClient.id], ⟨true, 1⟩)
        | none => .error .duplicateKey

theorem updateClientDocument_frame {clients following : Clients} {clientId : Option String}
    {change : AuthorizationDocument → AuthorizationDocument} {written : List String}
    {answer : ClientUpdateAnswer} {other : AuthorizationDocument}
    (done : updateClientDocument clients clientId change = (following, written, answer))
    (outside : other.id ∉ written) : other ∈ following.items ↔ other ∈ clients.items := by
  unfold updateClientDocument at done
  split at done
  · cases done
    exact Iff.rfl
  · rename_i existing found
    cases done
    have apart : other.id ≠ existing.id := by simpa using outside
    rw [Database.mem_put]
    constructor
    · rintro (kept | rfl)
      · exact kept.1
      · exact absurd rfl apart
    · exact fun stored => Or.inl ⟨stored, apart⟩

theorem performClientCall_frame {call : ClientCall} {clients following : Clients}
    {written : List String} {answer : call.Answer}
    (done : performClientCall call clients = .ok (following, written, answer))
    (other : AuthorizationDocument) (outside : key other ∉ written) :
    other ∈ following.items ↔ other ∈ clients.items := by
  cases call with
  | findOne clientId =>
      cases done
      exact Iff.rfl
  | replaceOne authorizationClient =>
      cases done
      have apart : other.id ≠ authorizationClient.id := by simpa using outside
      rw [Database.mem_put]
      constructor
      · rintro (kept | rfl)
        · exact kept.1
        · exact absurd rfl apart
      · exact fun stored => Or.inl ⟨stored, apart⟩
  | updateOne clientId clientName roles active =>
      exact updateClientDocument_frame (Except.ok.inj done) outside
  | updateSecret clientId clientSecretHashed =>
      exact updateClientDocument_frame (Except.ok.inj done) outside
  | upsertBootstrapAdmin authorizationClient =>
      simp only [performClientCall] at done
      split at done
      · cases done
        exact Iff.rfl
      · split at done
        · rename_i inserted accepted
          cases done
          rw [Database.insertAll_items accepted, List.mem_append]
          constructor
          · rintro (stored | added)
            · exact stored
            · obtain rfl : other = authorizationClient := by simpa using added
              simp at outside
          · exact Or.inl
        · cases done

def clientDriver : Driver AuthorizationDocument ClientCall ClientCall.Answer ClientError where
  inSession := ClientCall.inSession
  perform := performClientCall
  frame := fun done => performClientCall_frame done

end Driver

section Repository

/-- The transaction functions of the authorization store are programs over the driver calls. -/
abbrev ClientSession := Program ClientCall ClientCall.Answer

def sendClientCall (call : ClientCall) : ClientSession call.Answer := .call call .pure

def createResult (acknowledged : Bool) : CreateAuthorizationClientResult :=
  if acknowledged then .createSuccess else .unknownFailure

def createAuthorizationClientTransaction (request : CreateAuthorizationClientRequest) :
    ClientSession CreateAuthorizationClientResult :=
  createResult <$> sendClientCall (.replaceOne (authorizationDocumentFromCreate request false))

def bootstrapResult (answer : ClientUpsertAnswer) : TryCreateBootstrapAuthorizationAdminResult :=
  if answer.acknowledged then
    if answer.upsertedCount = 1 then .createSuccess else .createFailureAlreadyExists
  else .unknownFailure

def tryCreateBootstrapAuthorizationAdminTransaction (request : CreateAuthorizationClientRequest) :
    ClientSession TryCreateBootstrapAuthorizationAdminResult :=
  bootstrapResult <$>
    sendClientCall (.upsertBootstrapAdmin (bootstrapAdminDocumentFromCreate request))

def updateResult (answer : ClientUpdateAnswer) : UpdateAuthorizationClientResult :=
  if answer.acknowledged ∧ answer.matchedCount = 0 then .updateFailedNotExists
  else if answer.acknowledged ∧ answer.matchedCount > 0 then .updateSuccess
  else .unknownFailure

def updateAuthorizationClientTransaction (request : UpdateAuthorizationClientRequest) :
    ClientSession UpdateAuthorizationClientResult :=
  updateResult <$> sendClientCall
    (.updateOne request.clientId request.clientName request.roles request.active)

def resetResult (answer : ClientUpdateAnswer) : ResetAuthorizationClientSecretResult :=
  if answer.acknowledged ∧ answer.matchedCount = 0 then .resetFailedNotExists
  else if answer.acknowledged ∧ answer.matchedCount > 0 then .resetSuccess
  else .unknownFailure

def resetAuthorizationClientSecretTransaction (request : ResetAuthorizationClientSecretRequest) :
    ClientSession ResetAuthorizationClientSecretResult :=
  resetResult <$> sendClientCall (.updateSecret request.clientId request.clientSecretHashed)

def getResult : Option AuthorizationDocument → GetAuthorizationClientResult
  | none => .getFailureNotExists
  | some client =>
      .getSuccess client.clientSecretHashed client.clientName client.active client.roles

def getAuthorizationClientDocument (request : GetAuthorizationClientRequest) :
    ClientSession GetAuthorizationClientResult :=
  getResult <$> sendClientCall (.findOne request.clientId)

/-- A call of the server runs a transaction function or draws from a generator. -/
def callSession (entropy : Entropy) : (call : AuthorizationCall) → ClientSession call.Answer
  | .createAuthorizationClient request => .ok <$> createAuthorizationClientTransaction request
  | .tryCreateBootstrapAuthorizationAdmin request =>
      .ok <$> tryCreateBootstrapAuthorizationAdminTransaction request
  | .getAuthorizationClient request => .ok <$> getAuthorizationClientDocument request
  | .updateAuthorizationClient request => .ok <$> updateAuthorizationClientTransaction request
  | .resetAuthorizationClientSecret request =>
      .ok <$> resetAuthorizationClientSecretTransaction request
  | .newClientId => pure (.ok entropy.clientId)
  | .randomBytes size => pure (.ok (entropy.bytes size))
  | .dateNow => pure (.ok entropy.now)

/-- A transaction that runs alone commits, unless a call throws. -/
def runClientSession {Result : Type} (failure : Result) (program : ClientSession Result)
    (clients : Clients) : Except Exception Result × Clients :=
  match program.interpret (clientDriver.handler clients) clients with
  | .ok (result, view) => (.ok result, view)
  | .error _ => (.ok failure, clients)

/-- The authorization functions as they serve one request after another. -/
def authorizationStore : AuthorizationStore Clients where
  createAuthorizationClient request :=
    runClientSession .unknownFailure (createAuthorizationClientTransaction request)
  tryCreateBootstrapAuthorizationAdmin request :=
    runClientSession .unknownFailure (tryCreateBootstrapAuthorizationAdminTransaction request)
  getAuthorizationClient request :=
    runClientSession .unknownFailure (getAuthorizationClientDocument request)
  updateAuthorizationClient request :=
    runClientSession .unknownFailure (updateAuthorizationClientTransaction request)
  resetAuthorizationClientSecret request :=
    runClientSession .unknownFailure (resetAuthorizationClientSecretTransaction request)

/-- The clients are read outside any session. -/
def getAllAuthorizationClientDocuments (clients : Clients) : GetAllAuthorizationClientsResult :=
  .getSuccess (clients.items.map fun client =>
    ⟨client.id, client.clientName, client.active, client.roles⟩)

def clientDirectory : ClientDirectory Clients where
  toAuthorizationStore := authorizationStore
  getAllAuthorizationClients _ clients := (.ok (getAllAuthorizationClientDocuments clients), clients)

end Repository

/-- A create request makes at most one call to the store, which is its transaction. -/
def createClientService [NodeRuntime] [ServerLibrary] [TokenLibrary] (config : Config) :
    Service AuthorizationDocument ClientCall ClientCall.Answer ClientError
      (AuthorizationRequest × Entropy) (Except Exception AuthorizationResponse) where
  driver := clientDriver
  transaction input := (createClient config input.1).run.interpret (callSession input.2)
  commits _ := true

end Meadowlark.Mongo
