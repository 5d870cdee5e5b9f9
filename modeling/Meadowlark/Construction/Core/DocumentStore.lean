import Meadowlark.Construction.Core.Handler

namespace Meadowlark.Core
open Systems

/-- Both backends hand their repository functions and their ownership check to the frontend. -/
def backendFacade : DocumentStorePlugin where
  upsertDocument request := perform (.upsertDocument request)
  getDocumentById request := perform (.getDocumentById request)
  updateDocumentById request := perform (.updateDocumentById request)
  deleteDocumentById request := perform (.deleteDocumentById request)
  securityMiddleware := ownershipMiddleware fun frontendRequest =>
    perform (.rejectByOwnershipSecurity frontendRequest)

/-- The functions of a document store on its contents while no other request runs. -/
structure DocumentStore (Contents : Type) where
  rejectByOwnershipSecurity : FrontendRequest → Contents → Except Exception SecurityResult × Contents
  upsertDocument : UpsertRequest → Contents → Except Exception UpsertResult × Contents
  updateDocumentById : UpdateRequest → Contents → Except Exception UpdateResult × Contents
  deleteDocumentById : DeleteRequest → Contents → Except Exception DeleteResult × Contents
  getDocumentById : GetRequest → Contents → Except Exception GetResult × Contents

/-- The clock, the caches, the OAuth server, the listeners and the search engine answer from a
state of their own. -/
structure Services (Memory : Type) where
  answer : (call : Call) → Memory → call.Answer × Memory

/-- The calls that a document store answers. -/
def Call.toDocumentStore : Call → Bool
  | .rejectByOwnershipSecurity _ => true
  | .upsertDocument _ => true
  | .updateDocumentById _ => true
  | .deleteDocumentById _ => true
  | .getDocumentById _ => true
  | _ => false

section Serve
variable {Contents Memory : Type}

/-- The document store answers its own calls and leaves the other calls to the services. -/
def serve (documentStore : DocumentStore Contents) (services : Services Memory) :
    (call : Call) → Contents × Memory → call.Answer × (Contents × Memory)
  | .rejectByOwnershipSecurity frontendRequest, (contents, memory) =>
      let (answer, following) := documentStore.rejectByOwnershipSecurity frontendRequest contents
      (answer, (following, memory))
  | .upsertDocument request, (contents, memory) =>
      let (answer, following) := documentStore.upsertDocument request contents
      (answer, (following, memory))
  | .updateDocumentById request, (contents, memory) =>
      let (answer, following) := documentStore.updateDocumentById request contents
      (answer, (following, memory))
  | .deleteDocumentById request, (contents, memory) =>
      let (answer, following) := documentStore.deleteDocumentById request contents
      (answer, (following, memory))
  | .getDocumentById request, (contents, memory) =>
      let (answer, following) := documentStore.getDocumentById request contents
      (answer, (following, memory))
  | call, (contents, memory) =>
      let (answer, following) := services.answer call memory
      (answer, (contents, following))

/-- A frontend function runs while no other request runs. -/
def DocumentStore.run {A : Type} (documentStore : DocumentStore Contents)
    (services : Services Memory) (program : Frontend A) (world : Contents × Memory) :
    Except Exception A × (Contents × Memory) :=
  Program.runState (serve documentStore services) program world

end Serve

namespace Sample

/-- Every document is valid, and its entries but the uuid are its identity. -/
abbrev processing : DocumentProcessing where
  prototypeResourceSchema _ := none
  didYouMean _ _ := none
  validateDocument _ parsedBody _ := .ok (none, parsedBody)
  validateEqualityConstraints _ _ := .ok []
  buildDocumentInfo _ _ parsedBody timestamp := .ok (some
    { documentIdentity := parsedBody.entries.filter (·.1 ≠ "id")
      documentReferences := []
      descriptorReferences := []
      superclassInfo := none
      requestTimestamp := timestamp })
  isNotPositiveInteger _ := false
  validateQueryString _ _ := .ok none

def resourceSchema (resourceName : String) : ResourceSchema where
  resourceName := resourceName
  isDescriptor := false
  allowIdentityUpdates := true
  details := .object []

def projectSchema : ProjectSchema where
  projectName := "Ed-Fi"
  projectVersion := "3.3.1-b"
  resourceSchemas := ⟨["schools", "students"], fun endpointName =>
    if endpointName = "schools" then some (resourceSchema "School")
    else if endpointName = "students" then some (resourceSchema "Student")
    else none⟩
  resourceNameMapping := ⟨[], fun _ => none⟩

/-- The clock counts the requests for the time, and a token is the name of its client. -/
def services : Services Int where
  answer
    | .dateNow, time => (.ok time, time + 1)
    | .findApiSchema _, time => (.ok ⟨⟨["ed-fi"], fun _ => some projectSchema⟩,
        ⟨[], fun _ => none⟩⟩, time)
    | .getCachedClientTokenInfo token, time => (.ok (some ⟨⟨.ownershipBased, token⟩, true⟩), time)
    | .publish _, time => (.ok (), time)
    | _, time => (.error ⟨"Error", "not called", none⟩, time)

/-- A request of one client. -/
def request (path clientId : String) (body : Option String) : FrontendRequest :=
  { newFrontendRequest with
    path := path
    headers := [("Authorization", "bearer " ++ clientId)]
    body := body }

end Sample
end Meadowlark.Core
