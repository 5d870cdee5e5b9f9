import Meadowlark.Construction.Core.Listeners
import Meadowlark.Construction.Search.QueryDocuments

namespace Meadowlark.Search
open Meadowlark.Core
variable [NodeRuntime] {Contents : Type}

/-- Parameters for a request of the search client. -/
structure EngineRequest where
  index : String
  id : DocumentUuid
  deriving DecidableEq

/-- The functions of a search client that change the contents of the engine. -/
structure Client (Contents : Type) where
  index : EngineRequest → Json → Contents → Except Exception Unit × Contents
  delete : EngineRequest → Contents → Except Exception Unit × Contents

omit [NodeRuntime] in
/-- An error of the client is handed to the handler of the engine, whose result is dropped. -/
def handled (outcome : Except Exception Unit × Contents) : Except Exception Unit × Contents :=
  match outcome with
  | (.ok _, following) => (.ok (), following)
  | (.error _, following) => (.ok (), following)

def engineRequestFrom (resourceInfo : ResourceInfo) (documentUuid : DocumentUuid) :
    EngineRequest where
  index := indexFromResourceInfo resourceInfo
  id := documentUuid

/-- Listener for afterDeleteDocumentById events. -/
def afterDeleteDocumentById (client : Client Contents) (request : DeleteRequest)
    (result : DeleteResult) (contents : Contents) : Except Exception Unit × Contents :=
  if result ≠ .deleteSuccess then (.ok (), contents)
  else handled (client.delete (engineRequestFrom request.resourceInfo request.documentUuid) contents)

omit [NodeRuntime] in
/-- The document with its uuid, as a query will return it. -/
def infoFrom (documentUuid : DocumentUuid) (edfiDoc : Json) : Json :=
  Json.spread [[("id", .string documentUuid.value)], edfiDoc.entries]

omit [NodeRuntime] in
/-- The fields of the document can be searched for, and it is kept as one text. -/
def bodyFrom (request : UpsertRequest) (documentUuid : DocumentUuid) : Json :=
  Json.spread
    [[("id", .string documentUuid.value),
        ("info", .string (infoFrom documentUuid request.edfiDoc).stringify)],
      request.edfiDoc.entries,
      [("createdBy", .string request.security.clientId),
        ("meadowlarkId", .string request.meadowlarkId.value),
        ("documentUuid", .string documentUuid.value)]]

/-- The upsert logic that both engines share. -/
def upsertToEngine (client : Client Contents) (request : UpsertRequest)
    (documentUuid : DocumentUuid) (contents : Contents) : Except Exception Unit × Contents :=
  handled (client.index (engineRequestFrom request.resourceInfo documentUuid)
    (bodyFrom request documentUuid) contents)

/-- Listener for afterUpsertDocument events. -/
def afterUpsertDocument (client : Client Contents) (request : UpsertRequest) (result : UpsertResult)
    (contents : Contents) : Except Exception Unit × Contents :=
  match result with
  | .updateSuccess existingDocumentUuid =>
      upsertToEngine client request existingDocumentUuid contents
  | .insertSuccess newDocumentUuid => upsertToEngine client request newDocumentUuid contents
  | _ => (.ok (), contents)

/-- Listener for afterUpdateDocumentById events. -/
def afterUpdateDocumentById (client : Client Contents) (request : UpdateRequest)
    (result : UpdateResult) (contents : Contents) : Except Exception Unit × Contents :=
  if result ≠ .updateSuccess then (.ok (), contents)
  else upsertToEngine client request.toUpsertRequest request.documentUuid contents

/-- Both engines subscribe to the events after the writes. -/
def listener (client : Client Contents) : Listener Contents where
  hear
    | .afterDeleteDocumentById request result => afterDeleteDocumentById client request result
    | .afterUpsertDocument request result => afterUpsertDocument client request result
    | .afterUpdateDocumentById request result => afterUpdateDocumentById client request result
    | _ => fun contents => (.ok (), contents)

/-- The documents of an engine by index and id. -/
abbrev EngineContents := EngineRequest → Option Json

omit [NodeRuntime] in
/-- A client whose requests succeed; only an absent document cannot be deleted. -/
def engineClient : Client EngineContents where
  index request body contents := (.ok (), Function.update contents request (some body))
  delete request contents :=
    match contents request with
    | some _ => (.ok (), Function.update contents request none)
    | none => (.error ⟨"ResponseError", "Response Error", none⟩, contents)

end Meadowlark.Search
