import Meadowlark.Proof.Core.Outcomes

namespace Meadowlark.Core
open Systems
variable [NodeRuntime]

/-- A request to the document store that a write handler makes. -/
inductive WriteRequest where
  | upsert (request : UpsertRequest)
  | update (request : UpdateRequest)
  | delete (request : DeleteRequest)

namespace WriteRequest

/-- The event that is published before the request is made. -/
def announcement : WriteRequest → ListenerEvent
  | .upsert request => .beforeUpsertDocument request
  | .update request => .beforeUpdateDocumentById request
  | .delete request => .beforeDeleteDocumentById request

/-- The contents of the document store after the request. -/
def contents {Contents : Type} (documentStore : DocumentStore Contents) (before : Contents) :
    WriteRequest → Contents
  | .upsert request => (documentStore.upsertDocument request before).2
  | .update request => (documentStore.updateDocumentById request before).2
  | .delete request => (documentStore.deleteDocumentById request before).2

end WriteRequest

/-- The entry points that write. -/
def EntryPoint.writes : EntryPoint → Bool
  | .update => true
  | .upsert => true
  | .deleteIt => true
  | _ => false

/-- The request that the handler makes for a validated frontend request.
An update needs the uuid of the path in its body. -/
def plannedWrite (entryPoint : EntryPoint) (frontendRequest : FrontendRequest) :
    Option WriteRequest :=
  match entryPoint with
  | .upsert => some (.upsert (upsertRequestFrom frontendRequest))
  | .update =>
      match frontendRequest.middleware.pathComponents.documentUuid with
      | none => none
      | some documentUuid =>
          if documentUuidFromBody frontendRequest.middleware.parsedBody =
              .ok (some (.string documentUuid.value)) then
            some (.update (updateRequestFrom frontendRequest documentUuid))
          else none
  | .deleteIt =>
      match frontendRequest.middleware.pathComponents.documentUuid with
      | none => none
      | some documentUuid => some (.delete (deleteRequestFrom frontendRequest documentUuid))
  | _ => none

section Handlers
variable {Contents Memory : Type} {documentStore : DocumentStore Contents}
  {services : Services Memory} {contents : Contents} {memory : Memory}

omit [NodeRuntime] in
/-- The outcome of a write that is announced, made and reported. -/
def WriteRequest.outcome (documentStore : DocumentStore Contents) (services : Services Memory)
    (frontendRequest : FrontendRequest) (contents : Contents) (memory : Memory) :
    WriteRequest → Except Exception FrontendResponse × (Contents × Memory)
  | .upsert request => announced services (.beforeUpsertDocument request)
      (documentStore.upsertDocument request contents) (.afterUpsertDocument request)
      (upsertResponse frontendRequest) contents memory
  | .update request => announced services (.beforeUpdateDocumentById request)
      (documentStore.updateDocumentById request contents) (.afterUpdateDocumentById request)
      (updateResponse frontendRequest) contents memory
  | .delete request => announced services (.beforeDeleteDocumentById request)
      (documentStore.deleteDocumentById request contents) (.afterDeleteDocumentById request)
      (deleteResponse frontendRequest) contents memory

omit [NodeRuntime] in
theorem WriteRequest.outcome_contents (write : WriteRequest) (frontendRequest : FrontendRequest) :
    (write.outcome documentStore services frontendRequest contents memory).2.1 =
      match (services.answer (.publish write.announcement) memory).1 with
      | .ok _ => write.contents documentStore contents
      | .error _ => contents := by
  unfold WriteRequest.outcome
  cases write with
  | upsert request =>
      dsimp only [announcement, WriteRequest.contents]
      rw [announced_contents]
      cases (services.answer (.publish (.beforeUpsertDocument request)) memory).1 with
      | error error => rfl
      | ok value => rfl
  | update request =>
      dsimp only [announcement, WriteRequest.contents]
      rw [announced_contents]
      cases (services.answer (.publish (.beforeUpdateDocumentById request)) memory).1 with
      | error error => rfl
      | ok value => rfl
  | delete request =>
      dsimp only [announcement, WriteRequest.contents]
      rw [announced_contents]
      cases (services.answer (.publish (.beforeDeleteDocumentById request)) memory).1 with
      | error error => rfl
      | ok value => rfl

/-- A planned write is made by the handler. -/
theorem run_planned {queryHandler : QueryHandlerPlugin} {entryPoint : EntryPoint}
    {frontendRequest : FrontendRequest} {write : WriteRequest}
    (planned : plannedWrite entryPoint frontendRequest = some write) :
    documentStore.run services (entryPoint.handle queryHandler frontendRequest)
        (contents, memory) =
      caught (write.outcome documentStore services frontendRequest contents memory) := by
  cases entryPoint with
  | query => cases planned
  | getById => cases planned
  | upsert =>
      cases planned
      refine (run_caught _ _).trans (congrArg caught ?_)
      exact @run_announced _ _ documentStore services contents memory _
        (perform (.upsertDocument _)) _ (documentStore.upsertDocument _ contents) _ _ fun _ => rfl
  | deleteIt =>
      unfold plannedWrite at planned
      dsimp only at planned
      split at planned
      · cases planned
      · rename_i documentUuid named
        cases planned
        refine (run_caught _ _).trans (congrArg caught ?_)
        rw [named]
        exact @run_announced _ _ documentStore services contents memory _
          (perform (.deleteDocumentById _)) _ (documentStore.deleteDocumentById _ contents) _ _
          fun _ => rfl
  | update =>
      unfold plannedWrite at planned
      dsimp only at planned
      split at planned
      · cases planned
      · rename_i documentUuid named
        split at planned
        · rename_i same
          cases planned
          refine (run_caught _ _).trans (congrArg caught ?_)
          rw [named]
          dsimp only
          rw [same]
          refine Eq.trans (congrArg (documentStore.run services · (contents, memory))
            (if_pos rfl)) ?_
          exact @run_announced _ _ documentStore services contents memory _
            (perform (.updateDocumentById _)) _ (documentStore.updateDocumentById _ contents) _ _
            fun _ => rfl
        · cases planned

/-- The response of a handler that plans no write. -/
def unplannedResponse (entryPoint : EntryPoint) (frontendRequest : FrontendRequest) :
    FrontendResponse :=
  match entryPoint, frontendRequest.middleware.pathComponents.documentUuid with
  | .update, none => ⟨400, some frontendRequest.middleware.headerMetadata, none⟩
  | .update, some _ =>
      match documentUuidFromBody frontendRequest.middleware.parsedBody with
      | .error _ => .ofStatus 500
      | .ok _ => ⟨400, some frontendRequest.middleware.headerMetadata, some (messageBody
          ("The identity of the resource does not match the identity in the updated " ++
            "document.") [])⟩
  | _, _ => .ofStatus 404

omit [NodeRuntime] in
theorem unplannedResponse_error (entryPoint : EntryPoint) (frontendRequest : FrontendRequest) :
    400 ≤ (unplannedResponse entryPoint frontendRequest).statusCode := by
  unfold unplannedResponse
  split
  · exact le_refl 400
  · split
    · decide
    · exact le_refl 400
  · decide

/-- A handler that plans no write responds with an error, whatever is stored. -/
theorem run_unplanned {queryHandler : QueryHandlerPlugin} {entryPoint : EntryPoint}
    (writes : entryPoint.writes = true) {frontendRequest : FrontendRequest}
    (unplanned : plannedWrite entryPoint frontendRequest = none) (world : Contents × Memory) :
    documentStore.run services (entryPoint.handle queryHandler frontendRequest) world =
      (.ok (unplannedResponse entryPoint frontendRequest), world) := by
  cases entryPoint with
  | query => cases writes
  | getById => cases writes
  | upsert => cases unplanned
  | deleteIt =>
      unfold plannedWrite at unplanned
      refine (run_caught _ _).trans ?_
      cases named : frontendRequest.middleware.pathComponents.documentUuid with
      | none => rfl
      | some documentUuid =>
          rw [named] at unplanned
          cases unplanned
  | update =>
      unfold plannedWrite at unplanned
      refine (run_caught _ _).trans ?_
      unfold unplannedResponse
      cases named : frontendRequest.middleware.pathComponents.documentUuid with
      | none => rfl
      | some documentUuid =>
          rw [named] at unplanned
          dsimp only at unplanned ⊢
          split at unplanned
          · cases unplanned
          · rename_i different
            cases fromBody : documentUuidFromBody frontendRequest.middleware.parsedBody with
            | error error => rfl
            | ok value =>
                rw [fromBody] at different
                change caught (documentStore.run services
                  (if value = some (.string documentUuid.value) then updateWith backendFacade
                    frontendRequest (updateRequestFrom frontendRequest documentUuid) else pure _)
                  world) = _
                rw [if_neg fun equal => different (congrArg Except.ok equal)]
                rfl

/-- The contents after a handler: the planned write is made if its announcement is heard. -/
def contentsAfter (documentStore : DocumentStore Contents) (services : Services Memory)
    (planned : Option WriteRequest) (contents : Contents) (memory : Memory) : Contents :=
  match planned with
  | none => contents
  | some write =>
      match (services.answer (.publish write.announcement) memory).1 with
      | .ok _ => write.contents documentStore contents
      | .error _ => contents

omit [NodeRuntime] in
theorem contentsAfter_cases (planned : Option WriteRequest) :
    contentsAfter documentStore services planned contents memory = contents ∨
      ∃ write, planned = some write ∧
        (services.answer (.publish write.announcement) memory).1 = .ok () ∧
        contentsAfter documentStore services planned contents memory =
          write.contents documentStore contents := by
  unfold contentsAfter
  cases planned with
  | none => exact .inl rfl
  | some write =>
      dsimp only
      cases heard : (services.answer (.publish write.announcement) memory).1 with
      | error error => exact .inl rfl
      | ok value => exact .inr ⟨write, rfl, heard, rfl⟩

theorem contents_handle {queryHandler : QueryHandlerPlugin} {entryPoint : EntryPoint}
    (writes : entryPoint.writes = true) (frontendRequest : FrontendRequest) :
    (documentStore.run services (entryPoint.handle queryHandler frontendRequest)
        (contents, memory)).2.1 =
      contentsAfter documentStore services (plannedWrite entryPoint frontendRequest) contents
        memory := by
  cases planned : plannedWrite entryPoint frontendRequest with
  | none =>
      rw [run_unplanned writes planned]
      rfl
  | some write =>
      rw [run_planned planned, caught_world, WriteRequest.outcome_contents]
      rfl

/-- The answer of the guard, which asks for the check under the ownership strategy only. -/
def guardAnswer (documentStore : DocumentStore Contents) (frontendRequest : FrontendRequest)
    (contents : Contents) : Except Exception SecurityResult × Contents :=
  if frontendRequest.middleware.security.authorizationStrategy = .ownershipBased then
    documentStore.rejectByOwnershipSecurity frontendRequest contents
  else (.ok .notApplicable, contents)

/-- The response to a request that the guard rejects. -/
def rejection (result : SecurityResult) : FrontendResponse :=
  ⟨if result = .accessDenied then 403 else 500, some [], some (.string "")⟩

omit [NodeRuntime] in
theorem rejection_error (result : SecurityResult) : 400 ≤ (rejection result).statusCode := by
  unfold rejection
  dsimp only
  split
  · decide
  · decide

variable [DocumentProcessing]

omit [DocumentProcessing] in
/-- The guard lets a request pass on to its handler or rejects it. -/
theorem run_finish {queryHandler : QueryHandlerPlugin} {entryPoint : EntryPoint}
    (guards : entryPoint ≠ .query) (validated : FrontendRequest) :
    documentStore.run services (entryPoint.finish queryHandler ⟨validated, none⟩)
        (contents, memory) =
      match guardAnswer documentStore validated contents with
      | (.ok result, checked) =>
          if result.permits then documentStore.run services
            (entryPoint.handle queryHandler validated) (checked, memory)
          else (.ok (rejection result), (checked, memory))
      | (.error error, checked) => (.error error, (checked, memory)) := by
  have checked : Program.runState (serve documentStore services)
      (perform (.rejectByOwnershipSecurity validated)) (contents, memory) =
        ((documentStore.rejectByOwnershipSecurity validated contents).1,
          ((documentStore.rejectByOwnershipSecurity validated contents).2, memory)) := rfl
  unfold EntryPoint.finish guardAnswer DocumentStore.run
  by_cases ownership : validated.middleware.security.authorizationStrategy = .ownershipBased
  · rw [EntryPoint.guard_checked guards ownership, bind_assoc, Program.runState_bind, checked,
      if_pos ownership]
    cases documentStore.rejectByOwnershipSecurity validated contents with
    | mk outcome following =>
        cases outcome with
        | error error => rfl
        | ok result =>
            cases result with
            | accessApproved => rfl
            | notApplicable => rfl
            | unknownFailure => rfl
            | accessDenied => rfl
  · have unchecked : entryPoint.guard ⟨validated, none⟩ = pure ⟨validated, none⟩ := by
      cases entryPoint with
      | query => rfl
      | _ => exact if_pos ownership
    rw [unchecked, if_neg ownership]
    rfl

end Handlers

section Replies
variable {Contents Memory : Type} {documentStore : DocumentStore Contents}
  {services : Services Memory} {contents : Contents} {memory : Memory}
  {frontendRequest : FrontendRequest} {queryHandler : QueryHandlerPlugin} {entryPoint : EntryPoint}
  {write : WriteRequest}

/-- What an entry point makes of the outcome of its handler. -/
def replied : Except Exception FrontendResponse → FrontendResponse
  | .ok frontendResponse => frontendResponse
  | .error _ => .ofStatus 500

/-- The listeners hear every event without an error. -/
def Services.Attentive (services : Services Memory) : Prop :=
  ∀ event memory, (services.answer (.publish event) memory).1 = .ok ()

/-- The response that a handler makes of the answer to a write. -/
def WriteRequest.reply (documentStore : DocumentStore Contents) (frontendRequest : FrontendRequest)
    (contents : Contents) : WriteRequest → Except Exception FrontendResponse
  | .upsert request =>
      (documentStore.upsertDocument request contents).1 >>= upsertResponse frontendRequest
  | .update request =>
      (documentStore.updateDocumentById request contents).1 >>= updateResponse frontendRequest
  | .delete request =>
      (documentStore.deleteDocumentById request contents).1 >>= deleteResponse frontendRequest

/-- The response of a handler as it reaches the client. -/
def handlerResponse (documentStore : DocumentStore Contents) (services : Services Memory)
    (queryHandler : QueryHandlerPlugin) (entryPoint : EntryPoint)
    (frontendRequest : FrontendRequest) (world : Contents × Memory) : FrontendResponse :=
  replied (documentStore.run services (entryPoint.handle queryHandler frontendRequest) world).1

omit [NodeRuntime] in
theorem announced_reply {Result : Type} (attentive : services.Attentive) {before : ListenerEvent}
    {answer : Except Exception Result × Contents} {after : Result → ListenerEvent}
    {respond : Result → Except Exception FrontendResponse} :
    replied (caught (announced services before answer after respond contents memory)).1 =
      replied (answer.1 >>= respond) := by
  have heard := attentive before memory
  unfold announced
  cases first : services.answer (.publish before) memory with
  | mk hears following =>
      rw [first] at heard
      obtain rfl : hears = .ok () := heard
      obtain ⟨answered, left⟩ := answer
      cases answered with
      | error error => rfl
      | ok result =>
          have reported := attentive (after result) following
          dsimp only
          cases second : services.answer (.publish (after result)) following with
          | mk hearsAfter last =>
              rw [second] at reported
              obtain rfl : hearsAfter = .ok () := reported
              change replied (caught (respond result, _)).1 = replied (respond result)
              cases respond result with
              | ok frontendResponse => rfl
              | error error => rfl

theorem handlerResponse_planned (attentive : services.Attentive)
    (planned : plannedWrite entryPoint frontendRequest = some write) :
    handlerResponse documentStore services queryHandler entryPoint frontendRequest
        (contents, memory) =
      replied (write.reply documentStore frontendRequest contents) := by
  unfold handlerResponse
  rw [run_planned planned]
  cases write with
  | upsert request => exact announced_reply attentive
  | update request => exact announced_reply attentive
  | delete request => exact announced_reply attentive

end Replies
end Meadowlark.Core
