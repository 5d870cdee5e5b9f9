import Meadowlark.Proof.Core.Listeners

namespace Meadowlark.Core
open Systems

/-- The document whose write an event tells of. -/
def ListenerEvent.writtenUuid : ListenerEvent → Option DocumentUuid
  | .afterUpsertDocument _ (.insertSuccess newDocumentUuid) => some newDocumentUuid
  | .afterUpsertDocument _ (.updateSuccess existingDocumentUuid) => some existingDocumentUuid
  | .afterUpdateDocumentById request .updateSuccess => some request.documentUuid
  | .afterDeleteDocumentById request .deleteSuccess => some request.documentUuid
  | _ => none

theorem succeeded_of_writtenUuid {request : UpsertRequest} {result : UpsertResult}
    {documentUuid : DocumentUuid}
    (written : (ListenerEvent.afterUpsertDocument request result).writtenUuid = some documentUuid) :
    result.succeeded = true := by
  cases result <;> first | rfl | cases written

namespace WriteRequest

/-- The resource for which a write is made. -/
def resourceInfo : WriteRequest → ResourceInfo
  | .upsert request => request.resourceInfo
  | .update request => request.resourceInfo
  | .delete request => request.resourceInfo

/-- The document that a write is to store. -/
def deposit : WriteRequest → Option UpsertRequest
  | .upsert request => some request
  | .update request => some request.toUpsertRequest
  | .delete _ => none

end WriteRequest

section Requests
variable {Generated Contents : Type} {documentStore : Generated → DocumentStore Contents}

/-- A request goes to the document store. Only a write is reported, once it is complete. -/
inductive Leads (documentStore : Generated → DocumentStore Contents)
    (permitted : Generated → Contents → WriteRequest → Prop) :
    Contents → Option ListenerEvent → Contents → Prop
  | checked {contents : Contents} (generated : Generated) (validated : FrontendRequest) :
      Leads documentStore permitted contents none
        (guardAnswer (documentStore generated) validated contents).2
  | read {contents : Contents} (generated : Generated) (request : GetRequest) :
      Leads documentStore permitted contents none
        ((documentStore generated).getDocumentById request contents).2
  | written {contents : Contents} {generated : Generated} {write : WriteRequest} :
      permitted generated contents write →
      Leads documentStore permitted contents (write.report (documentStore generated) contents)
        (write.contents (documentStore generated) contents)

variable {store : DocumentStore Contents} {contents : Contents} {write : WriteRequest}
  {event : ListenerEvent}

theorem ok_of_toOption {Error Result : Type} {outcome : Except Error Result} {result : Result}
    (answered : outcome.toOption = some result) : outcome = .ok result := by
  cases outcome <;> cases answered
  rfl

/-- A report is the event of its write. -/
theorem report_event (reported : write.report store contents = some event) :
    (∃ request result, write = .upsert request ∧
        (store.upsertDocument request contents).1 = .ok result ∧
        event = .afterUpsertDocument request result) ∨
      (∃ request result, write = .update request ∧
        (store.updateDocumentById request contents).1 = .ok result ∧
        event = .afterUpdateDocumentById request result) ∨
      ∃ request result, write = .delete request ∧
        (store.deleteDocumentById request contents).1 = .ok result ∧
        event = .afterDeleteDocumentById request result := by
  cases write with
  | upsert request =>
      obtain ⟨result, answered, rfl⟩ := Option.map_eq_some_iff.mp reported
      exact .inl ⟨request, result, rfl, ok_of_toOption answered, rfl⟩
  | update request =>
      obtain ⟨result, answered, rfl⟩ := Option.map_eq_some_iff.mp reported
      exact .inr (.inl ⟨request, result, rfl, ok_of_toOption answered, rfl⟩)
  | delete request =>
      obtain ⟨result, answered, rfl⟩ := Option.map_eq_some_iff.mp reported
      exact .inr (.inr ⟨request, result, rfl, ok_of_toOption answered, rfl⟩)

/-- An event that tells of a document reports a write that has succeeded. -/
theorem succeeds_of_writtenUuid (reported : write.report store contents = some event)
    {documentUuid : DocumentUuid} (written : event.writtenUuid = some documentUuid) :
    write.Succeeds store contents := by
  rcases report_event reported with ⟨request, result, rfl, answered, rfl⟩ |
    ⟨request, result, rfl, answered, rfl⟩ | ⟨request, result, rfl, answered, rfl⟩
  · exact ⟨result, answered, succeeded_of_writtenUuid written⟩
  · refine ⟨result, answered, ?_⟩
    cases result <;> first | rfl | cases written
  · refine ⟨result, answered, ?_⟩
    cases result <;> first | rfl | cases written

/-- An event that tells of no document changes no deposit. -/
theorem after_unwritten (unwritten : event.writtenUuid = none) (deposits : Deposits) :
    deposits.after event = deposits := by
  cases event with
  | afterUpsertDocument request result => cases result <;> first | rfl | cases unwritten
  | afterUpdateDocumentById request result => cases result <;> first | rfl | cases unwritten
  | afterDeleteDocumentById request result => cases result <;> first | rfl | cases unwritten
  | _ => rfl

/-- What is deposited after a write was so before it, or it is the document of the write. -/
theorem deposits_reported {deposits : Deposits} {documentUuid : DocumentUuid}
    {request : UpsertRequest} (reported : write.report store contents = some event)
    (deposited : deposits.after event documentUuid = some request) :
    deposits documentUuid = some request ∨ write.deposit = some request := by
  have updated (given : DocumentUuid) (written : Option UpsertRequest)
      (found : Function.update deposits given written documentUuid = some request) :
      deposits documentUuid = some request ∨ written = some request := by
    by_cases same : documentUuid = given
    · subst same
      rw [Function.update_self] at found
      exact .inr found
    · rw [Function.update_of_ne same] at found
      exact .inl found
  rcases report_event reported with ⟨upsertRequest, result, rfl, -, rfl⟩ |
    ⟨updateRequest, result, rfl, -, rfl⟩ | ⟨deleteRequest, result, rfl, -, rfl⟩
  · cases result with
    | insertSuccess newDocumentUuid => exact updated _ _ deposited
    | updateSuccess existingDocumentUuid => exact updated _ _ deposited
    | _ => exact .inl deposited
  · cases result with
    | updateSuccess => exact updated _ _ deposited
    | _ => exact .inl deposited
  · cases result with
    | deleteSuccess => exact (updated _ _ deposited).imp_right nofun
    | _ => exact .inl deposited

end Requests
end Meadowlark.Core
