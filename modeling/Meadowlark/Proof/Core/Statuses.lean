import Meadowlark.Proof.Core.LastWrites
import Meadowlark.Proof.Core.Requests

namespace Meadowlark.Core
open Systems

section Replies
variable [NodeRuntime] {Contents Memory View : Type} {documentStore : DocumentStore Contents}
  {services : Services Memory} {contents : Contents} {memory : Memory}
  {frontendRequest : FrontendRequest} {write : WriteRequest}

/-- A status of success means that the document store has made the change. -/
def StatusTells (view : Contents → View) (contents : Contents)
    (outcome : Except Exception FrontendResponse × (Contents × Memory)) : Prop :=
  (∃ frontendResponse, outcome.1 = .ok frontendResponse ∧ frontendResponse.success) ↔
    view outcome.2.1 ≠ view contents

omit [NodeRuntime] in
theorem statusTells_error {view : Contents → View} {frontendResponse : FrontendResponse}
    {left : Contents} (error : 400 ≤ frontendResponse.statusCode)
    (kept : view left = view contents) :
    StatusTells view contents (.ok frontendResponse, (left, memory)) := by
  refine iff_of_false ?_ (not_not.mpr kept)
  rintro ⟨other, same, success⟩
  cases same
  exact not_success error success

omit [NodeRuntime] in
theorem ofStatus_500_error : ¬ (FrontendResponse.ofStatus 500).success := not_success (by decide)

omit [NodeRuntime] in
/-- A response that succeeds is the response to a result. -/
theorem replied_success_iff {response : Except Exception FrontendResponse} :
    (replied response).success ↔
      ∃ frontendResponse, response = .ok frontendResponse ∧ frontendResponse.success := by
  cases response with
  | error error => exact iff_of_false ofStatus_500_error nofun
  | ok frontendResponse =>
      constructor
      · exact fun success => ⟨frontendResponse, rfl, success⟩
      · rintro ⟨_, ⟨⟩, success⟩
        exact success

omit [NodeRuntime] in
theorem upsertResponse_tells (result : UpsertResult) :
    (replied (upsertResponse frontendRequest result)).success ↔ result.succeeded = true := by
  constructor
  · intro success
    obtain ⟨frontendResponse, built, success⟩ := replied_success_iff.mp success
    exact upsertResponse_success built success
  · intro succeeded
    cases result with
    | insertSuccess newDocumentUuid =>
        change 200 ≤ 201 ∧ 201 < 300
        decide
    | updateSuccess existingDocumentUuid =>
        change 200 ≤ 200 ∧ 200 < 300
        decide
    | _ => cases succeeded

omit [NodeRuntime] in
theorem updateResponse_tells (result : UpdateResult) :
    (replied (updateResponse frontendRequest result)).success ↔ result.succeeded = true := by
  constructor
  · intro success
    obtain ⟨frontendResponse, built, success⟩ := replied_success_iff.mp success
    exact updateResponse_success built success
  · intro succeeded
    cases result with
    | updateSuccess =>
        change 200 ≤ 204 ∧ 204 < 300
        decide
    | _ => cases succeeded

omit [NodeRuntime] in
theorem deleteResponse_tells (result : DeleteResult) :
    (replied (deleteResponse frontendRequest result)).success ↔ result.succeeded = true := by
  constructor
  · intro success
    obtain ⟨frontendResponse, built, success⟩ := replied_success_iff.mp success
    exact deleteResponse_success built success
  · intro succeeded
    cases result with
    | deleteSuccess =>
        change 200 ≤ 204 ∧ 204 < 300
        decide
    | _ => cases succeeded

omit [NodeRuntime] in
/-- A thrown error has no status of success. -/
theorem replied_bind_success_iff {Result : Type} {answer : Except Exception Result}
    {respond : Result → Except Exception FrontendResponse} {succeeded : Result → Bool}
    (tells : ∀ result, (replied (respond result)).success ↔ succeeded result = true) :
    (replied (answer >>= respond)).success ↔
      ∃ result, answer = .ok result ∧ succeeded result = true := by
  cases answer with
  | error error => exact iff_of_false ofStatus_500_error nofun
  | ok result =>
      change (replied (respond result)).success ↔ _
      rw [tells]
      constructor
      · exact fun success => ⟨result, rfl, success⟩
      · rintro ⟨_, ⟨⟩, success⟩
        exact success

omit [NodeRuntime] in
/-- The reply to a write has a status of success exactly when the write succeeds. -/
theorem replied_reply_success_iff :
    (replied (write.reply documentStore frontendRequest contents)).success ↔
      write.Succeeds documentStore contents := by
  cases write with
  | upsert request => exact replied_bind_success_iff upsertResponse_tells
  | update request => exact replied_bind_success_iff updateResponse_tells
  | delete request => exact replied_bind_success_iff deleteResponse_tells

/-- The handler of a write tells the truth about the write that it makes. -/
theorem statusTells_planned {queryHandler : QueryHandlerPlugin} {entryPoint : EntryPoint}
    {view : Contents → View} {checked : Contents} (attentive : services.Attentive)
    (planned : plannedWrite entryPoint frontendRequest = some write)
    (kept : view checked = view contents)
    (settled : view (write.contents documentStore checked) = view checked ↔
      ¬ write.Succeeds documentStore checked) :
    StatusTells view contents (documentStore.run services
      (entryPoint.handle queryHandler frontendRequest) (checked, memory)) := by
  have reply := @handlerResponse_planned _ _ _ documentStore services checked memory
    frontendRequest queryHandler entryPoint write attentive planned
  unfold handlerResponse at reply
  rw [run_planned planned] at reply ⊢
  unfold StatusTells
  rw [caught_replied, reply, caught_world, write.outcome_contents, attentive]
  dsimp only
  rw [← kept, ne_eq, settled, not_not, ← @replied_reply_success_iff _ documentStore checked
    frontendRequest write]
  constructor
  · rintro ⟨other, same, success⟩
    cases same
    exact success
  · exact fun success => ⟨_, rfl, success⟩

omit [NodeRuntime] in
theorem statusTells_caught {view : Contents → View}
    {outcome : Except Exception FrontendResponse × (Contents × Memory)} :
    StatusTells view contents (caught outcome) ↔ StatusTells view contents outcome := by
  unfold StatusTells
  rw [caught_world]
  refine iff_congr ?_ Iff.rfl
  constructor
  · rintro ⟨frontendResponse, responded, success⟩
    exact ⟨frontendResponse, caught_success responded success, success⟩
  · rintro ⟨frontendResponse, responded, success⟩
    exact ⟨frontendResponse, caught_ok responded, success⟩

/-- Only the entry points that write plan a write. -/
theorem plannedWrite_writes {entryPoint : EntryPoint} {validated : FrontendRequest}
    (planned : plannedWrite entryPoint validated = some write) : entryPoint.writes = true := by
  cases entryPoint <;> first | rfl | cases planned

variable [DocumentProcessing]

theorem Turn.Makes.writes {Generated : Type} {documentStore : Generated → DocumentStore Contents}
    {turn : Turn Generated} {world : Contents × Memory} {checked : Contents}
    (makes : turn.Makes documentStore services world checked write) :
    turn.entryPoint.writes = true := by
  obtain ⟨validated, result, ⟨following, -, planned, -⟩, -⟩ := makes
  exact plannedWrite_writes planned

/-- In every request that writes the status tells whether the view has changed. -/
theorem statusTells_write {queryHandler : QueryHandlerPlugin} {entryPoint : EntryPoint}
    {view : Contents → View} (attentive : services.Attentive) (writes : entryPoint.writes = true)
    (kept : ∀ validated, view (guardAnswer documentStore validated contents).2 = view contents)
    (settled : ∀ validated (write : WriteRequest), view (write.contents documentStore
        (guardAnswer documentStore validated contents).2) =
          view (guardAnswer documentStore validated contents).2 ↔
      ¬ write.Succeeds documentStore (guardAnswer documentStore validated contents).2) :
    StatusTells view contents (documentStore.run services
      (entryPoint.run queryHandler frontendRequest) (contents, memory)) := by
  by_cases admits : ∃ validated following,
      entryPoint.Admits services frontendRequest memory validated following
  · obtain ⟨validated, following, admitted⟩ := admits
    have guards : entryPoint ≠ .query := by
      rintro rfl
      cases writes
    have checked := kept validated
    have answers := settled validated
    rw [run_admitted admitted, statusTells_caught, run_finish guards]
    generalize guardAnswer documentStore validated contents = answer at checked answers
    obtain ⟨answered, left⟩ := answer
    cases answered with
    | error error => exact iff_of_false nofun (not_not.mpr checked)
    | ok result =>
        dsimp only
        by_cases permits : result.permits = true
        · rw [if_pos permits]
          cases planned : plannedWrite entryPoint validated with
          | none =>
              rw [run_unplanned writes planned]
              exact statusTells_error (unplannedResponse_error entryPoint validated) checked
          | some write => exact statusTells_planned attentive planned checked (answers write)
        · rw [if_neg permits]
          exact statusTells_error (rejection_error result) checked
  · obtain ⟨frontendResponse, following, error, done⟩ := @run_dismissed _ _ services memory
      entryPoint frontendRequest _ queryHandler
      fun validated following admitted => admits ⟨validated, following, admitted⟩
    rw [done]
    exact statusTells_error error rfl

end Replies
end Meadowlark.Core
