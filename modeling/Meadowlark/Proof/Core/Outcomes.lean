import Meadowlark.Proof.Core.EntryPoint

namespace Meadowlark.Core
open Systems

/-- The response reports a success. -/
def FrontendResponse.success (frontendResponse : FrontendResponse) : Prop :=
  200 ≤ frontendResponse.statusCode ∧ frontendResponse.statusCode < 300

instance (frontendResponse : FrontendResponse) : Decidable frontendResponse.success :=
  inferInstanceAs (Decidable (_ ∧ _))

theorem not_success {frontendResponse : FrontendResponse}
    (error : 400 ≤ frontendResponse.statusCode) : ¬ frontendResponse.success := by
  rintro ⟨-, below⟩
  omega

/-- The answers of an ownership check that let a request pass. -/
def SecurityResult.permits : SecurityResult → Bool
  | .accessApproved => true
  | .notApplicable => true
  | _ => false

section Outcomes
variable {Contents Memory : Type}

/-- Whatever is thrown becomes an internal error. -/
def caught (outcome : Except Exception FrontendResponse × (Contents × Memory)) :
    Except Exception FrontendResponse × (Contents × Memory) :=
  match outcome with
  | (.ok frontendResponse, world) => (.ok frontendResponse, world)
  | (.error _, world) => (.ok (.ofStatus 500), world)

/-- A call is announced to the listeners, answered by the document store and reported to them. -/
def announced {Result : Type} (services : Services Memory) (before : ListenerEvent)
    (answer : Except Exception Result × Contents) (after : Result → ListenerEvent)
    (respond : Result → Except Exception FrontendResponse) (contents : Contents) (memory : Memory) :
    Except Exception FrontendResponse × (Contents × Memory) :=
  match services.answer (.publish before) memory with
  | (.error error, heard) => (.error error, (contents, heard))
  | (.ok _, heard) =>
      match answer with
      | (.error error, following) => (.error error, (following, heard))
      | (.ok result, following) =>
          match services.answer (.publish (after result)) heard with
          | (.error error, last) => (.error error, (following, last))
          | (.ok _, last) => (respond result, (following, last))

variable {documentStore : DocumentStore Contents} {services : Services Memory}
  {contents following : Contents} {memory : Memory}

theorem run_tryCatch {A : Type} (program : Frontend A) (value : A) (world : Contents × Memory) :
    documentStore.run services (tryCatch program fun _ => pure value) world =
      match documentStore.run services program world with
      | (.ok result, last) => (.ok result, last)
      | (.error _, last) => (.ok value, last) := by
  unfold DocumentStore.run
  rw [Program.runState_tryCatch]
  cases Program.runState (serve documentStore services) program world with
  | mk outcome last =>
      cases outcome with
      | ok result => rfl
      | error error => rfl

theorem run_caught (program : Frontend FrontendResponse) (world : Contents × Memory) :
    documentStore.run services (tryCatch program fun _ => pure (.ofStatus 500)) world =
      caught (documentStore.run services program world) := by
  rw [run_tryCatch]
  cases documentStore.run services program world with
  | mk outcome last =>
      cases outcome with
      | ok result => rfl
      | error error => rfl

theorem caught_world (outcome : Except Exception FrontendResponse × (Contents × Memory)) :
    (caught outcome).2 = outcome.2 := by
  obtain ⟨outcome, world⟩ := outcome
  cases outcome with
  | ok frontendResponse => rfl
  | error error => rfl

theorem caught_ok {outcome : Except Exception FrontendResponse × (Contents × Memory)}
    {frontendResponse : FrontendResponse} (responded : outcome.1 = .ok frontendResponse) :
    (caught outcome).1 = .ok frontendResponse := by
  obtain ⟨outcome, world⟩ := outcome
  obtain rfl : outcome = .ok frontendResponse := responded
  rfl

/-- A caught error is no success. -/
theorem caught_success {outcome : Except Exception FrontendResponse × (Contents × Memory)}
    {frontendResponse : FrontendResponse} (responded : (caught outcome).1 = .ok frontendResponse)
    (success : frontendResponse.success) : outcome.1 = .ok frontendResponse := by
  obtain ⟨outcome, world⟩ := outcome
  cases outcome with
  | ok other => exact responded
  | error error =>
      obtain rfl : FrontendResponse.ofStatus 500 = frontendResponse := Except.ok.inj responded
      exact absurd success (by decide)

/-- The handler of a call publishes what it asks for and what has been answered. -/
theorem run_announced {Result : Type} {call : Frontend Result} {before : ListenerEvent}
    {answer : Except Exception Result × Contents} {after : Result → ListenerEvent}
    {respond : Result → Except Exception FrontendResponse}
    (made : ∀ memory, documentStore.run services call (contents, memory) =
      (answer.1, (answer.2, memory))) :
    documentStore.run services (perform (.publish before) >>= fun _ => call >>= fun result =>
        perform (.publish (after result)) >>= fun _ => monadLift (respond result))
        (contents, memory) =
      announced services before answer after respond contents memory := by
  have published : ∀ (event : ListenerEvent) (contents : Contents) (memory : Memory),
      documentStore.run services (perform (.publish event)) (contents, memory) =
        ((services.answer (.publish event) memory).1,
          (contents, (services.answer (.publish event) memory).2)) := fun _ _ _ => rfl
  obtain ⟨answered, following⟩ := answer
  unfold announced
  unfold DocumentStore.run at *
  rw [Program.runState_bind, published]
  cases services.answer (.publish before) memory with
  | mk hears heard =>
      cases hears with
      | error error => rfl
      | ok value =>
          dsimp only
          rw [Program.runState_bind, made]
          cases answered with
          | error error => rfl
          | ok result =>
              dsimp only
              rw [Program.runState_bind, published]
              cases services.answer (.publish (after result)) heard with
              | mk hearsAfter last =>
                  cases hearsAfter with
                  | error error => rfl
                  | ok value => rfl

variable {Result : Type} {before : ListenerEvent} {answer : Except Exception Result × Contents}
  {after : Result → ListenerEvent} {respond : Result → Except Exception FrontendResponse}

/-- The call is made if its announcement is heard. -/
theorem announced_contents :
    (announced services before answer after respond contents memory).2.1 =
      match (services.answer (.publish before) memory).1 with
      | .ok _ => answer.2
      | .error _ => contents := by
  unfold announced
  cases services.answer (.publish before) memory with
  | mk hears heard =>
      cases hears with
      | error error => rfl
      | ok value =>
          obtain ⟨answered, following⟩ := answer
          cases answered with
          | error error => rfl
          | ok result =>
              dsimp only
              cases services.answer (.publish (after result)) heard with
              | mk hearsAfter last =>
                  cases hearsAfter with
                  | error error => rfl
                  | ok value => rfl

/-- A call that is not announced or not answered has no response.
The response of the others is built when the report is heard. -/
theorem announced_response {frontendResponse : FrontendResponse} :
    (announced services before answer after respond contents memory).1 = .ok frontendResponse ↔
      (services.answer (.publish before) memory).1 = .ok () ∧
        ∃ result, answer.1 = .ok result ∧
          (services.answer (.publish (after result))
            (services.answer (.publish before) memory).2).1 = .ok () ∧
          respond result = .ok frontendResponse := by
  unfold announced
  cases services.answer (.publish before) memory with
  | mk hears heard =>
      cases hears with
      | error error => simp
      | ok value =>
          obtain ⟨answered, following⟩ := answer
          cases answered with
          | error error => simp
          | ok result =>
              dsimp only
              cases reported : services.answer (.publish (after result)) heard with
              | mk hearsAfter last =>
                  cases hearsAfter with
                  | error error => simp [reported]
                  | ok value => simp [reported]

end Outcomes

section Admission
variable [NodeRuntime] {Contents Memory : Type} {services : Services Memory} {memory : Memory}
  {entryPoint : EntryPoint} {frontendRequest : FrontendRequest}

/-- The calls that identify a client leave the document store alone. -/
theorem runState_identify (documentStore : DocumentStore Contents) (contents : Contents)
    (model : MiddlewareModel) :
    Program.runState (serve documentStore services) (entryPoint.identify model) (contents, memory) =
      ((Program.runState services.answer (entryPoint.identify model) memory).1,
        (contents, (Program.runState services.answer (entryPoint.identify model) memory).2)) := by
  have identifying := EntryPoint.identifying_identify entryPoint model
  have apart : ∀ (call : Call) (world : Contents × Memory), call.identifies = true →
      serve documentStore services call world =
        ((services.answer call world.2).1, (world.1, (services.answer call world.2).2)) := by
    intro call world identifies
    cases call <;> first | rfl | cases identifies
  have remembered := @Program.Within.runState_project _ _ _ _ _ (serve documentStore services)
    (contents, memory) _ _ _ services.answer Prod.snd _ identifying
    fun call world identifies => by rw [apart call world identifies]
  have kept := @Program.Within.runState_state _ _ _ _ _ (serve documentStore services)
    (contents, memory) _ _ (fun world => world.1 = contents) _ identifying
    (fun call world identifies same => by rw [apart call world identifies]; exact same) rfl
  rw [← remembered]
  exact Prod.ext rfl (Prod.ext kept rfl)

variable [DocumentProcessing]

/-- The client of the request is known and the request is valid. -/
def EntryPoint.Admits (services : Services Memory) (entryPoint : EntryPoint)
    (frontendRequest : FrontendRequest) (memory : Memory) (validated : FrontendRequest)
    (following : Memory) : Prop :=
  ∃ identified,
    entryPoint.Identified services.answer frontendRequest memory identified following ∧
      entryPoint.validate ⟨identified, none⟩ = .ok ⟨validated, none⟩

/-- Nothing that is stored plays a part before the guard. -/
theorem run_entryPoint (queryHandler : QueryHandlerPlugin) (documentStore : DocumentStore Contents)
    (contents : Contents) :
    documentStore.run services (entryPoint.run queryHandler frontendRequest) (contents, memory) =
      caught (match Program.runState services.answer (entryPoint.identify
          ⟨{ frontendRequest with action := entryPoint.action }, none⟩) memory with
        | (.error error, following) => (.error error, (contents, following))
        | (.ok identified, following) =>
            match entryPoint.validate identified with
            | .error error => (.error error, (contents, following))
            | .ok model => documentStore.run services (entryPoint.finish queryHandler model)
                (contents, following)) := by
  rw [EntryPoint.run_eq, run_caught]
  apply congrArg caught
  unfold DocumentStore.run
  rw [Program.runState_bind, runState_identify]
  cases Program.runState services.answer (entryPoint.identify
      ⟨{ frontendRequest with action := entryPoint.action }, none⟩) memory with
  | mk outcome following =>
      cases outcome with
      | error error => rfl
      | ok identified =>
          dsimp only
          rw [Program.runState_bind, EntryPoint.runState_monadLift]
          cases entryPoint.validate identified with
          | error error => rfl
          | ok model => rfl

/-- An admitted request is finished by its guard and its handler. -/
theorem run_admitted {queryHandler : QueryHandlerPlugin} {validated : FrontendRequest}
    {following : Memory}
    (admitted : entryPoint.Admits services frontendRequest memory validated following)
    (documentStore : DocumentStore Contents) (contents : Contents) :
    documentStore.run services (entryPoint.run queryHandler frontendRequest) (contents, memory) =
      caught (documentStore.run services (entryPoint.finish queryHandler ⟨validated, none⟩)
        (contents, following)) := by
  obtain ⟨identified, known, valid⟩ := admitted
  unfold EntryPoint.Identified at known
  rw [run_entryPoint, known]
  dsimp only
  rw [valid]

/-- A request that has been answered passes the later middlewares unchanged. -/
theorem validate_posted (identified : FrontendRequest) (frontendResponse : FrontendResponse) :
    entryPoint.validate ⟨identified, some frontendResponse⟩ =
      .ok ⟨identified, some frontendResponse⟩ := by
  cases entryPoint <;> rfl

omit [DocumentProcessing] in
theorem finish_posted (queryHandler : QueryHandlerPlugin) (validated : FrontendRequest)
    (frontendResponse : FrontendResponse) :
    entryPoint.finish queryHandler ⟨validated, some frontendResponse⟩ = pure frontendResponse := by
  cases entryPoint <;> rfl

/-- A request that is not admitted is answered by an error, whatever is stored. -/
theorem run_dismissed {queryHandler : QueryHandlerPlugin}
    (dismissed : ∀ validated following,
      ¬ entryPoint.Admits services frontendRequest memory validated following) :
    ∃ frontendResponse following, 400 ≤ frontendResponse.statusCode ∧
      ∀ {Contents : Type} (documentStore : DocumentStore Contents) (contents : Contents),
        documentStore.run services (entryPoint.run queryHandler frontendRequest)
          (contents, memory) = (.ok frontendResponse, (contents, following)) := by
  have identifying := @Program.Within.runState_value _ _ _ _ _ services.answer memory _ _ _
    (EntryPoint.identifying_identify entryPoint
      ⟨{ frontendRequest with action := entryPoint.action }, none⟩)
  cases outcome : Program.runState services.answer (entryPoint.identify
      ⟨{ frontendRequest with action := entryPoint.action }, none⟩) memory with
  | mk answered following =>
      rw [outcome] at identifying
      cases answered with
      | error error =>
          refine ⟨.ofStatus 500, following, by decide, fun documentStore contents => ?_⟩
          rw [run_entryPoint, outcome]
          rfl
      | ok identified =>
          have refused := identifying.refused (refused_none _)
          obtain ⟨identified, posted⟩ := identified
          cases posted with
          | some frontendResponse =>
              refine ⟨frontendResponse, following, refused _ rfl, fun documentStore contents => ?_⟩
              rw [run_entryPoint, outcome]
              dsimp only
              rw [validate_posted]
              dsimp only
              rw [finish_posted]
              rfl
          | none =>
              cases valid : entryPoint.validate ⟨identified, none⟩ with
              | error error =>
                  refine ⟨.ofStatus 500, following, by decide, fun documentStore contents => ?_⟩
                  rw [run_entryPoint, outcome]
                  dsimp only
                  rw [valid]
                  rfl
              | ok model =>
                  have invalid := (EntryPoint.validates_validate valid).refused refused
                  obtain ⟨validated, posted⟩ := model
                  cases posted with
                  | none => exact absurd ⟨identified, outcome, valid⟩ (dismissed validated following)
                  | some frontendResponse =>
                      refine ⟨frontendResponse, following, invalid _ rfl,
                        fun documentStore contents => ?_⟩
                      rw [run_entryPoint, outcome]
                      dsimp only
                      rw [valid]
                      dsimp only
                      rw [finish_posted]
                      rfl

end Admission
end Meadowlark.Core
