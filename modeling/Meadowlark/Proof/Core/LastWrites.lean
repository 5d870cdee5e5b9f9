import Meadowlark.Proof.Core.Listeners

namespace Meadowlark.Core
open Systems

section Attention
variable {State Memory : Type} {services : Services Memory} {listener : Listener State}

theorem Services.Attentive.subscribe (attentive : services.Attentive)
    (heard : ∀ event state, (listener.hear event state).1 = .ok ()) :
    (services.subscribe listener).Attentive := by
  rintro event ⟨state, memory⟩
  rw [subscribe_publish]
  dsimp only
  rw [heard, attentive]
  rfl

end Attention

section Reads
variable [NodeRuntime] {Contents Memory : Type} {documentStore : DocumentStore Contents}
  {services : Services Memory} {contents : Contents} {memory : Memory} {deposits : Deposits}
  {documentUuid : DocumentUuid} {shown : Json → Json}

/-- The check and the read find nothing under the uuid. -/
structure DocumentStore.Lacks (documentStore : DocumentStore Contents) (contents : Contents)
    (documentUuid : DocumentUuid) : Prop where
  checked (frontendRequest : FrontendRequest) :
    frontendRequest.middleware.pathComponents.documentUuid = some documentUuid →
      documentStore.rejectByOwnershipSecurity frontendRequest contents =
        (.ok .notApplicable, contents)
  read (getRequest : GetRequest) : getRequest.documentUuid = documentUuid →
    documentStore.getDocumentById getRequest contents = (.ok .getFailureNotExists, contents)

/-- The document store serves the deposits as it shows their documents. -/
structure DocumentStore.ServesDeposits (documentStore : DocumentStore Contents)
    (contents : Contents) (shown : Json → Json) (deposits : Deposits)
    (documentUuid : DocumentUuid) : Prop where
  present (request : UpsertRequest) : deposits documentUuid = some request →
    ∃ document, documentStore.Serves contents documentUuid document ∧
      document.edfiDoc = shown request.edfiDoc ∧
      document.lastModifiedAt = request.documentInfo.requestTimestamp
  absent : deposits documentUuid = none → documentStore.Lacks contents documentUuid

/-- The answer to a read of a deposit, which is the document of its last write.
A timestamp without a text throws. -/
def depositResponse (shown : Json → Json) (deposits : Deposits) (validated : FrontendRequest)
    (documentUuid : DocumentUuid) : FrontendResponse :=
  match deposits documentUuid with
  | none => ⟨404, some validated.middleware.headerMetadata, none⟩
  | some request =>
      match NodeRuntime.dateToISOString request.documentInfo.requestTimestamp with
      | none => .ofStatus 500
      | some text => ⟨200, some validated.middleware.headerMetadata,
          some (Json.spread [[("id", .string documentUuid.value)], (shown request.edfiDoc).entries,
            [("_lastModifiedDate", .string text)]])⟩

/-- The client gets the last write, or it is denied the access to the document of another one. -/
def AnswersLastWrite (shown : Json → Json) (deposits : Deposits) (validated : FrontendRequest)
    (documentUuid : DocumentUuid) (outcome : Except Exception FrontendResponse) : Prop :=
  ∃ frontendResponse, outcome = .ok frontendResponse ∧
    (frontendResponse = depositResponse shown deposits validated documentUuid ∨
      (frontendResponse.statusCode = 403 ∧
        validated.middleware.security.authorizationStrategy = .ownershipBased ∧
        (deposits documentUuid).isSome = true))

/-- The result with which a document store reports a deposit. -/
def depositResult (shown : Json → Json) (deposits : Deposits) (documentUuid : DocumentUuid) :
    GetResult :=
  match deposits documentUuid with
  | none => .getFailureNotExists
  | some request =>
      .getSuccess documentUuid (shown request.edfiDoc) request.documentInfo.requestTimestamp

theorem replied_depositResult (validated : FrontendRequest) :
    replied (getResponse validated (depositResult shown deposits documentUuid)) =
      depositResponse shown deposits validated documentUuid := by
  unfold depositResult depositResponse
  cases deposits documentUuid with
  | none => rfl
  | some request =>
      unfold getResponse
      dsimp only
      cases NodeRuntime.dateToISOString request.documentInfo.requestTimestamp <;> rfl

omit [NodeRuntime] in
/-- An entry point always responds. -/
theorem caught_replied (outcome : Except Exception FrontendResponse × (Contents × Memory)) :
    (caught outcome).1 = .ok (replied (caught outcome).1) := by
  obtain ⟨response, world⟩ := outcome
  cases response <;> rfl

omit [NodeRuntime] in
/-- The guard lets a read pass, or it denies the access to a deposit of another client. -/
theorem DocumentStore.ServesDeposits.guard {validated : FrontendRequest}
    (serves : documentStore.ServesDeposits contents shown deposits documentUuid)
    (named : validated.middleware.pathComponents.documentUuid = some documentUuid) :
    ∃ result, guardAnswer documentStore validated contents = (.ok result, contents) ∧
      (result.permits = true ∨ (result = .accessDenied ∧
        validated.middleware.security.authorizationStrategy = .ownershipBased ∧
        (deposits documentUuid).isSome = true)) := by
  unfold guardAnswer
  by_cases ownership : validated.middleware.security.authorizationStrategy = .ownershipBased
  · rw [if_pos ownership]
    cases deposit : deposits documentUuid with
    | none =>
        rw [(serves.absent deposit).checked validated named]
        exact ⟨_, rfl, .inl rfl⟩
    | some request =>
        obtain ⟨document, served, -⟩ := serves.present request deposit
        rw [served.checked validated named]
        refine ⟨_, rfl, ?_⟩
        unfold accessTo
        split_ifs
        · exact .inl rfl
        · exact .inl rfl
        · exact .inr ⟨rfl, ownership, rfl⟩
  · rw [if_neg ownership]
    exact ⟨_, rfl, .inl rfl⟩

omit [NodeRuntime] in
theorem DocumentStore.ServesDeposits.read
    (serves : documentStore.ServesDeposits contents shown deposits documentUuid)
    (getRequest : GetRequest) (named : getRequest.documentUuid = documentUuid) :
    documentStore.getDocumentById getRequest contents =
      (.ok (depositResult shown deposits documentUuid), contents) := by
  unfold depositResult
  cases deposit : deposits documentUuid with
  | none => exact (serves.absent deposit).read getRequest named
  | some request =>
      obtain ⟨document, served, shows, time⟩ := serves.present request deposit
      dsimp only
      rw [served.read getRequest named, shows, time]

variable [DocumentProcessing] {frontendRequest : FrontendRequest}

/-- A request whose check finds the contents as they are. -/
theorem run_guarded {entryPoint : EntryPoint} {queryHandler : QueryHandlerPlugin}
    {validated : FrontendRequest} {following : Memory} {result : SecurityResult}
    (guards : entryPoint ≠ .query)
    (admitted : entryPoint.Admits services frontendRequest memory validated following)
    (answered : guardAnswer documentStore validated contents = (.ok result, contents)) :
    documentStore.run services (entryPoint.run queryHandler frontendRequest) (contents, memory) =
      caught (if result.permits then documentStore.run services
          (entryPoint.handle queryHandler validated) (contents, following)
        else (.ok (rejection result), (contents, following))) := by
  rw [run_admitted admitted, run_finish guards, answered]

/-- A read is answered with the last write, unless the check denies the access. -/
theorem getById_deposit {queryHandler : QueryHandlerPlugin} {validated : FrontendRequest}
    {following : Memory} (attentive : services.Attentive)
    (admitted : EntryPoint.getById.Admits services frontendRequest memory validated following)
    (named : validated.middleware.pathComponents.documentUuid = some documentUuid)
    (serves : documentStore.ServesDeposits contents shown deposits documentUuid) :
    AnswersLastWrite shown deposits validated documentUuid (documentStore.run services
      (EntryPoint.getById.run queryHandler frontendRequest) (contents, memory)).1 := by
  obtain ⟨result, answered, passes⟩ := serves.guard named
  rw [run_guarded (by decide) admitted answered]
  by_cases permits : result.permits = true
  · rw [if_pos permits, run_getById named, serves.read _ rfl]
    refine ⟨_, caught_replied _, .inl ?_⟩
    rw [announced_reply attentive]
    exact replied_depositResult validated
  · rw [if_neg permits]
    rcases passes with passed | ⟨rfl, ownership, deposited⟩
    · exact absurd passed permits
    · exact ⟨_, rfl, .inr ⟨rfl, ownership, deposited⟩⟩

end Reads
end Meadowlark.Core
