import Meadowlark.Proof.Core.Writes

namespace Meadowlark.Core
open Systems

section Responses
variable {frontendRequest : FrontendRequest} {frontendResponse : FrontendResponse}

theorem blockedResponse_error {failureMessage : Option FailureMessage}
    {referringDocumentInfo : List ReferringDocumentInfo}
    (built : blockedResponse frontendRequest failureMessage referringDocumentInfo =
      .ok frontendResponse) : 400 ≤ frontendResponse.statusCode := by
  obtain ⟨blockingUris, -, same⟩ := ok_of_bind built
  obtain rfl := Except.ok.inj same
  exact (by decide : 400 ≤ 409)

theorem upsertResponse_success {result : UpsertResult}
    (built : upsertResponse frontendRequest result = .ok frontendResponse)
    (success : frontendResponse.success) : result.succeeded = true := by
  cases result with
  | insertSuccess newDocumentUuid => rfl
  | updateSuccess existingDocumentUuid => rfl
  | insertFailureReference failureMessage referringDocumentInfo =>
      exact absurd success (not_success (blockedResponse_error built))
  | insertFailureConflict failureMessage referringDocumentInfo =>
      exact absurd success (not_success (blockedResponse_error built))
  | updateFailureReference failureMessage referringDocumentInfo =>
      exact absurd success (not_success (blockedResponse_error built))
  | upsertFailureWriteConflict failureMessage =>
      cases built
      exact absurd success (not_success (by decide : 400 ≤ 409))
  | unknownFailure failureMessage =>
      cases built
      exact absurd success (not_success (by decide : 400 ≤ 500))

theorem updateResponse_success {result : UpdateResult}
    (built : updateResponse frontendRequest result = .ok frontendResponse)
    (success : frontendResponse.success) : result.succeeded = true := by
  cases result with
  | updateSuccess => rfl
  | updateFailureReference failureMessage referringDocumentInfo =>
      exact absurd success (not_success (blockedResponse_error built))
  | updateFailureConflict failureMessage referringDocumentInfo =>
      obtain ⟨blockingUris, -, same⟩ := ok_of_bind built
      cases same
      exact absurd success (not_success (by decide : 400 ≤ 409))
  | updateFailureNotExists =>
      cases built
      exact absurd success (not_success (by decide : 400 ≤ 404))
  | updateFailureWriteConflict failureMessage =>
      cases built
      exact absurd success (not_success (by decide : 400 ≤ 409))
  | updateFailureImmutableIdentity =>
      cases built
      exact absurd success (not_success (by decide : 400 ≤ 400))
  | updateCascadeRequired =>
      cases built
      exact absurd success (not_success (by decide : 400 ≤ 409))
  | unknownFailure failureMessage =>
      cases built
      exact absurd success (not_success (by decide : 400 ≤ 500))

theorem deleteResponse_success {result : DeleteResult}
    (built : deleteResponse frontendRequest result = .ok frontendResponse)
    (success : frontendResponse.success) : result.succeeded = true := by
  cases result with
  | deleteSuccess => rfl
  | deleteFailureReference referringDocumentInfo =>
      obtain ⟨blockingUris, -, same⟩ := ok_of_bind built
      cases same
      exact absurd success (not_success (by decide : 400 ≤ 409))
  | deleteFailureNotExists =>
      cases built
      exact absurd success (not_success (by decide : 400 ≤ 404))
  | deleteFailureWriteConflict failureMessage =>
      cases built
      exact absurd success (not_success (by decide : 400 ≤ 404))
  | unknownFailure failureMessage =>
      cases built
      exact absurd success (not_success (by decide : 400 ≤ 500))

/-- A read succeeds when the document is found and its date has a text. -/
theorem getResponse_success [NodeRuntime] {result : GetResult} :
    (∃ frontendResponse, getResponse frontendRequest result = .ok frontendResponse ∧
        frontendResponse.success) ↔
      ∃ documentUuid edfiDoc lastModifiedDate,
        result = .getSuccess documentUuid edfiDoc lastModifiedDate ∧
          (NodeRuntime.dateToISOString lastModifiedDate).isSome = true := by
  constructor
  · rintro ⟨frontendResponse, built, success⟩
    cases result with
    | unknownFailure =>
        cases built
        exact absurd success (not_success (by decide : 400 ≤ 500))
    | getFailureNotExists =>
        cases built
        exact absurd success (not_success (by decide : 400 ≤ 404))
    | getSuccess documentUuid edfiDoc lastModifiedDate =>
        refine ⟨documentUuid, edfiDoc, lastModifiedDate, rfl, ?_⟩
        unfold getResponse at built
        dsimp only at built
        cases formatted : NodeRuntime.dateToISOString lastModifiedDate with
        | none =>
            rw [formatted] at built
            cases built
        | some text => rfl
  · rintro ⟨documentUuid, edfiDoc, lastModifiedDate, rfl, formatted⟩
    obtain ⟨text, formatted⟩ := Option.isSome_iff_exists.mp formatted
    unfold getResponse
    dsimp only
    rw [formatted]
    exact ⟨_, rfl, (by decide : 200 ≤ 200), (by decide : 200 < 300)⟩

end Responses

section Confinement
variable {Contents View Memory : Type} {documentStore : DocumentStore Contents}
  {services : Services Memory} {contents : Contents} {memory : Memory}

/-- The document store answers the write with a success. -/
def WriteRequest.Succeeds (documentStore : DocumentStore Contents) (contents : Contents) :
    WriteRequest → Prop
  | .upsert request => ∃ result, (documentStore.upsertDocument request contents).1 = .ok result ∧
      result.succeeded = true
  | .update request => ∃ result,
      (documentStore.updateDocumentById request contents).1 = .ok result ∧ result.succeeded = true
  | .delete request => ∃ result,
      (documentStore.deleteDocumentById request contents).1 = .ok result ∧ result.succeeded = true

/-- A write that is answered by a success was announced, and the document store made it. -/
theorem WriteRequest.outcome_success {write : WriteRequest} {frontendRequest : FrontendRequest}
    {frontendResponse : FrontendResponse}
    (responded : (write.outcome documentStore services frontendRequest contents memory).1 =
      .ok frontendResponse) (success : frontendResponse.success) :
    (services.answer (.publish write.announcement) memory).1 = .ok () ∧
      write.Succeeds documentStore contents := by
  cases write with
  | upsert request =>
      obtain ⟨heard, result, answered, -, built⟩ := announced_response.mp responded
      exact ⟨heard, result, answered, upsertResponse_success built success⟩
  | update request =>
      obtain ⟨heard, result, answered, -, built⟩ := announced_response.mp responded
      exact ⟨heard, result, answered, updateResponse_success built success⟩
  | delete request =>
      obtain ⟨heard, result, answered, -, built⟩ := announced_response.mp responded
      exact ⟨heard, result, answered, deleteResponse_success built success⟩

/-- The request changes nothing of what the view shows and is not answered by a success. -/
def Confined (view : Contents → View) (contents : Contents)
    (outcome : Except Exception FrontendResponse × (Contents × Memory)) : Prop :=
  view outcome.2.1 = view contents ∧
    ∀ frontendResponse, outcome.1 = .ok frontendResponse → ¬ frontendResponse.success

theorem confined_error (view : Contents → View) (memory : Memory)
    {frontendResponse : FrontendResponse} (error : 400 ≤ frontendResponse.statusCode) :
    Confined view contents (.ok frontendResponse, (contents, memory)) := by
  refine ⟨rfl, ?_⟩
  rintro _ ⟨⟩
  exact not_success error

/-- A caught error does not let a request out. -/
theorem confined_caught {view : Contents → View}
    {outcome : Except Exception FrontendResponse × (Contents × Memory)} :
    Confined view contents (caught outcome) ↔ Confined view contents outcome := by
  unfold Confined
  rw [caught_world]
  refine and_congr_right fun _ => ⟨fun confined => ?_, fun confined => ?_⟩
  · intro frontendResponse responded success
    obtain ⟨outcome, world⟩ := outcome
    cases responded
    exact confined frontendResponse rfl success
  · intro frontendResponse responded success
    exact confined frontendResponse (caught_success responded success) success

/-- A call that keeps the contents is confined unless a success reports it. -/
theorem announced_confined_iff {Result : Type} {before : ListenerEvent}
    {answer : Except Exception Result} {after : Result → ListenerEvent}
    {respond : Result → Except Exception FrontendResponse} (view : Contents → View) :
    Confined view contents (announced services before (answer, contents) after respond contents
        memory) ↔
      ¬ ((services.answer (.publish before) memory).1 = .ok () ∧
        ∃ result, answer = .ok result ∧
          (services.answer (.publish (after result))
            (services.answer (.publish before) memory).2).1 = .ok () ∧
          ∃ frontendResponse, respond result = .ok frontendResponse ∧ frontendResponse.success) := by
  have kept : (announced services before (answer, contents) after respond contents memory).2.1 =
      contents := by
    rw [announced_contents]
    split
    · rfl
    · rfl
  unfold Confined
  rw [kept]
  constructor
  · rintro ⟨-, confined⟩ ⟨heard, result, answered, reported, frontendResponse, built, success⟩
    exact confined frontendResponse
      (announced_response.mpr ⟨heard, result, answered, reported, built⟩) success
  · intro quiet
    refine ⟨rfl, fun frontendResponse responded success => ?_⟩
    obtain ⟨heard, result, answered, reported, built⟩ := announced_response.mp responded
    exact quiet ⟨heard, result, answered, reported, frontendResponse, built, success⟩

/-- A write is confined unless it is heard of and succeeds. -/
theorem WriteRequest.outcome_confined_iff {write : WriteRequest} {frontendRequest : FrontendRequest}
    {view : Contents → View}
    (settled : view (write.contents documentStore contents) = view contents ↔
      ¬ write.Succeeds documentStore contents) :
    Confined view contents (write.outcome documentStore services frontendRequest contents memory) ↔
      ¬ ((services.answer (.publish write.announcement) memory).1 = .ok () ∧
        write.Succeeds documentStore contents) := by
  unfold Confined
  rw [WriteRequest.outcome_contents]
  constructor
  · rintro ⟨kept, -⟩ ⟨heard, succeeds⟩
    rw [heard] at kept
    exact settled.mp kept succeeds
  · intro quiet
    constructor
    · cases heard : (services.answer (.publish write.announcement) memory).1 with
      | error error => rfl
      | ok value => exact settled.mpr fun succeeds => quiet ⟨heard, succeeds⟩
    · intro frontendResponse responded success
      exact quiet (WriteRequest.outcome_success responded success)

end Confinement

section Guard
variable {Contents : Type} {documentStore : DocumentStore Contents} {contents : Contents}
  {frontendRequest : FrontendRequest} {documentUuid : DocumentUuid}

/-- What the frontend finds out about a stored document. -/
structure StoredDocument where
  projectName : String
  resourceName : String
  createdBy : String
  edfiDoc : Json
  lastModifiedAt : Int

/-- Reads through the endpoint of a descriptor are not checked. -/
def ReadsDescriptor (frontendRequest : FrontendRequest) : Prop :=
  frontendRequest.middleware.resourceInfo.isDescriptor = true ∧
    (frontendRequest.action = .getById ∨ frontendRequest.action = .query)

instance (frontendRequest : FrontendRequest) : Decidable (ReadsDescriptor frontendRequest) :=
  inferInstanceAs (Decidable (_ ∧ _))

/-- The answer of the ownership check about a document. -/
def accessTo (frontendRequest : FrontendRequest) (createdBy : String) : SecurityResult :=
  if ReadsDescriptor frontendRequest then .notApplicable
  else if createdBy = frontendRequest.middleware.security.clientId then .accessApproved
  else .accessDenied

/-- The document store finds a document under a uuid, for its check and for its read. -/
structure DocumentStore.Serves (documentStore : DocumentStore Contents) (contents : Contents)
    (documentUuid : DocumentUuid) (document : StoredDocument) : Prop where
  checked (frontendRequest : FrontendRequest) :
    frontendRequest.middleware.pathComponents.documentUuid = some documentUuid →
      documentStore.rejectByOwnershipSecurity frontendRequest contents =
        (.ok (accessTo frontendRequest document.createdBy), contents)
  read (getRequest : GetRequest) : getRequest.documentUuid = documentUuid →
    documentStore.getDocumentById getRequest contents =
      (.ok (.getSuccess documentUuid document.edfiDoc document.lastModifiedAt), contents)

/-- The guard lets a request for a document of this creator pass. -/
def Permitted (frontendRequest : FrontendRequest) (createdBy : String) : Prop :=
  frontendRequest.middleware.security.authorizationStrategy ≠ .ownershipBased ∨
    ReadsDescriptor frontendRequest ∨ createdBy = frontendRequest.middleware.security.clientId

theorem DocumentStore.Serves.guard {document : StoredDocument}
    (serves : documentStore.Serves contents documentUuid document)
    (named : frontendRequest.middleware.pathComponents.documentUuid = some documentUuid) :
    ∃ result, guardAnswer documentStore frontendRequest contents = (.ok result, contents) ∧
      (result.permits = true ↔ Permitted frontendRequest document.createdBy) := by
  unfold guardAnswer Permitted
  split
  · rename_i ownership
    refine ⟨_, serves.checked frontendRequest named, ?_⟩
    unfold accessTo
    split
    · simp [SecurityResult.permits, *]
    · split
      · simp [SecurityResult.permits, *]
      · simp [SecurityResult.permits, *]
  · rename_i unchecked
    exact ⟨.notApplicable, rfl, by simp [SecurityResult.permits, unchecked]⟩

end Guard

section Requests
variable [NodeRuntime] [DocumentProcessing] {Contents View Memory : Type}
  {documentStore : DocumentStore Contents} {services : Services Memory} {contents : Contents}
  {memory : Memory} {entryPoint : EntryPoint} {frontendRequest : FrontendRequest}
  {document : StoredDocument} {queryHandler : QueryHandlerPlugin}

/-- The request is admitted, and the listeners hear of the write that it comes to. -/
def EntryPoint.Requests (services : Services Memory) (entryPoint : EntryPoint)
    (frontendRequest : FrontendRequest) (memory : Memory) (validated : FrontendRequest)
    (write : WriteRequest) : Prop :=
  ∃ following, entryPoint.Admits services frontendRequest memory validated following ∧
    plannedWrite entryPoint validated = some write ∧
      (services.answer (.publish write.announcement) following).1 = .ok ()

/-- The request is admitted for a document, and the listeners hear of its read. -/
def Reads (services : Services Memory) (frontendRequest : FrontendRequest) (memory : Memory)
    (document : StoredDocument) : Prop :=
  ∃ validated following documentUuid,
    EntryPoint.getById.Admits services frontendRequest memory validated following ∧
    validated.middleware.pathComponents.documentUuid = some documentUuid ∧
    Permitted validated document.createdBy ∧
    (services.answer (.publish (.beforeGetDocumentById (getRequestFrom validated documentUuid)))
      following).1 = .ok () ∧
    (services.answer (.publish (.afterGetDocumentById (getRequestFrom validated documentUuid)
        (.getSuccess documentUuid document.edfiDoc document.lastModifiedAt)))
      (services.answer (.publish (.beforeGetDocumentById
        (getRequestFrom validated documentUuid))) following).2).1 = .ok () ∧
    (NodeRuntime.dateToISOString document.lastModifiedAt).isSome = true

/-- Every admitted request of the entry point names a uuid under which the document is stored. -/
def Addresses (documentStore : DocumentStore Contents) (contents : Contents)
    (services : Services Memory) (entryPoint : EntryPoint) (frontendRequest : FrontendRequest)
    (memory : Memory) (document : StoredDocument) : Prop :=
  ∀ validated following, entryPoint.Admits services frontendRequest memory validated following →
    ∃ documentUuid, validated.middleware.pathComponents.documentUuid = some documentUuid ∧
      documentStore.Serves contents documentUuid document

omit [NodeRuntime] [DocumentProcessing] in
theorem EntryPoint.Admits.unique [NodeRuntime] [DocumentProcessing]
    {first second : FrontendRequest} {firstMemory secondMemory : Memory}
    (admitted : entryPoint.Admits services frontendRequest memory first firstMemory)
    (again : entryPoint.Admits services frontendRequest memory second secondMemory) :
    first = second ∧ firstMemory = secondMemory := by
  obtain ⟨identified, known, valid⟩ := admitted
  obtain ⟨other, knownAgain, validAgain⟩ := again
  obtain ⟨same, rfl⟩ := Prod.mk.inj (known.symm.trans knownAgain)
  obtain rfl : identified = other := congrArg MiddlewareModel.frontendRequest (Except.ok.inj same)
  exact ⟨congrArg MiddlewareModel.frontendRequest (Except.ok.inj (valid.symm.trans validAgain)), rfl⟩

/-- The guard alone decides whether an admitted request for a document reaches its handler. -/
theorem run_served {validated : FrontendRequest} {following : Memory} {documentUuid : DocumentUuid}
    (guards : entryPoint ≠ .query)
    (admitted : entryPoint.Admits services frontendRequest memory validated following)
    (named : validated.middleware.pathComponents.documentUuid = some documentUuid)
    (serves : documentStore.Serves contents documentUuid document) :
    (Permitted validated document.createdBy ∧
      documentStore.run services (entryPoint.run queryHandler frontendRequest) (contents, memory) =
        caught (documentStore.run services (entryPoint.handle queryHandler validated)
          (contents, following))) ∨
    (¬ Permitted validated document.createdBy ∧ ∃ result,
      documentStore.run services (entryPoint.run queryHandler frontendRequest) (contents, memory) =
        (.ok (rejection result), (contents, following))) := by
  obtain ⟨result, answered, permits⟩ := serves.guard named
  rw [run_admitted admitted, run_finish guards, answered]
  dsimp only
  by_cases permitted : Permitted validated document.createdBy
  · left
    refine ⟨permitted, ?_⟩
    rw [if_pos (permits.mpr permitted)]
  · right
    refine ⟨permitted, result, ?_⟩
    rw [if_neg fun passed => permitted (permits.mp passed)]
    rfl

omit [DocumentProcessing] in
theorem run_getById {validated : FrontendRequest} {documentUuid : DocumentUuid}
    (named : validated.middleware.pathComponents.documentUuid = some documentUuid) :
    documentStore.run services (EntryPoint.getById.handle queryHandler validated)
        (contents, memory) =
      announced services (.beforeGetDocumentById (getRequestFrom validated documentUuid))
        (documentStore.getDocumentById (getRequestFrom validated documentUuid) contents)
        (.afterGetDocumentById (getRequestFrom validated documentUuid)) (getResponse validated)
        contents memory := by
  unfold EntryPoint.handle GetById.getById
  dsimp only
  rw [named]
  exact @run_announced _ _ documentStore services contents memory _
    (perform (.getDocumentById _)) _ (documentStore.getDocumentById _ contents) _ _ fun _ => rfl

/-- A read through the entry point is confined unless it comes to the document. -/
theorem getById_confined_iff (view : Contents → View)
    (addresses : Addresses documentStore contents services .getById frontendRequest memory document) :
    Confined view contents (documentStore.run services
        (EntryPoint.getById.run queryHandler frontendRequest) (contents, memory)) ↔
      ¬ Reads services frontendRequest memory document := by
  by_cases admits : ∃ validated following,
      EntryPoint.getById.Admits services frontendRequest memory validated following
  · obtain ⟨validated, following, admitted⟩ := admits
    obtain ⟨documentUuid, named, serves⟩ := addresses validated following admitted
    have read := serves.read (getRequestFrom validated documentUuid) rfl
    have guarded : EntryPoint.getById ≠ .query := by decide
    rcases @run_served _ _ _ _ documentStore services contents memory _ frontendRequest document
        queryHandler _ _ _ guarded admitted named serves with
      ⟨permitted, done⟩ | ⟨denied, result, done⟩
    · rw [done, confined_caught, run_getById named, read, announced_confined_iff, not_iff_not]
      constructor
      · rintro ⟨heard, result, answered, reported, built⟩
        cases answered
        obtain ⟨_, _, lastModifiedDate, same, formatted⟩ := getResponse_success.mp built
        cases same
        exact ⟨validated, following, documentUuid, admitted, named, permitted, heard, reported,
          formatted⟩
      · rintro ⟨other, last, otherUuid, again, namedAgain, -, heard, reported, formatted⟩
        obtain ⟨rfl, rfl⟩ := admitted.unique again
        obtain rfl : documentUuid = otherUuid := Option.some.inj (named.symm.trans namedAgain)
        exact ⟨heard, _, rfl, reported, getResponse_success.mpr ⟨_, _, _, rfl, formatted⟩⟩
    · rw [done]
      refine iff_of_true (confined_error view following (rejection_error result)) ?_
      rintro ⟨other, last, _, again, -, permitted, -⟩
      obtain ⟨rfl, rfl⟩ := admitted.unique again
      exact denied permitted
  · have dismissed : ∀ validated following,
        ¬ EntryPoint.getById.Admits services frontendRequest memory validated following :=
      fun validated following admitted => admits ⟨validated, following, admitted⟩
    obtain ⟨frontendResponse, following, error, done⟩ :=
      @run_dismissed _ _ services memory _ frontendRequest _ queryHandler dismissed
    rw [done]
    refine iff_of_true (confined_error view following error) ?_
    rintro ⟨validated, last, documentUuid, admitted, -⟩
    exact dismissed validated last admitted

/-- A write through the entry point is confined unless it is permitted and succeeds. -/
theorem write_confined_iff {view : Contents → View} (writes : entryPoint.writes = true)
    (addresses : Addresses documentStore contents services entryPoint frontendRequest memory document)
    (settled : ∀ validated write,
      entryPoint.Requests services frontendRequest memory validated write →
        (view (write.contents documentStore contents) = view contents ↔
          ¬ write.Succeeds documentStore contents)) :
    Confined view contents (documentStore.run services
        (entryPoint.run queryHandler frontendRequest) (contents, memory)) ↔
      ¬ ∃ validated write, entryPoint.Requests services frontendRequest memory validated write ∧
        Permitted validated document.createdBy ∧ write.Succeeds documentStore contents := by
  have guarded : entryPoint ≠ .query := by
    rintro rfl
    cases writes
  by_cases admits : ∃ validated following,
      entryPoint.Admits services frontendRequest memory validated following
  · obtain ⟨validated, following, admitted⟩ := admits
    obtain ⟨documentUuid, named, serves⟩ := addresses validated following admitted
    rcases @run_served _ _ _ _ documentStore services contents memory _ frontendRequest document
        queryHandler _ _ _ guarded admitted named serves with
      ⟨permitted, done⟩ | ⟨denied, result, done⟩
    · rw [done, confined_caught]
      cases planned : plannedWrite entryPoint validated with
      | none =>
          rw [run_unplanned writes planned]
          refine iff_of_true (confined_error view following (unplannedResponse_error _ _)) ?_
          rintro ⟨other, write, ⟨last, again, plannedAgain, -⟩, -⟩
          obtain ⟨rfl, rfl⟩ := admitted.unique again
          rw [planned] at plannedAgain
          cases plannedAgain
      | some write =>
          rw [run_planned planned, confined_caught]
          by_cases heard : (services.answer (.publish write.announcement) following).1 = .ok ()
          · rw [WriteRequest.outcome_confined_iff
              (settled validated write ⟨following, admitted, planned, heard⟩), not_iff_not]
            constructor
            · rintro ⟨-, succeeds⟩
              exact ⟨validated, write, ⟨following, admitted, planned, heard⟩, permitted, succeeds⟩
            · rintro ⟨other, otherWrite, ⟨last, again, plannedAgain, -⟩, -, succeeds⟩
              obtain ⟨rfl, rfl⟩ := admitted.unique again
              obtain rfl := Option.some.inj (planned.symm.trans plannedAgain)
              exact ⟨heard, succeeds⟩
          · refine iff_of_true ⟨?_, fun frontendResponse responded success => heard
              (WriteRequest.outcome_success responded success).1⟩ ?_
            · rw [WriteRequest.outcome_contents]
              cases hears : (services.answer (.publish write.announcement) following).1 with
              | error error => rfl
              | ok value => exact absurd hears heard
            · rintro ⟨other, otherWrite, ⟨last, again, plannedAgain, heardAgain⟩, -⟩
              obtain ⟨rfl, rfl⟩ := admitted.unique again
              obtain rfl := Option.some.inj (planned.symm.trans plannedAgain)
              exact heard heardAgain
    · rw [done]
      refine iff_of_true (confined_error view following (rejection_error result)) ?_
      rintro ⟨other, write, ⟨last, again, -⟩, permitted, -⟩
      obtain ⟨rfl, rfl⟩ := admitted.unique again
      exact denied permitted
  · have dismissed : ∀ validated following,
        ¬ entryPoint.Admits services frontendRequest memory validated following :=
      fun validated following admitted => admits ⟨validated, following, admitted⟩
    obtain ⟨frontendResponse, following, error, done⟩ :=
      @run_dismissed _ _ services memory _ frontendRequest _ queryHandler dismissed
    rw [done]
    refine iff_of_true (confined_error view following error) ?_
    rintro ⟨validated, write, ⟨last, admitted, -⟩, -⟩
    exact dismissed validated last admitted

end Requests
end Meadowlark.Core
