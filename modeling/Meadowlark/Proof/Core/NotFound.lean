import Meadowlark.Proof.Core.Endpoints
import Meadowlark.Proof.Core.Outcomes
import Meadowlark.Proof.Core.PathGrammar
import Meadowlark.Systems.CallTraces

namespace Meadowlark.Core
open Systems

section Outcome
variable {State : Type} {answer : (call : Call) → State → call.Answer × State} {state : State}
  {program : Frontend FrontendResponse}

/-- The calls to the document store and to the search engine. -/
def Call.operates : Call → Bool
  | .search _ => true
  | call => call.toDocumentStore

theorem Call.operates_of_identifies {call : Call} (identifies : call.identifies = true) :
    call.operates = false := by
  cases call <;> first | rfl | cases identifies

/-- The request is answered by a 404 before the document store or the search engine is called. -/
def NotFoundUntouched (answer : (call : Call) → State → call.Answer × State)
    (program : Frontend FrontendResponse) (state : State) : Prop :=
  ∃ frontendResponse, (Program.runState answer program state).1 = .ok frontendResponse ∧
    frontendResponse.statusCode = 404 ∧
    ∀ call ∈ Program.calls answer program state, call.operates = false

/-- A run has ended in a 404, and no call has operated. -/
def EndsUntouched (outcome : Except Exception FrontendResponse × (State × List Call)) : Prop :=
  ∃ frontendResponse, outcome.1 = .ok frontendResponse ∧ frontendResponse.statusCode = 404 ∧
    ∀ call ∈ outcome.2.2, call.operates = false

theorem notFoundUntouched_recording :
    NotFoundUntouched answer program state ↔
      EndsUntouched (Program.runState (Program.recording answer) program (state, [])) := by
  have same := @Program.runState_recording _ _ _ _ _ answer (state, []) program
  unfold NotFoundUntouched
  rw [same]
  exact Iff.rfl

/-- Wherever the program starts, it operates or is not answered by a 404. -/
def Handled (answer : (call : Call) → State → call.Answer × State)
    (program : Frontend FrontendResponse) : Prop :=
  ∀ world : State × List Call,
    ¬ EndsUntouched (Program.runState (Program.recording answer) program world)

theorem handled_call {call : Call} (operates : call.operates = true)
    {f : call.Result → Frontend FrontendResponse} : Handled answer (perform call >>= f) := by
  rintro world ⟨frontendResponse, -, -, untouched⟩
  have made : call ∈ (Program.runState (Program.recording answer) (perform call) world).2.2 :=
    List.mem_append_right _ (List.mem_singleton.mpr rfl)
  have quiet := untouched call (Program.recorded_bind made)
  rw [operates] at quiet
  cases quiet

theorem handled_after {A : Type} {first : Frontend A} {f : A → Frontend FrontendResponse}
    (rest : ∀ value, Handled answer (f value)) : Handled answer (first >>= f) := by
  rintro world ⟨frontendResponse, responded, missing, untouched⟩
  rw [Program.runState_bind] at responded untouched
  cases ran : Program.runState (Program.recording answer) first world with
  | mk outcome following =>
      rw [ran] at responded untouched
      cases outcome with
      | error error => cases responded
      | ok value => exact rest value following ⟨frontendResponse, responded, missing, untouched⟩

theorem handled_pure {frontendResponse : FrontendResponse}
    (found : frontendResponse.statusCode ≠ 404) : Handled answer (pure frontendResponse) := by
  rintro world ⟨other, responded, missing, -⟩
  obtain rfl := Except.ok.inj responded
  exact found missing

theorem handled_caught (handled : Handled answer program) :
    Handled answer (tryCatch program fun _ => pure (.ofStatus 500)) := by
  rintro world ⟨frontendResponse, responded, missing, untouched⟩
  rw [Program.runState_tryCatch] at responded untouched
  cases ran : Program.runState (Program.recording answer) program world with
  | mk outcome following =>
      rw [ran] at responded untouched
      cases outcome with
      | error error =>
          obtain rfl := Except.ok.inj responded
          exact absurd missing (by decide)
      | ok value =>
          apply handled world
          rw [ran]
          exact ⟨frontendResponse, responded, missing, untouched⟩

end Outcome

section Runs
variable [NodeRuntime] [DocumentProcessing] {State : Type}
  {answer : (call : Call) → State → call.Answer × State} {state following : State}
  {queryHandler : QueryHandlerPlugin} {entryPoint : EntryPoint}
  {frontendRequest identified validated : FrontendRequest}

omit [DocumentProcessing] in
/-- The client of a request is found out without any operation. -/
theorem EntryPoint.Identified.recorded
    (known : entryPoint.Identified answer frontendRequest state identified following) :
    ∃ calls, entryPoint.Identified (Program.recording answer) frontendRequest (state, []) identified
        (following, calls) ∧ ∀ call ∈ calls, call.operates = false := by
  have same := @Program.runState_recording _ _ _ _ _ answer (state, [])
    (entryPoint.identify ⟨{ frontendRequest with action := entryPoint.action }, none⟩)
  have quiet := @Program.Within.recorded _ _ _ _ _ answer (state, []) _ _ _
    (EntryPoint.identifying_identify entryPoint
      ⟨{ frontendRequest with action := entryPoint.action }, none⟩) (by simp)
  unfold EntryPoint.Identified at known ⊢
  rw [known] at same
  cases ran : Program.runState (Program.recording answer) (entryPoint.identify
      ⟨{ frontendRequest with action := entryPoint.action }, none⟩) (state, []) with
  | mk outcome world =>
      rw [ran] at same quiet
      obtain ⟨last, calls⟩ := world
      cases same
      exact ⟨calls, rfl, fun call inside => call.operates_of_identifies (quiet call inside)⟩

/-- A request that throws while it is validated is an internal error. -/
theorem untouched_thrown {error : Exception}
    (known : entryPoint.Identified answer frontendRequest state identified following)
    (thrown : entryPoint.validate ⟨identified, none⟩ = .error error) :
    ¬ NotFoundUntouched answer (entryPoint.run queryHandler frontendRequest) state := by
  rintro ⟨frontendResponse, responded, missing, -⟩
  rw [EntryPoint.run_identified known, thrown] at responded
  obtain rfl := Except.ok.inj responded
  exact absurd missing (by decide)

/-- A response that follows the validation without a call is the answer. -/
theorem untouched_finished {frontendResponse : FrontendResponse} {model : MiddlewareModel}
    (known : entryPoint.Identified answer frontendRequest state identified following)
    (valid : entryPoint.validate ⟨identified, none⟩ = .ok model)
    (finished : entryPoint.finish queryHandler model = pure frontendResponse) :
    NotFoundUntouched answer (entryPoint.run queryHandler frontendRequest) state ↔
      frontendResponse.statusCode = 404 := by
  obtain ⟨calls, recorded, quiet⟩ := known.recorded
  rw [notFoundUntouched_recording, EntryPoint.run_identified recorded, valid]
  dsimp only
  rw [finished, Program.runState_tryCatch, Program.runState_pure]
  constructor
  · rintro ⟨other, responded, missing, -⟩
    obtain rfl := Except.ok.inj responded
    exact missing
  · intro missing
    exact ⟨frontendResponse, rfl, missing, quiet⟩

/-- What is handled after the validation is no untouched 404. -/
theorem untouched_handled
    (known : entryPoint.Identified answer frontendRequest state identified following)
    (valid : entryPoint.validate ⟨identified, none⟩ = .ok ⟨validated, none⟩)
    (handled : Handled answer (entryPoint.finish queryHandler ⟨validated, none⟩)) :
    ¬ NotFoundUntouched answer (entryPoint.run queryHandler frontendRequest) state := by
  obtain ⟨calls, recorded, -⟩ := known.recorded
  rw [notFoundUntouched_recording, EntryPoint.run_identified recorded, valid]
  exact handled_caught handled _

omit [DocumentProcessing] [NodeRuntime] in
theorem queryResponse_found (result : QueryResult) :
    (queryResponse frontendRequest result).statusCode ≠ 404 := by
  obtain ⟨response, documents, failureMessage, totalCount⟩ := result
  unfold queryResponse
  cases response <;> simp

omit [DocumentProcessing] in
theorem handled_query : Handled answer (EntryPoint.finish queryHandler .query ⟨validated, none⟩) := by
  show Handled answer (Query.query queryHandler validated)
  apply handled_after
  intro heard
  apply handled_after
  intro result
  apply handled_after
  intro reported
  exact handled_pure (queryResponse_found result)

omit [DocumentProcessing] in
/-- The ownership check is a call to the document store. -/
theorem handled_guarded (guards : entryPoint ≠ .query)
    (ownership : validated.middleware.security.authorizationStrategy = .ownershipBased) :
    Handled answer (entryPoint.finish queryHandler ⟨validated, none⟩) := by
  unfold EntryPoint.finish
  rw [EntryPoint.guard_checked guards ownership, bind_assoc]
  exact handled_call rfl

omit [DocumentProcessing] in
/-- Without the ownership strategy the handler follows at once. -/
theorem finish_unguarded
    (unguarded : validated.middleware.security.authorizationStrategy ≠ .ownershipBased) :
    entryPoint.finish queryHandler ⟨validated, none⟩ = entryPoint.handle queryHandler validated := by
  have passed : backendFacade.securityMiddleware ⟨validated, none⟩ = pure ⟨validated, none⟩ :=
    if_pos unguarded
  cases entryPoint with
  | query => rfl
  | _ =>
      unfold EntryPoint.finish EntryPoint.guard
      dsimp only
      rw [passed]
      rfl

omit [DocumentProcessing] in
theorem handled_getById {documentUuid : DocumentUuid}
    (named : validated.middleware.pathComponents.documentUuid = some documentUuid) :
    Handled answer (EntryPoint.finish queryHandler .getById ⟨validated, none⟩) := by
  by_cases ownership : validated.middleware.security.authorizationStrategy = .ownershipBased
  · exact handled_guarded (by decide) ownership
  · rw [finish_unguarded ownership]
    unfold EntryPoint.handle GetById.getById
    dsimp only
    rw [named]
    exact handled_after fun heard => handled_call rfl

omit [DocumentProcessing] in
theorem handled_deleteIt {documentUuid : DocumentUuid}
    (named : validated.middleware.pathComponents.documentUuid = some documentUuid) :
    Handled answer (EntryPoint.finish queryHandler .deleteIt ⟨validated, none⟩) := by
  by_cases ownership : validated.middleware.security.authorizationStrategy = .ownershipBased
  · exact handled_guarded (by decide) ownership
  · rw [finish_unguarded ownership]
    unfold EntryPoint.handle Delete.deleteIt
    dsimp only
    rw [named]
    exact handled_caught (handled_after fun heard => handled_call rfl)

omit [DocumentProcessing] in
/-- A deletion without a uuid is answered before any operation. -/
theorem finish_unnamed (unnamed : validated.middleware.pathComponents.documentUuid = none)
    (unguarded : validated.middleware.security.authorizationStrategy ≠ .ownershipBased) :
    EntryPoint.deleteIt.finish queryHandler ⟨validated, none⟩ = pure (.ofStatus 404) := by
  rw [finish_unguarded unguarded]
  unfold EntryPoint.handle Delete.deleteIt
  dsimp only
  rw [unnamed]
  rfl

end Runs

section Paths
variable [NodeRuntime] [DocumentProcessing] {frontendRequest : FrontendRequest}
  {pathComponents : PathComponents}

omit [DocumentProcessing] in
/-- The components of a path that is not rejected. -/
def acceptedComponents (path : String) : Option PathComponents :=
  (pathComponentsFrom path).filter fun pathComponents =>
    pathComponents.documentUuid.all isDocumentUuidWellFormed

omit [DocumentProcessing] in
theorem parsePath_accepted (accepted : acceptedComponents frontendRequest.path = some pathComponents) :
    parsePath ⟨frontendRequest, none⟩ = continueWith frontendRequest
      { frontendRequest.middleware with pathComponents := pathComponents } := by
  obtain ⟨matched, wellFormed⟩ := Option.filter_eq_some_iff.mp accepted
  exact parsePath_wellFormed matched wellFormed

omit [DocumentProcessing] in
theorem parsePath_rejected (rejected : acceptedComponents frontendRequest.path = none) :
    parsePath ⟨frontendRequest, none⟩ = respondWith frontendRequest (.ofStatus 404) := by
  cases matched : pathComponentsFrom frontendRequest.path with
  | none => exact parsePath_unmatched matched
  | some pathComponents =>
      unfold acceptedComponents at rejected
      rw [matched, Option.filter_eq_none_iff] at rejected
      exact parsePath_malformed matched (rejected pathComponents rfl)

theorem validateWrite_rejected (rejected : acceptedComponents frontendRequest.path = none) :
    validateWrite ⟨frontendRequest, none⟩ = .ok (respondWith frontendRequest (.ofStatus 404)) := by
  unfold validateWrite
  rw [parsePath_rejected rejected]
  rfl

/-- The body is there, and it is valid JSON. -/
def ReadableBody (frontendRequest : FrontendRequest) : Prop :=
  ∃ body parsedBody, frontendRequest.body = some body ∧ Json.parse body = some parsedBody

omit [DocumentProcessing] in
/-- A request with an accepted path and a readable body comes to the validation of its endpoint. -/
theorem parseBody_accepted (readable : ReadableBody frontendRequest)
    (accepted : acceptedComponents frontendRequest.path = some pathComponents) :
    ∃ parsed, parseBody (parsePath ⟨frontendRequest, none⟩) = ⟨parsed, none⟩ ∧
      parsed.middleware.apiSchema = frontendRequest.middleware.apiSchema ∧
      parsed.middleware.pathComponents = pathComponents := by
  obtain ⟨body, parsedBody, present, read⟩ := readable
  rw [parsePath_accepted accepted]
  unfold parseBody continueWith
  dsimp only
  rw [present]
  dsimp only
  rw [read]
  exact ⟨_, rfl, rfl, rfl⟩

theorem validateWrite_unlisted (readable : ReadableBody frontendRequest)
    (accepted : acceptedComponents frontendRequest.path = some pathComponents)
    (unlisted : Unlisted frontendRequest.middleware.apiSchema pathComponents) :
    ∃ validated frontendResponse, frontendResponse.statusCode = 404 ∧
      validateWrite ⟨frontendRequest, none⟩ = .ok ⟨validated, some frontendResponse⟩ := by
  obtain ⟨parsed, passed, schema, path⟩ := parseBody_accepted readable accepted
  rw [← schema, ← path] at unlisted
  obtain ⟨frontendResponse, missing, refused⟩ := endpointValidation_unlisted unlisted
  unfold validateWrite
  rw [passed, refused]
  exact ⟨parsed, frontendResponse, missing, rfl⟩

/-- A write to an endpoint that no project has throws unless the endpoint is unlisted. -/
theorem validateWrite_throws (readable : ReadableBody frontendRequest)
    (accepted : acceptedComponents frontendRequest.path = some pathComponents)
    (listed : ¬ Unlisted frontendRequest.middleware.apiSchema pathComponents)
    (refuses : ∀ resourceSchema resourceInfo,
      Resolves frontendRequest.middleware.apiSchema pathComponents resourceSchema resourceInfo →
        ∀ parsedBody isUpdate verdict,
          DocumentProcessing.validateDocument resourceSchema parsedBody isUpdate ≠ .ok verdict) :
    ∃ error, validateWrite ⟨frontendRequest, none⟩ = .error error := by
  obtain ⟨parsed, passed, schema, path⟩ := parseBody_accepted readable accepted
  rw [← schema, ← path] at listed refuses
  unfold validateWrite
  rw [passed]
  by_cases resolved : ∃ resourceSchema resourceInfo, Resolves parsed.middleware.apiSchema
      parsed.middleware.pathComponents resourceSchema resourceInfo
  · obtain ⟨resourceSchema, resourceInfo, resolves⟩ := resolved
    obtain ⟨headerMetadata, found⟩ := endpointValidation_resolves resolves
    rw [found]
    cases valid : DocumentProcessing.validateDocument resourceSchema parsed.middleware.parsedBody
        (parsed.action = .updateById) with
    | ok verdict => exact absurd valid (refuses _ _ resolves _ _ _)
    | error error =>
        refine ⟨error, ?_⟩
        show (documentValidation _ >>= _) = _
        have thrown : documentValidation (continueWith parsed
            { parsed.middleware with
              resourceSchema := resourceSchema
              resourceInfo := resourceInfo
              headerMetadata := headerMetadata }) = .error error := by
          unfold documentValidation continueWith
          dsimp only
          rw [valid]
          rfl
        rw [thrown]
        rfl
  · obtain ⟨error, thrown⟩ := endpointValidation_throws listed
      fun resourceSchema resourceInfo resolves => resolved ⟨resourceSchema, resourceInfo, resolves⟩
    rw [thrown]
    exact ⟨error, rfl⟩

end Paths

section Unresolvable
variable [NodeRuntime] [DocumentProcessing] {apiSchema : ApiSchema} {pathComponents : PathComponents}

/-- The namespace is not that of a project, or the project does not have the endpoint. -/
def Unknown (apiSchema : ApiSchema) (pathComponents : PathComponents) : Prop :=
  pathComponents.projectNamespace ∉ apiSchema.projectSchemas.keys ∨
    ∃ projectSchema,
      apiSchema.projectSchemas.property pathComponents.projectNamespace = some projectSchema ∧
        pathComponents.endpointName ∉ projectSchema.resourceSchemas.keys

omit [DocumentProcessing] in
/-- The path is rejected, or what it names is unknown. -/
def Unresolvable (apiSchema : ApiSchema) (path : String) : Prop :=
  ∀ pathComponents ∈ acceptedComponents path, Unknown apiSchema pathComponents

/-- Nothing but the prototype answers for the names that are not keys. -/
structure PlainObjects (apiSchema : ApiSchema) : Prop where
  projects {projectNamespace : String}
    (unknown : projectNamespace ∉ apiSchema.projectSchemas.keys) :
    apiSchema.projectSchemas.property projectNamespace = none
  endpoints {projectNamespace endpointName : String} {projectSchema : ProjectSchema}
    (project : apiSchema.projectSchemas.property projectNamespace = some projectSchema)
    (unknown : endpointName ∉ projectSchema.resourceSchemas.keys) :
    projectSchema.resourceSchemas.property endpointName =
      DocumentProcessing.prototypeResourceSchema endpointName

/-- Every object inherits a property under the name of the endpoint, and an unknown namespace is not
inherited. -/
def Inherited (apiSchema : ApiSchema) (pathComponents : PathComponents) : Prop :=
  (DocumentProcessing.prototypeResourceSchema pathComponents.endpointName).isSome ∧
    (apiSchema.projectSchemas.property pathComponents.projectNamespace = none →
      DocumentProcessing.prototypeResourceSchema pathComponents.projectNamespace = none)

omit [NodeRuntime] in
/-- What is found for an unknown endpoint is inherited. -/
theorem Unknown.inherited (plain : PlainObjects apiSchema) (unknown : Unknown apiSchema pathComponents)
    {resourceSchema : ResourceSchema} {resourceInfo : ResourceInfo}
    (resolves : Resolves apiSchema pathComponents resourceSchema resourceInfo) :
    DocumentProcessing.prototypeResourceSchema pathComponents.endpointName = some resourceSchema := by
  rcases resolves.cases with ⟨projectSchema, project, resource, -⟩ | ⟨-, found⟩
  · rcases unknown with unknown | ⟨other, also, unknown⟩
    · rw [plain.projects unknown] at project
      cases project
    · rw [project] at also
      cases also
      rw [plain.endpoints project unknown] at resource
      exact resource
  · exact found

omit [NodeRuntime] in
theorem Unknown.resolves_iff (plain : PlainObjects apiSchema)
    (unknown : Unknown apiSchema pathComponents) :
    (∃ resourceSchema resourceInfo,
        Resolves apiSchema pathComponents resourceSchema resourceInfo) ↔
      Inherited apiSchema pathComponents := by
  constructor
  · rintro ⟨resourceSchema, resourceInfo, resolves⟩
    refine ⟨Option.isSome_iff_exists.mpr ⟨_, unknown.inherited plain resolves⟩, fun missing => ?_⟩
    have found := resolves.1
    unfold findResourceSchema at found
    split at found
    · cases found
    · rename_i apart
      exact Option.not_isSome_iff_eq_none.mp fun inherits => apart ⟨missing, inherits⟩
  · rintro ⟨inherits, apart⟩
    obtain ⟨resourceSchema, inherits⟩ := Option.isSome_iff_exists.mp inherits
    refine ⟨resourceSchema, _, ?_, rfl⟩
    unfold findResourceSchema findProjectSchema
    cases project : apiSchema.projectSchemas.property pathComponents.projectNamespace with
    | none =>
        rw [apart project, if_neg (by simp)]
        exact congrArg Except.ok inherits
    | some projectSchema =>
        rw [if_neg (by simp)]
        rcases unknown with unknown | ⟨other, also, unknown⟩
        · rw [plain.projects unknown] at project
          cases project
        · rw [project] at also
          cases also
          exact congrArg Except.ok ((plain.endpoints project unknown).trans inherits)

end Unresolvable

section Verbs
variable [NodeRuntime] [DocumentProcessing] {State : Type}
  {answer : (call : Call) → State → call.Answer × State} {state following : State}
  {queryHandler : QueryHandlerPlugin} {frontendRequest identified : FrontendRequest}

inductive Verb where
  | get
  | post
  | put
  | delete
  deriving DecidableEq

/-- The function of the facade that serves a verb. -/
def Verb.serve (queryHandler : QueryHandlerPlugin) :
    Verb → FrontendRequest → Frontend FrontendResponse
  | .get => Core.get backendFacade queryHandler
  | .post => upsert backendFacade
  | .put => update backendFacade
  | .delete => deleteIt backendFacade

omit [DocumentProcessing] in
/-- The path of a read is parsed before the stack. -/
def Verb.entering : Verb → FrontendRequest → FrontendRequest
  | .get, frontendRequest => (parsePath ⟨frontendRequest, none⟩).frontendRequest
  | _, frontendRequest => frontendRequest

omit [NodeRuntime] [DocumentProcessing] in
def Verb.entryPoint : Verb → FrontendRequest → EntryPoint
  | .get, entering =>
      match entering.middleware.pathComponents.documentUuid with
      | none => .query
      | some _ => .getById
  | .post, _ => .upsert
  | .put, _ => .update
  | .delete, _ => .deleteIt

theorem Verb.serve_eq (verb : Verb) :
    verb.serve queryHandler frontendRequest =
      (verb.entryPoint (verb.entering frontendRequest)).run queryHandler
        (verb.entering frontendRequest) := by
  cases verb with
  | get =>
      unfold Verb.serve Verb.entryPoint Core.get Verb.entering
      dsimp only
      cases (parsePath ⟨frontendRequest, none⟩).frontendRequest.middleware.pathComponents.documentUuid
      · rfl
      · rfl
  | post => rfl
  | put => rfl
  | delete => rfl

omit [DocumentProcessing] in
/-- The client of the request is known, and no response has been posted. -/
def Verb.Authorized (answer : (call : Call) → State → call.Answer × State) (verb : Verb)
    (frontendRequest : FrontendRequest) (state : State) (identified : FrontendRequest)
    (following : State) : Prop :=
  (verb.entryPoint (verb.entering frontendRequest)).Identified answer
    (verb.entering frontendRequest) state identified following

/-- The verbs whose requests have a body. -/
def Verb.bodied (verb : Verb) : Prop := verb = .post ∨ verb = .put

/-- The condition under which an unresolvable path is not found.
A read looks up the components that its request has when the path is rejected. -/
def Verb.Misses (frontendRequest identified : FrontendRequest) : Verb → Prop
  | .get => Unlisted identified.middleware.apiSchema
      (Verb.get.entering frontendRequest).middleware.pathComponents
  | .delete => ∀ pathComponents ∈ acceptedComponents frontendRequest.path,
      Unlisted identified.middleware.apiSchema pathComponents ∨
        (Inherited identified.middleware.apiSchema pathComponents ∧
          pathComponents.documentUuid = none ∧
          identified.middleware.security.authorizationStrategy ≠ .ownershipBased)
  | _ => ∀ pathComponents ∈ acceptedComponents frontendRequest.path,
      Unlisted identified.middleware.apiSchema pathComponents

end Verbs

section Claim
variable [NodeRuntime] [DocumentProcessing] {State : Type}
  {answer : (call : Call) → State → call.Answer × State} {state following : State}
  {queryHandler : QueryHandlerPlugin} {frontendRequest identified validated : FrontendRequest}

omit [NodeRuntime] in
theorem queryValidation_answered {frontendResponse : FrontendResponse}
    (answered : queryValidation ⟨identified, none⟩ = .ok ⟨validated, some frontendResponse⟩) :
    frontendResponse.statusCode = 400 := by
  unfold queryValidation at answered
  dsimp only at answered
  split at answered
  · cases answered
  · split at answered
    · cases answered
      rfl
    · obtain ⟨error, -, built⟩ := ok_of_bind answered
      cases error with
      | none => cases built
      | some error =>
          cases built
          rfl

/-- A query is not found exactly when its endpoint is unlisted. -/
theorem query_untouched_iff
    (known : EntryPoint.query.Identified answer frontendRequest state identified following) :
    NotFoundUntouched answer (EntryPoint.query.run queryHandler frontendRequest) state ↔
      Unlisted identified.middleware.apiSchema identified.middleware.pathComponents := by
  by_cases unlisted : Unlisted identified.middleware.apiSchema identified.middleware.pathComponents
  · obtain ⟨frontendResponse, missing, refused⟩ := endpointValidation_unlisted unlisted
    have valid : EntryPoint.query.validate ⟨identified, none⟩ =
        .ok ⟨identified, some frontendResponse⟩ := by
      unfold EntryPoint.validate
      dsimp only
      rw [refused]
      rfl
    rw [untouched_finished known valid (finish_posted _ _ _)]
    exact iff_of_true missing unlisted
  · refine iff_of_false ?_ unlisted
    cases valid : EntryPoint.query.validate ⟨identified, none⟩ with
    | error error => exact untouched_thrown known valid
    | ok model =>
        obtain ⟨validated, posted⟩ := model
        cases posted with
        | none => exact untouched_handled known valid handled_query
        | some frontendResponse =>
            rw [untouched_finished known valid (finish_posted _ _ _)]
            have refused : endpointValidation ⟨identified, none⟩ >>= queryValidation =
                .ok ⟨validated, some frontendResponse⟩ := valid
            obtain ⟨⟨found, posted⟩, endpointDone, answered⟩ := ok_of_bind refused
            cases posted with
            | none =>
                rw [queryValidation_answered answered]
                decide
            | some other => exact absurd (endpointValidation_posted endpointDone).1 unlisted

/-- A read by id is not found untouched exactly when its endpoint is unlisted. -/
theorem getById_untouched_iff {documentUuid : DocumentUuid}
    (known : EntryPoint.getById.Identified answer frontendRequest state identified following)
    (named : identified.middleware.pathComponents.documentUuid = some documentUuid) :
    NotFoundUntouched answer (EntryPoint.getById.run queryHandler frontendRequest) state ↔
      Unlisted identified.middleware.apiSchema identified.middleware.pathComponents := by
  by_cases unlisted : Unlisted identified.middleware.apiSchema identified.middleware.pathComponents
  · obtain ⟨frontendResponse, missing, refused⟩ := endpointValidation_unlisted unlisted
    rw [untouched_finished known refused (finish_posted _ _ _)]
    exact iff_of_true missing unlisted
  · refine iff_of_false ?_ unlisted
    cases valid : endpointValidation ⟨identified, none⟩ with
    | error error => exact untouched_thrown known valid
    | ok model =>
        obtain ⟨validated, posted⟩ := model
        cases posted with
        | none =>
            obtain ⟨-, -, -, path⟩ := endpointValidation_passed valid
            rw [← path] at named
            exact untouched_handled known valid (handled_getById named)
        | some frontendResponse => exact absurd (endpointValidation_posted valid).1 unlisted

/-- The two writes with a body have the same validation. -/
theorem write_untouched_iff {entryPoint : EntryPoint}
    (write : entryPoint.validate = validateWrite) (refuses : RefusesInherited)
    (plain : PlainObjects identified.middleware.apiSchema) (readable : ReadableBody identified)
    (known : entryPoint.Identified answer frontendRequest state identified following)
    (unresolvable : Unresolvable identified.middleware.apiSchema identified.path) :
    NotFoundUntouched answer (entryPoint.run queryHandler frontendRequest) state ↔
      ∀ pathComponents ∈ acceptedComponents identified.path,
        Unlisted identified.middleware.apiSchema pathComponents := by
  cases accepted : acceptedComponents identified.path with
  | none =>
      have refused := validateWrite_rejected accepted
      rw [← write] at refused
      rw [untouched_finished known refused (finish_posted _ _ _)]
      exact iff_of_true rfl (by simp)
  | some pathComponents =>
      have unknown := unresolvable pathComponents accepted
      by_cases unlisted : Unlisted identified.middleware.apiSchema pathComponents
      · obtain ⟨validated, frontendResponse, missing, refused⟩ :=
          validateWrite_unlisted readable accepted unlisted
        rw [← write] at refused
        rw [untouched_finished known refused (finish_posted _ _ _)]
        exact iff_of_true missing (by simpa using unlisted)
      · obtain ⟨error, thrown⟩ := validateWrite_throws readable accepted unlisted
          fun resourceSchema resourceInfo resolves =>
            refuses _ _ (unknown.inherited plain resolves)
        rw [← write] at thrown
        exact iff_of_false (untouched_thrown known thrown) (by simpa using unlisted)

/-- A deletion under an inherited name is not found without a uuid when no ownership is checked. -/
theorem deleteIt_untouched_iff (plain : PlainObjects identified.middleware.apiSchema)
    (known : EntryPoint.deleteIt.Identified answer frontendRequest state identified following)
    (unresolvable : Unresolvable identified.middleware.apiSchema identified.path) :
    NotFoundUntouched answer (EntryPoint.deleteIt.run queryHandler frontendRequest) state ↔
      ∀ pathComponents ∈ acceptedComponents identified.path,
        Unlisted identified.middleware.apiSchema pathComponents ∨
          (Inherited identified.middleware.apiSchema pathComponents ∧
            pathComponents.documentUuid = none ∧
            identified.middleware.security.authorizationStrategy ≠ .ownershipBased) := by
  have validation : EntryPoint.deleteIt.validate ⟨identified, none⟩ =
      endpointValidation (parsePath ⟨identified, none⟩) := rfl
  cases accepted : acceptedComponents identified.path with
  | none =>
      rw [parsePath_rejected accepted] at validation
      rw [untouched_finished known validation (finish_posted _ _ _)]
      exact iff_of_true rfl (by simp)
  | some pathComponents =>
      have unknown := unresolvable pathComponents accepted
      simp only [Option.mem_def, Option.some.injEq, forall_eq']
      rw [parsePath_accepted accepted] at validation
      by_cases unlisted : Unlisted identified.middleware.apiSchema pathComponents
      · obtain ⟨frontendResponse, missing, refused⟩ := @endpointValidation_unlisted _
          { identified with
            middleware := { identified.middleware with pathComponents := pathComponents } } unlisted
        rw [untouched_finished known (validation.trans refused) (finish_posted _ _ _)]
        exact iff_of_true missing (Or.inl unlisted)
      · rw [or_iff_right unlisted, ← unknown.resolves_iff plain]
        by_cases resolved : ∃ resourceSchema resourceInfo,
            Resolves identified.middleware.apiSchema pathComponents resourceSchema resourceInfo
        · obtain ⟨resourceSchema, resourceInfo, resolves⟩ := resolved
          obtain ⟨headerMetadata, passed⟩ := @endpointValidation_resolves _
            { identified with
              middleware := { identified.middleware with pathComponents := pathComponents } } _ _ resolves
          have valid := validation.trans passed
          rw [and_iff_right ⟨resourceSchema, resourceInfo, resolves⟩]
          cases named : pathComponents.documentUuid with
          | some documentUuid =>
              exact iff_of_false (untouched_handled known valid (handled_deleteIt named)) (by simp)
          | none =>
              by_cases ownership :
                  identified.middleware.security.authorizationStrategy = .ownershipBased
              · exact iff_of_false
                  (untouched_handled known valid (handled_guarded (by decide) ownership))
                  (by simp [ownership])
              · rw [untouched_finished known valid (finish_unnamed named ownership)]
                exact iff_of_true rfl ⟨rfl, ownership⟩
        · obtain ⟨error, thrown⟩ := @endpointValidation_throws _
            { identified with
              middleware := { identified.middleware with pathComponents := pathComponents } }
            unlisted fun resourceSchema resourceInfo resolves =>
              resolved ⟨resourceSchema, resourceInfo, resolves⟩
          exact iff_of_false (untouched_thrown known (validation.trans thrown))
            fun condition => resolved condition.1

/-- An authorized request for an unresolvable path is answered by a 404, with no call to the document
store or the search engine, exactly when its endpoint is missing in the way that its verb expects. -/
theorem unresolvable_untouched_iff (verb : Verb) (refuses : RefusesInherited)
    (plain : PlainObjects identified.middleware.apiSchema)
    (authorized : verb.Authorized answer frontendRequest state identified following)
    (readable : verb.bodied → ReadableBody frontendRequest)
    (unresolvable : Unresolvable identified.middleware.apiSchema frontendRequest.path) :
    NotFoundUntouched answer (verb.serve queryHandler frontendRequest) state ↔
      verb.Misses frontendRequest identified := by
  have same := EntryPoint.Identified.sameAction authorized
  rw [verb.serve_eq]
  cases verb with
  | get =>
      unfold Verb.Authorized Verb.entryPoint at authorized
      unfold Verb.entryPoint Verb.Misses
      rw [← same.pathComponents]
      dsimp only at authorized ⊢
      cases named : (Verb.get.entering frontendRequest).middleware.pathComponents.documentUuid with
      | none =>
          rw [named] at authorized
          exact query_untouched_iff authorized
      | some documentUuid =>
          rw [named] at authorized
          exact getById_untouched_iff authorized
            ((congrArg PathComponents.documentUuid same.pathComponents).trans named)
  | post =>
      have path : identified.path = frontendRequest.path := same.path
      have body : ReadableBody identified := by
        unfold ReadableBody
        rw [same.body]
        exact readable (Or.inl rfl)
      rw [← path] at unresolvable
      unfold Verb.Misses
      rw [← path]
      exact write_untouched_iff (rfl : EntryPoint.upsert.validate = validateWrite) refuses plain body
        authorized unresolvable
  | put =>
      have path : identified.path = frontendRequest.path := same.path
      have body : ReadableBody identified := by
        unfold ReadableBody
        rw [same.body]
        exact readable (Or.inr rfl)
      rw [← path] at unresolvable
      unfold Verb.Misses
      rw [← path]
      exact write_untouched_iff (rfl : EntryPoint.update.validate = validateWrite) refuses plain body
        authorized unresolvable
  | delete =>
      have path : identified.path = frontendRequest.path := same.path
      rw [← path] at unresolvable
      unfold Verb.Misses
      rw [← path]
      exact deleteIt_untouched_iff plain authorized unresolvable

end Claim

section Sample
open Sample

/-- One project with one endpoint. -/
private def schoolSchema : ApiSchema where
  projectSchemas := ⟨["ed-fi"], fun projectNamespace =>
    if projectNamespace = "ed-fi" then
      some { projectSchema with
        resourceSchemas := ⟨["schools"], fun endpointName =>
          if endpointName = "schools" then some (resourceSchema "School") else none⟩ }
    else none⟩
  projectNameMapping := ⟨[], fun _ => none⟩

private def schoolAnswer : (call : Call) → Int → call.Answer × Int
  | .findApiSchema _, time => (.ok schoolSchema, time)
  | call, time => services.answer call time

private theorem plainObjects_schoolSchema : @PlainObjects processing schoolSchema := by
  apply @PlainObjects.mk processing
  · intro projectNamespace unknown
    exact if_neg (by simpa [schoolSchema] using unknown)
  · intro projectNamespace endpointName projectSchema project unknown
    obtain ⟨rfl, same⟩ := Option.ite_none_right_eq_some.mp project
    cases same
    exact if_neg (by simpa using unknown)

private def unanswered : QueryHandlerPlugin := ⟨fun _ => pure ⟨.querySuccess, [], none, none⟩⟩

private def identifiedBy (frontendRequest : FrontendRequest) (time : Int) : FrontendRequest :=
  { frontendRequest with
    middleware :=
      { frontendRequest.middleware with
        providedSecurity := some ⟨.ownershipBased, "first"⟩
        apiSchema := schoolSchema
        validateResources := true
        timestamp := time } }

private theorem refusesInherited_processing : @RefusesInherited processing := by
  rintro _ _ ⟨⟩

private def postUnknown : FrontendRequest :=
  request "/v3.3b/ed-fi/unknown" "first" (some "\x7b\x7d")

private theorem authorized_postUnknown :
    @Verb.Authorized runtime _ schoolAnswer .post postUnknown 1
      { identifiedBy postUnknown 1 with action := .upsert } 2 := by
  rfl

private theorem accepted_postUnknown :
    @acceptedComponents runtime postUnknown.path = some ⟨"v3.3b", "ed-fi", "unknown", none⟩ := by
  decide +kernel

/-- A document posted to an unknown endpoint of a known project is not found. -/
theorem posting_unknown_untouched :
    NotFoundUntouched schoolAnswer
      (@Verb.serve runtime processing unanswered .post postUnknown) 1 := by
  have misses : ∀ pathComponents ∈ @acceptedComponents runtime postUnknown.path,
      Unlisted schoolSchema pathComponents := by
    rw [accepted_postUnknown]
    rintro _ ⟨⟩
    exact ⟨_, rfl, rfl⟩
  refine (@unresolvable_untouched_iff runtime processing _ _ _ _ _ _ _ .post
    refusesInherited_processing plainObjects_schoolSchema authorized_postUnknown
    (fun _ => ⟨_, .object [], rfl, by decide +kernel⟩) ?_).mpr misses
  unfold Unresolvable
  rw [accepted_postUnknown]
  rintro _ ⟨⟩
  exact Or.inr ⟨_, rfl, by decide⟩

private def getUnknown : FrontendRequest := request "/v3.3b/unknown/schools" "first" none

private theorem authorized_getUnknown :
    @Verb.Authorized runtime _ schoolAnswer .get getUnknown 1
      { identifiedBy (@Verb.entering runtime .get getUnknown) 0 with action := .query } 1 := by
  rfl

private theorem accepted_getUnknown :
    @acceptedComponents runtime getUnknown.path = some ⟨"v3.3b", "unknown", "schools", none⟩ := by
  decide +kernel

/-- A read under an unknown namespace is an internal error. -/
theorem reading_unknown_namespace_fails :
    @RefusesInherited processing ∧ @PlainObjects processing schoolSchema ∧
      @Verb.Authorized runtime _ schoolAnswer .get getUnknown 1
        { identifiedBy (@Verb.entering runtime .get getUnknown) 0 with action := .query } 1 ∧
      @Unresolvable runtime schoolSchema getUnknown.path ∧
      ((Program.runState schoolAnswer (@Verb.serve runtime processing unanswered .get getUnknown)
        1).1.toOption.map (·.statusCode)) = some 500 ∧
      ¬ NotFoundUntouched schoolAnswer
        (@Verb.serve runtime processing unanswered .get getUnknown) 1 := by
  have failed : ((Program.runState schoolAnswer
      (@Verb.serve runtime processing unanswered .get getUnknown) 1).1.toOption.map
        (·.statusCode)) = some 500 := by decide +kernel
  refine ⟨refusesInherited_processing, plainObjects_schoolSchema, authorized_getUnknown, ?_, failed, ?_⟩
  · unfold Unresolvable
    rw [accepted_getUnknown]
    rintro _ ⟨⟩
    exact Or.inl (by decide)
  · rintro ⟨frontendResponse, responded, missing, -⟩
    rw [responded] at failed
    have same : frontendResponse.statusCode = 500 := Option.some.inj failed
    exact absurd (missing.symm.trans same) (by decide)

example : @acceptedComponents runtime "/v3.3b/ed-fi" = none := by decide +kernel

end Sample
end Meadowlark.Core
