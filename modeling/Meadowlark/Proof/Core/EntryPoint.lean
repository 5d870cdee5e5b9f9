import Meadowlark.Construction.Core.DocumentStore

namespace Meadowlark.Core
open Systems

section Calls

/-- The calls that find out who makes a request. -/
def Call.identifies : Call → Bool
  | .dateNow => true
  | .findApiSchema _ => true
  | .getCachedClientTokenInfo _ => true
  | .setCachedClientTokenInfo _ _ => true
  | .getCachedOwnAccessToken => true
  | .setCachedOwnAccessToken _ => true
  | .fetchOwnAccessToken => true
  | .fetchClientTokenVerification _ _ => true
  | _ => false

def Call.publishes : Call → Bool
  | .publish _ => true
  | _ => false

theorem confined_perform {allowed : Call → Prop} {call : Call} (permitted : allowed call) :
    Program.Confined allowed (fun _ => True) (perform call) := by
  refine ⟨permitted, ?_⟩
  intro answer
  cases answer with
  | ok result => exact trivial
  | error error => exact trivial

/-- A function that makes no call is confined to what it returns. -/
theorem confined_lift {A : Type} {allowed : Call → Prop} {returns : A → Prop}
    {outcome : Except Exception A} (described : ∀ value, outcome = .ok value → returns value) :
    Program.Confined allowed returns (monadLift outcome : Frontend A) := by
  cases outcome with
  | ok value => exact described value rfl
  | error error => exact trivial

end Calls

section Refusal

/-- What a middleware responds is an error. -/
def MiddlewareModel.Refused (model : MiddlewareModel) : Prop :=
  ∀ frontendResponse ∈ model.frontendResponse, 400 ≤ frontendResponse.statusCode

theorem refused_respondWith {frontendRequest : FrontendRequest} {statusCode : Nat}
    {headers : Option Headers} {body : Option Json} (error : 400 ≤ statusCode) :
    (respondWith frontendRequest ⟨statusCode, headers, body⟩).Refused := by
  rintro _ ⟨⟩
  exact error

theorem refused_none (frontendRequest : FrontendRequest) :
    MiddlewareModel.Refused ⟨frontendRequest, none⟩ := nofun

theorem refused_continueWith (frontendRequest : FrontendRequest)
    (middleware : FrontendRequestMiddleware) : (continueWith frontendRequest middleware).Refused :=
  nofun

/-- The own token of Meadowlark is there, or the response in its place is an error. -/
def TokenOutcome (outcome : Except FrontendResponse (Option Json)) : Prop :=
  ∀ errorResponse, outcome = .error errorResponse → 400 ≤ errorResponse.statusCode

theorem tokenOutcome_ok (ownAccessToken : Option Json) : TokenOutcome (.ok ownAccessToken) := nofun

theorem tokenOutcome_error {errorResponse : FrontendResponse}
    (error : 400 ≤ errorResponse.statusCode) : TokenOutcome (.error errorResponse) := by
  rintro _ ⟨⟩
  exact error

end Refusal

section Identification
variable [NodeRuntime]

/-- The middlewares that find out who makes a request do not change what it asks for. -/
structure SameAction (model following : MiddlewareModel) : Prop where
  action : following.frontendRequest.action = model.frontendRequest.action
  pathComponents : following.frontendRequest.middleware.pathComponents =
    model.frontendRequest.middleware.pathComponents
  path : following.frontendRequest.path = model.frontendRequest.path
  body : following.frontendRequest.body = model.frontendRequest.body

omit [NodeRuntime] in
theorem SameAction.refl (model : MiddlewareModel) : SameAction model model := ⟨rfl, rfl, rfl, rfl⟩

omit [NodeRuntime] in
theorem SameAction.trans {first second third : MiddlewareModel} (before : SameAction first second)
    (after : SameAction second third) : SameAction first third where
  action := after.action.trans before.action
  pathComponents := after.pathComponents.trans before.pathComponents
  path := after.path.trans before.path
  body := after.body.trans before.body

/-- A middleware keeps what the request asks for, and whatever it responds is an error. -/
structure Identifies (model following : MiddlewareModel) : Prop where
  same : SameAction model following
  refused : model.Refused → following.Refused

abbrev Identifying {A : Type} (returns : A → Prop) (program : Frontend A) : Prop :=
  Program.Confined (fun call => call.identifies = true) returns program

omit [NodeRuntime] in
theorem identifying_call {A : Type} {call : Call} {f : call.Result → Frontend A} {returns : A → Prop}
    (identifies : call.identifies = true) (rest : ∀ result, Identifying returns (f result)) :
    Identifying returns (perform call >>= f) :=
  Program.Confined.bind (confined_perform identifies) fun result _ => rest result

omit [NodeRuntime] in
theorem Identifies.refl (model : MiddlewareModel) : Identifies model model := ⟨.refl model, id⟩

omit [NodeRuntime] in
theorem Identifies.trans {first second third : MiddlewareModel} (before : Identifies first second)
    (after : Identifies second third) : Identifies first third where
  same := before.same.trans after.same
  refused earlier := after.refused (before.refused earlier)

omit [NodeRuntime] in
theorem identifies_respondWith {model : MiddlewareModel} {statusCode : Nat}
    {headers : Option Headers} {body : Option Json} (error : 400 ≤ statusCode) :
    Identifies model (respondWith model.frontendRequest ⟨statusCode, headers, body⟩) :=
  ⟨⟨rfl, rfl, rfl, rfl⟩, fun _ => refused_respondWith error⟩

omit [NodeRuntime] in
theorem identifying_timestampRequest (model : MiddlewareModel) :
    Identifying (Identifies model) (timestampRequest model) := by
  unfold timestampRequest
  split
  · exact Program.confined_pure (.refl model)
  · apply identifying_call rfl
    intro timestamp
    exact Program.confined_pure ⟨⟨rfl, rfl, rfl, rfl⟩, fun _ => refused_continueWith _ _⟩

omit [NodeRuntime] in
theorem identifying_loadApiSchema (model : MiddlewareModel) :
    Identifying (Identifies model) (loadApiSchema model) := by
  unfold loadApiSchema
  split
  · exact Program.confined_pure (.refl model)
  · apply identifying_call rfl
    intro apiSchema
    exact Program.confined_pure ⟨⟨rfl, rfl, rfl, rfl⟩, fun _ => refused_continueWith _ _⟩

omit [NodeRuntime] in
theorem identifying_requestOwnAccessToken : Identifying TokenOutcome requestOwnAccessToken := by
  unfold requestOwnAccessToken
  apply Program.Confined.tryCatch
  · apply identifying_call rfl
    intro ownAccessTokenResponse
    split
    · apply Program.Confined.bind (confined_lift fun _ _ => trivial)
      intro ownAccessToken _
      exact Program.confined_pure (tokenOutcome_ok ownAccessToken)
    · split
      · exact Program.confined_pure (tokenOutcome_error (by decide))
      · exact Program.confined_pure (tokenOutcome_error (by decide))
  · intro error
    exact Program.confined_pure (tokenOutcome_error (by decide))

omit [NodeRuntime] in
theorem identifying_refreshOwnAccessToken : Identifying TokenOutcome refreshOwnAccessToken := by
  unfold refreshOwnAccessToken
  apply Program.Confined.bind identifying_requestOwnAccessToken
  intro outcome known
  cases outcome with
  | error errorResponse => exact Program.confined_pure known
  | ok ownAccessToken =>
      apply identifying_call rfl
      intro _
      exact Program.confined_pure (tokenOutcome_ok ownAccessToken)

omit [NodeRuntime] in
theorem identifying_findOwnAccessToken : Identifying TokenOutcome findOwnAccessToken := by
  unfold findOwnAccessToken
  apply identifying_call rfl
  intro cachedOwnAccessToken
  split
  · exact identifying_refreshOwnAccessToken
  · exact Program.confined_pure (tokenOutcome_ok cachedOwnAccessToken)

variable (frontendRequest : FrontendRequest) (clientBearerToken : String)

omit [NodeRuntime] in
theorem identifies_acceptClientToken (clientTokenInfo : ClientTokenInfo) :
    Identifies ⟨frontendRequest, none⟩ (acceptClientToken frontendRequest clientTokenInfo) :=
  ⟨⟨rfl, rfl, rfl, rfl⟩, fun _ => refused_continueWith _ _⟩

theorem identifying_acceptVerification (verificationResponse : OAuthResponse) :
    Identifying (Identifies ⟨frontendRequest, none⟩)
      (acceptVerification frontendRequest clientBearerToken verificationResponse) := by
  unfold acceptVerification
  split
  · exact Program.confined_pure (identifies_respondWith (by decide))
  · split
    · split
      · apply Program.Confined.bind (confined_lift fun _ _ => trivial)
        intro clientTokenInfo _
        apply identifying_call rfl
        intro _
        exact Program.confined_pure (identifies_acceptClientToken frontendRequest clientTokenInfo)
      · exact Program.confined_pure (identifies_respondWith (by decide))
    · exact Program.confined_pure (identifies_respondWith (by decide))

theorem identifying_verifyClientToken (ownAccessToken : Option Json) :
    Identifying (Identifies ⟨frontendRequest, none⟩)
      (verifyClientToken frontendRequest clientBearerToken ownAccessToken) := by
  unfold verifyClientToken
  apply identifying_call rfl
  intro verificationResponse
  split
  · apply Program.Confined.bind identifying_refreshOwnAccessToken
    intro outcome known
    cases outcome with
    | error errorResponse =>
        exact Program.confined_pure (identifies_respondWith (known errorResponse rfl))
    | ok renewedAccessToken =>
        apply identifying_call rfl
        intro secondResponse
        exact identifying_acceptVerification frontendRequest clientBearerToken secondResponse
  · exact identifying_acceptVerification frontendRequest clientBearerToken verificationResponse

theorem identifying_authorizeClientToken :
    Identifying (Identifies ⟨frontendRequest, none⟩)
      (authorizeClientToken frontendRequest clientBearerToken) := by
  unfold authorizeClientToken
  apply identifying_call rfl
  intro cached
  cases cached with
  | some cachedClientTokenInfo =>
      exact Program.confined_pure (identifies_acceptClientToken frontendRequest _)
  | none =>
      apply Program.Confined.bind identifying_findOwnAccessToken
      intro outcome known
      cases outcome with
      | error errorResponse =>
          exact Program.confined_pure (identifies_respondWith (known errorResponse rfl))
      | ok ownAccessToken =>
          apply Program.Confined.tryCatch
          · exact identifying_verifyClientToken frontendRequest clientBearerToken ownAccessToken
          · intro error
            exact Program.confined_pure (identifies_respondWith (by decide))

theorem identifying_authorize (model : MiddlewareModel) :
    Identifying (Identifies model) (authorize model) := by
  unfold authorize
  split
  · exact Program.confined_pure (.refl model)
  · exact Program.confined_pure (.refl model)
  · rename_i posted _
    have unanswered : model = ⟨model.frontendRequest, none⟩ := by rw [← posted]
    split
    · exact Program.confined_pure (identifies_respondWith (by decide))
    · rename_i clientBearerToken _
      rw [unanswered]
      exact identifying_authorizeClientToken model.frontendRequest clientBearerToken

end Identification

section Validation

/-- The middlewares that validate a request keep its action, its client and its validation flag. -/
structure SameClient (model following : MiddlewareModel) : Prop where
  action : following.frontendRequest.action = model.frontendRequest.action
  security : following.frontendRequest.middleware.security =
    model.frontendRequest.middleware.security

/-- A middleware keeps the client of the request, and whatever it responds is an error. -/
structure Validates (model following : MiddlewareModel) : Prop extends SameClient model following where
  refused : model.Refused → following.Refused

theorem Validates.refl (model : MiddlewareModel) : Validates model model := ⟨⟨rfl, rfl⟩, id⟩

theorem Validates.trans {first second third : MiddlewareModel} (before : Validates first second)
    (after : Validates second third) : Validates first third where
  action := after.action.trans before.action
  security := after.security.trans before.security
  refused earlier := after.refused (before.refused earlier)

theorem validates_respondWith {model : MiddlewareModel} {statusCode : Nat}
    {headers : Option Headers} {body : Option Json} (error : 400 ≤ statusCode) :
    Validates model (respondWith model.frontendRequest ⟨statusCode, headers, body⟩) :=
  ⟨⟨rfl, rfl⟩, fun _ => refused_respondWith error⟩

/-- A validating middleware calls one function and builds its model from the result. -/
theorem ok_of_bind {A B : Type} {outcome : Except Exception A} {f : A → Except Exception B}
    {value : B} (done : (outcome >>= f) = .ok value) :
    ∃ middle, outcome = .ok middle ∧ f middle = .ok value := by
  cases outcome with
  | ok middle => exact ⟨middle, rfl, done⟩
  | error error => cases done

variable [NodeRuntime] [DocumentProcessing] {model following : MiddlewareModel}

omit [DocumentProcessing] in
theorem validates_parsePath (model : MiddlewareModel) : Validates model (parsePath model) := by
  unfold parsePath
  split
  · exact .refl model
  · split
    · exact validates_respondWith (by decide)
    · split
      · exact ⟨⟨rfl, rfl⟩, fun _ => refused_continueWith _ _⟩
      · exact validates_respondWith (by decide)

omit [DocumentProcessing] in
theorem validates_parseBody (model : MiddlewareModel) : Validates model (parseBody model) := by
  unfold parseBody
  split
  · exact .refl model
  · split
    · exact validates_respondWith (by decide)
    · split
      · exact validates_respondWith (by decide)
      · exact ⟨⟨rfl, rfl⟩, fun _ => refused_continueWith _ _⟩

omit [NodeRuntime] in
theorem validates_endpointValidation (done : endpointValidation model = .ok following) :
    Validates model following := by
  unfold endpointValidation at done
  split at done
  · cases done
    exact .refl model
  · obtain ⟨result, -, built⟩ := ok_of_bind done
    cases built
    split
    · apply validates_respondWith
      split
      · decide
      · decide
    · exact ⟨⟨rfl, rfl⟩, fun _ => refused_continueWith _ _⟩

omit [NodeRuntime] in
theorem validates_documentValidation (done : documentValidation model = .ok following) :
    Validates model following := by
  unfold documentValidation at done
  split at done
  · cases done
    exact .refl model
  · obtain ⟨⟨error, parsedBody⟩, -, built⟩ := ok_of_bind done
    cases built
    split
    · exact ⟨⟨rfl, rfl⟩, fun _ => refused_respondWith (by decide)⟩
    · exact ⟨⟨rfl, rfl⟩, fun _ => refused_continueWith _ _⟩

omit [NodeRuntime] in
theorem validates_equalityConstraintValidation
    (done : equalityConstraintValidation model = .ok following) : Validates model following := by
  unfold equalityConstraintValidation at done
  split at done
  · cases done
    exact .refl model
  · obtain ⟨validationFailures, -, built⟩ := ok_of_bind done
    cases built
    split
    · exact .refl model
    · exact validates_respondWith (by decide)

omit [NodeRuntime] in
theorem validates_documentInfoExtraction (done : documentInfoExtraction model = .ok following) :
    Validates model following := by
  unfold documentInfoExtraction at done
  split at done
  · cases done
    exact .refl model
  · obtain ⟨documentInfo, -, built⟩ := ok_of_bind done
    cases built
    split
    · exact validates_respondWith (by decide)
    · exact ⟨⟨rfl, rfl⟩, fun _ => refused_continueWith _ _⟩

omit [NodeRuntime] in
theorem validates_queryValidation (done : queryValidation model = .ok following) :
    Validates model following := by
  unfold queryValidation at done
  split at done
  · cases done
    exact .refl model
  · dsimp only at done
    split at done
    · cases done
      exact .refl model
    · split at done
      · cases done
        exact validates_respondWith (by decide)
      · obtain ⟨error, -, built⟩ := ok_of_bind done
        cases built
        split
        · exact validates_respondWith (by decide)
        · exact .refl model

theorem validates_validateWrite (done : validateWrite model = .ok following) :
    Validates model following := by
  unfold validateWrite at done
  obtain ⟨first, endpointDone, rest⟩ := ok_of_bind done
  obtain ⟨second, documentDone, rest⟩ := ok_of_bind rest
  obtain ⟨third, constraintsDone, rest⟩ := ok_of_bind rest
  have parsed : Validates model (parseBody (parsePath model)) :=
    (validates_parsePath model).trans (validates_parseBody _)
  have endpoint := validates_endpointValidation endpointDone
  have document := validates_documentValidation documentDone
  have constraints := validates_equalityConstraintValidation constraintsDone
  have extraction := validates_documentInfoExtraction rest
  exact (((parsed.trans endpoint).trans document).trans constraints).trans extraction

end Validation

section Entry
variable [NodeRuntime] [DocumentProcessing]

/-- The five functions that run a stack and a handler. -/
inductive EntryPoint where
  | query
  | getById
  | update
  | upsert
  | deleteIt
  deriving DecidableEq

namespace EntryPoint

def action : EntryPoint → Action
  | .query => .query
  | .getById => .getById
  | .update => .updateById
  | .upsert => .upsert
  | .deleteIt => .deleteById

omit [DocumentProcessing] in
def identify : EntryPoint → MiddlewareModel → Frontend MiddlewareModel
  | .update, model => timestampRequest model >>= loadApiSchema >>= authorize
  | .upsert, model => timestampRequest model >>= loadApiSchema >>= authorize
  | _, model => loadApiSchema model >>= authorize

def validate : EntryPoint → MiddlewareModel → Except Exception MiddlewareModel
  | .query, model => endpointValidation model >>= queryValidation
  | .getById, model => endpointValidation model
  | .update, model => validateWrite model
  | .upsert, model => validateWrite model
  | .deleteIt, model => endpointValidation (parsePath model)

def guard : EntryPoint → MiddlewareModel → Frontend MiddlewareModel
  | .query, model => pure model
  | _, model => backendFacade.securityMiddleware model

def handle (queryHandler : QueryHandlerPlugin) :
    EntryPoint → FrontendRequest → Frontend FrontendResponse
  | .query => Query.query queryHandler
  | .getById => GetById.getById backendFacade
  | .update => Update.update backendFacade
  | .upsert => Upsert.upsert backendFacade
  | .deleteIt => Delete.deleteIt backendFacade

def run (queryHandler : QueryHandlerPlugin) :
    EntryPoint → FrontendRequest → Frontend FrontendResponse
  | .query => Core.query queryHandler
  | .getById => Core.getById backendFacade
  | .update => Core.update backendFacade
  | .upsert => Core.upsert backendFacade
  | .deleteIt => Core.deleteIt backendFacade

/-- The guard and the handler finish a request that has been validated. -/
def finish (queryHandler : QueryHandlerPlugin) (entryPoint : EntryPoint) (model : MiddlewareModel) :
    Frontend FrontendResponse := do
  let guarded ← entryPoint.guard model
  match guarded.frontendResponse with
  | some frontendResponse => pure frontendResponse
  | none => entryPoint.handle queryHandler guarded.frontendRequest

/-- Every entry point identifies its client, validates the request and finishes it. -/
theorem run_eq (queryHandler : QueryHandlerPlugin) (entryPoint : EntryPoint)
    (frontendRequest : FrontendRequest) :
    entryPoint.run queryHandler frontendRequest =
      tryCatch
        (entryPoint.identify ⟨{ frontendRequest with action := entryPoint.action }, none⟩ >>=
          fun identified => monadLift (entryPoint.validate identified) >>=
            entryPoint.finish queryHandler)
        fun _ => pure (.ofStatus 500) := by
  cases entryPoint with
  | query =>
      simp only [run, Core.query, Core.entryPoint, queryStack, identify, validate, action,
        bind_assoc, monadLift_bind]
      rfl
  | getById =>
      simp only [run, Core.getById, Core.entryPoint, getByIdStack, identify, validate, action,
        bind_assoc]
      rfl
  | update =>
      simp only [run, Core.update, Core.entryPoint, putStack, bodyStack, identify, validate, action,
        bind_assoc]
      rfl
  | upsert =>
      simp only [run, Core.upsert, Core.entryPoint, postStack, bodyStack, identify, validate, action,
        bind_assoc]
      rfl
  | deleteIt =>
      simp only [run, Core.deleteIt, Core.entryPoint, deleteStack, identify, validate, action,
        bind_assoc]
      rfl

/-- The model after an ownership check: approved requests go on unchanged. -/
def afterCheck (frontendRequest : FrontendRequest) : SecurityResult → MiddlewareModel
  | .accessApproved => ⟨frontendRequest, none⟩
  | .notApplicable => ⟨frontendRequest, none⟩
  | .unknownFailure => respondWith frontendRequest ⟨500, some [], some (.string "")⟩
  | .accessDenied => respondWith frontendRequest ⟨403, some [], some (.string "")⟩

omit [NodeRuntime] [DocumentProcessing] in
/-- Under the ownership strategy every entry point but the query asks for the check. -/
theorem guard_checked {entryPoint : EntryPoint} (guards : entryPoint ≠ .query)
    {frontendRequest : FrontendRequest}
    (ownership : frontendRequest.middleware.security.authorizationStrategy = .ownershipBased) :
    entryPoint.guard ⟨frontendRequest, none⟩ =
      perform (.rejectByOwnershipSecurity frontendRequest) >>= fun result =>
        pure (afterCheck frontendRequest result) := by
  have checked : backendFacade.securityMiddleware ⟨frontendRequest, none⟩ =
      perform (.rejectByOwnershipSecurity frontendRequest) >>= fun result =>
        pure (afterCheck frontendRequest result) := by
    refine (if_neg (not_not.mpr ownership)).trans ?_
    apply congrArg (perform (.rejectByOwnershipSecurity frontendRequest) >>= ·)
    funext result
    cases result <;> rfl
  cases entryPoint with
  | query => exact absurd rfl guards
  | _ => exact checked

section Run
variable {State : Type} {answer : (call : Call) → State → call.Answer × State}
  {state following : State} {queryHandler : QueryHandlerPlugin} {entryPoint : EntryPoint}
  {frontendRequest identified : FrontendRequest}

omit [NodeRuntime] [DocumentProcessing] in
@[simp] theorem runState_perform (call : Call) :
    Program.runState answer (perform call) state = answer call state := rfl

omit [NodeRuntime] [DocumentProcessing] in
@[simp] theorem runState_monadLift {A : Type} (outcome : Except Exception A) :
    Program.runState answer (monadLift outcome : Frontend A) state = (outcome, state) := rfl

/-- The client of the request is known, and no response has been posted. -/
def Identified (answer : (call : Call) → State → call.Answer × State) (entryPoint : EntryPoint)
    (frontendRequest : FrontendRequest) (state : State) (identified : FrontendRequest)
    (following : State) : Prop :=
  Program.runState answer
      (entryPoint.identify ⟨{ frontendRequest with action := entryPoint.action }, none⟩) state =
    (.ok ⟨identified, none⟩, following)

theorem run_identified
    (known : Identified answer entryPoint frontendRequest state identified following) :
    Program.runState answer (entryPoint.run queryHandler frontendRequest) state =
      match entryPoint.validate ⟨identified, none⟩ with
      | .error _ => (.ok (.ofStatus 500), following)
      | .ok validated => Program.runState answer
          (tryCatch (entryPoint.finish queryHandler validated) fun _ => pure (.ofStatus 500))
          following := by
  unfold Identified at known
  rw [run_eq, Program.runState_tryCatch, Program.runState_bind_ok known, Program.runState_bind,
    runState_monadLift]
  cases entryPoint.validate ⟨identified, none⟩ with
  | error error => rfl
  | ok validated =>
      simp only [Program.runState_tryCatch]

omit [DocumentProcessing] in
theorem identifying_identify (entryPoint : EntryPoint) (model : MiddlewareModel) :
    Identifying (Identifies model) (entryPoint.identify model) := by
  have loaded : ∀ earlier, Identifies model earlier →
      Identifying (Identifies model) (loadApiSchema earlier >>= authorize) := by
    intro earlier before
    apply Program.Confined.bind (identifying_loadApiSchema earlier)
    intro later loading
    apply (identifying_authorize later).mono
    intro last authorizing
    exact (before.trans loading).trans authorizing
  have stamped : Identifying (Identifies model)
      (timestampRequest model >>= loadApiSchema >>= authorize) := by
    rw [bind_assoc]
    exact Program.Confined.bind (identifying_timestampRequest model) loaded
  cases entryPoint with
  | query => exact loaded model (.refl model)
  | getById => exact loaded model (.refl model)
  | update => exact stamped
  | upsert => exact stamped
  | deleteIt => exact loaded model (.refl model)

omit [DocumentProcessing] in
/-- An identified request still asks for the same action on the same path. -/
theorem Identified.sameAction
    (known : Identified answer entryPoint frontendRequest state identified following) :
    SameAction ⟨{ frontendRequest with action := entryPoint.action }, none⟩ ⟨identified, none⟩ := by
  have described : Program.Unless (Identifies _) (Program.runState answer (entryPoint.identify
      ⟨{ frontendRequest with action := entryPoint.action }, none⟩) state).1 :=
    Program.Within.runState_value (identifying_identify entryPoint _)
  unfold Identified at known
  rw [known] at described
  exact described.same

/-- Validation keeps the client and the action, and whatever it responds is an error. -/
theorem validates_validate {model validated : MiddlewareModel}
    (done : entryPoint.validate model = .ok validated) : Validates model validated := by
  cases entryPoint with
  | query =>
      obtain ⟨middle, endpointDone, queryDone⟩ := ok_of_bind done
      exact (validates_endpointValidation endpointDone).trans (validates_queryValidation queryDone)
  | getById => exact validates_endpointValidation done
  | update => exact validates_validateWrite done
  | upsert => exact validates_validateWrite done
  | deleteIt => exact (validates_parsePath model).trans (validates_endpointValidation done)

/-- A validated request keeps the client and the action of the identified one. -/
theorem validate_sameClient {model validated : MiddlewareModel}
    (done : entryPoint.validate model = .ok validated) : SameClient model validated :=
  (validates_validate done).toSameClient

end Run
end EntryPoint
end Entry
end Meadowlark.Core
