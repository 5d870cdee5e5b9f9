import Meadowlark.Construction.Mongo.Ownership
import Meadowlark.Construction.Search.QueryDocuments
import Meadowlark.Proof.Core.NotFound
import Meadowlark.Proof.Core.Requests

namespace Meadowlark.Core
open Systems

section Roles
variable [NodeRuntime] {roles : List String}

/-- Some role of the list is one of these, up to its letter case. -/
def HasRole (names : List String) (roles : List String) : Prop :=
  ∃ role ∈ roles, NodeRuntime.toLocaleLowerCase role ∈ names

instance (names roles : List String) : Decidable (HasRole names roles) :=
  inferInstanceAs (Decidable (∃ role ∈ roles, _))

/-- The OAuth server has verified the token of the request, and it carries these roles. -/
def CarriesRoles (roles : List String) (identified : FrontendRequest) : Prop :=
  ∃ data clientTokenInfo, rolesFrom data = .array (roles.map .string) ∧
    clientTokenInfoFrom data = .ok clientTokenInfo ∧
    identified.middleware.security = clientTokenInfo.security

theorem someRole_strings (wanted : String → Bool) (roles : List String) :
    someRole wanted (roles.map .string) =
      .ok (roles.any fun role => wanted (NodeRuntime.toLocaleLowerCase role)) := by
  induction roles with
  | nil => rfl
  | cons role rest ih =>
      rw [List.map_cons, someRole, ih, List.any_cons]
      cases wanted (NodeRuntime.toLocaleLowerCase role) with
      | true => rfl
      | false => rfl

/-- Without a role of full access, a list of roles is owned or it has no strategy. -/
theorem strategy_of_roles {authorizationStrategy : AuthorizationStrategy}
    (limited : ¬ HasRole ["host", "admin"] roles)
    (determined : determineAuthStrategyFromRoles (roles.map .string) = .ok authorizationStrategy) :
    (HasRole ["vendor", "assessment"] roles ∧ authorizationStrategy = .ownershipBased) ∨
      (¬ HasRole ["vendor", "assessment"] roles ∧ authorizationStrategy = .undefined) := by
  have host : (roles.any fun role => decide (NodeRuntime.toLocaleLowerCase role = "host")) =
      false := by
    apply List.any_eq_false.mpr
    intro role inside same
    exact limited ⟨role, inside, List.mem_cons.mpr (.inl (of_decide_eq_true same))⟩
  have admin : (roles.any fun role => decide (NodeRuntime.toLocaleLowerCase role = "admin")) =
      false := by
    apply List.any_eq_false.mpr
    intro role inside same
    refine limited ⟨role, inside, List.mem_cons.mpr (.inr ?_)⟩
    exact List.mem_singleton.mpr (of_decide_eq_true same)
  unfold determineAuthStrategyFromRoles at determined
  simp only [someRole_strings, host, admin] at determined
  have owns : (roles.any fun role => decide (NodeRuntime.toLocaleLowerCase role = "vendor") ||
      decide (NodeRuntime.toLocaleLowerCase role = "assessment")) = true ↔
        HasRole ["vendor", "assessment"] roles := by
    simp [HasRole, List.any_eq_true]
  by_cases owned : HasRole ["vendor", "assessment"] roles
  · refine .inl ⟨owned, ?_⟩
    rw [owns.mpr owned] at determined
    exact (Except.ok.inj determined).symm
  · refine .inr ⟨owned, ?_⟩
    rw [Bool.eq_false_iff.mpr (mt owns.mp owned)] at determined
    exact (Except.ok.inj determined).symm

/-- A verified token without a role of full access serves its client under the ownership
strategy when it has an owning role, and without any strategy otherwise. -/
theorem CarriesRoles.strategy {identified : FrontendRequest}
    (carries : CarriesRoles roles identified) (limited : ¬ HasRole ["host", "admin"] roles) :
    (HasRole ["vendor", "assessment"] roles ∧
        identified.middleware.security.authorizationStrategy = .ownershipBased) ∨
      (¬ HasRole ["vendor", "assessment"] roles ∧
        identified.middleware.security.authorizationStrategy = .undefined) := by
  obtain ⟨data, clientTokenInfo, listed, derived, same⟩ := carries
  unfold clientTokenInfoFrom at derived
  rw [listed] at derived
  dsimp only at derived
  obtain ⟨authorizationStrategy, determined, built⟩ := ok_of_bind derived
  obtain rfl := Except.ok.inj built
  rw [same]
  exact strategy_of_roles limited determined

end Roles

section Operations
variable [NodeRuntime] {State : Type} {answer : (call : Call) → State → call.Answer × State}
  {state : State}

/-- The calls for documents. -/
def Call.forDocuments : Call → Bool
  | .upsertDocument _ => true
  | .updateDocumentById _ => true
  | .deleteDocumentById _ => true
  | .getDocumentById _ => true
  | .search _ => true
  | _ => false

/-- The call that a write makes. -/
def WriteRequest.call : WriteRequest → Call
  | .upsert request => .upsertDocument request
  | .update request => .updateDocumentById request
  | .delete request => .deleteDocumentById request

/-- The event that a handler announces for a validated request and the call for documents that
follows it. -/
def EntryPoint.operation (entryPoint : EntryPoint) (validated : FrontendRequest) :
    Option (ListenerEvent × Call) :=
  match entryPoint with
  | .query =>
      let request := queryRequestFrom validated
      some (.beforeQueryDocuments request, .search (Search.searchRequestFrom request))
  | .getById => validated.middleware.pathComponents.documentUuid.map fun documentUuid =>
      let request := getRequestFrom validated documentUuid
      (.beforeGetDocumentById request, .getDocumentById request)
  | _ => (plannedWrite entryPoint validated).map fun write => (write.announcement, write.call)

omit [NodeRuntime] in
theorem calls_perform (call : Call) : Program.calls answer (perform call) state = [call] := rfl

omit [NodeRuntime] in
theorem calls_lift {A : Type} (outcome : Except Exception A) :
    Program.calls answer (monadLift outcome : Frontend A) state = [] := rfl

omit [NodeRuntime] in
/-- A middle part that makes one call is announced before it and reported after it. -/
theorem calls_announced {A B : Type} {before : ListenerEvent} {call : Call} {middle : Frontend A}
    {after : A → ListenerEvent} {respond : A → Frontend B}
    (single : ∀ state, Program.calls answer middle state = [call])
    (quiet : ∀ result state, Program.calls answer (respond result) state = []) :
    ∃ reports : List Call, (∀ report ∈ reports, report.publishes = true) ∧
      Program.calls answer (perform (.publish before) >>= fun _ => middle >>= fun result =>
          perform (.publish (after result)) >>= fun _ => respond result) state =
        .publish before ::
          if (answer (.publish before) state).1.isOk = true then call :: reports else [] := by
  rw [Program.calls_bind, calls_perform, EntryPoint.runState_perform]
  cases answer (.publish before) state with
  | mk heard following =>
      cases heard with
      | error error => exact ⟨[], fun _ inside => absurd inside List.not_mem_nil, rfl⟩
      | ok value =>
          dsimp only
          rw [Program.calls_bind, single]
          cases Program.runState answer middle following with
          | mk outcome last =>
              cases outcome with
              | error error => exact ⟨[], fun _ inside => absurd inside List.not_mem_nil, rfl⟩
              | ok result =>
                  refine ⟨[.publish (after result)], ?_, ?_⟩
                  · intro report inside
                    obtain rfl := List.mem_singleton.mp inside
                    rfl
                  · dsimp only
                    rw [Program.calls_bind, calls_perform, EntryPoint.runState_perform]
                    cases answer (.publish (after result)) last with
                    | mk told ended =>
                        cases told with
                        | error error => rfl
                        | ok value =>
                            dsimp only
                            rw [quiet]
                            rfl

variable {engine : Search.Engine} {entryPoint : EntryPoint} {validated : FrontendRequest}

/-- A search engine makes its search and nothing else. -/
theorem calls_queryDocuments (request : QueryRequest) :
    Program.calls answer (engine.queryHandler.queryDocuments request) state =
      [.search (Search.searchRequestFrom request)] := by
  change Program.calls answer (tryCatch _ _) state = _
  rw [Program.calls_tryCatch, Program.calls_bind, calls_perform, Program.runState_bind,
    EntryPoint.runState_perform]
  cases answer (.search (Search.searchRequestFrom request)) state with
  | mk outcome following =>
      cases outcome with
      | error error => rfl
      | ok found =>
          dsimp only
          generalize (if found.total > 0 then found.sources.mapM Search.documentFrom
            else Except.ok []) = documents
          cases documents with
          | error error => rfl
          | ok documents => rfl

omit [NodeRuntime] in
theorem calls_caught (program : Frontend FrontendResponse) :
    Program.calls answer (tryCatch program fun _ => pure (.ofStatus 500)) state =
      Program.calls answer program state := by
  rw [Program.calls_tryCatch]
  cases Program.runState answer program state with
  | mk outcome following =>
      cases outcome with
      | ok value => exact List.append_nil _
      | error error => exact List.append_nil _

/-- A handler announces its operation and makes it when the announcement is heard. -/
theorem calls_handle (engine : Search.Engine) (entryPoint : EntryPoint)
    (validated : FrontendRequest) :
    (entryPoint.operation validated = none ∧
      Program.calls answer (entryPoint.handle engine.queryHandler validated) state = []) ∨
    ∃ event call, entryPoint.operation validated = some (event, call) ∧
      ∃ reports : List Call, (∀ report ∈ reports, report.publishes = true) ∧
        Program.calls answer (entryPoint.handle engine.queryHandler validated) state =
          .publish event ::
            if (answer (.publish event) state).1.isOk = true then call :: reports else [] := by
  cases entryPoint with
  | query =>
      refine .inr ⟨_, _, rfl, ?_⟩
      exact calls_announced (fun _ => calls_queryDocuments _) fun _ _ => rfl
  | getById =>
      unfold EntryPoint.operation EntryPoint.handle GetById.getById
      dsimp only
      cases validated.middleware.pathComponents.documentUuid with
      | none => exact .inl ⟨rfl, rfl⟩
      | some documentUuid =>
          refine .inr ⟨.beforeGetDocumentById (getRequestFrom validated documentUuid),
            .getDocumentById (getRequestFrom validated documentUuid), rfl, ?_⟩
          exact calls_announced (fun _ => rfl) fun _ _ => rfl
  | upsert =>
      refine .inr ⟨_, _, rfl, ?_⟩
      change ∃ reports, _ ∧ Program.calls answer (tryCatch _ _) state = _
      rw [calls_caught]
      exact calls_announced (fun _ => rfl) fun _ _ => rfl
  | update =>
      unfold EntryPoint.operation plannedWrite EntryPoint.handle Update.update
      dsimp only
      rw [calls_caught]
      cases validated.middleware.pathComponents.documentUuid with
      | none => exact .inl ⟨rfl, rfl⟩
      | some documentUuid =>
          dsimp only
          cases documentUuidFromBody validated.middleware.parsedBody with
          | error error => exact .inl ⟨rfl, rfl⟩
          | ok fromBody =>
              by_cases same : fromBody = some (.string documentUuid.value)
              · rw [same, if_pos rfl]
                refine .inr ⟨.beforeUpdateDocumentById (updateRequestFrom validated documentUuid),
                  .updateDocumentById (updateRequestFrom validated documentUuid), rfl, ?_⟩
                change ∃ reports, _ ∧ Program.calls answer
                  (if some (.string documentUuid.value) = some (Json.string documentUuid.value) then
                    updateWith backendFacade validated _ else _) state = _
                rw [if_pos rfl]
                exact calls_announced (fun _ => rfl) fun _ _ => rfl
              · rw [if_neg (mt Except.ok.inj same)]
                refine .inl ⟨rfl, ?_⟩
                change Program.calls answer (if fromBody = some (.string documentUuid.value) then
                  updateWith backendFacade validated _ else _) state = _
                rw [if_neg same]
                rfl
  | deleteIt =>
      unfold EntryPoint.operation plannedWrite EntryPoint.handle Delete.deleteIt
      dsimp only
      rw [calls_caught]
      cases validated.middleware.pathComponents.documentUuid with
      | none => exact .inl ⟨rfl, rfl⟩
      | some documentUuid =>
          refine .inr ⟨.beforeDeleteDocumentById (deleteRequestFrom validated documentUuid),
            .deleteDocumentById (deleteRequestFrom validated documentUuid), rfl, ?_⟩
          exact calls_announced (fun _ => rfl) fun _ _ => rfl

omit [NodeRuntime] in
/-- A call for documents neither identifies a client nor publishes an event. -/
theorem Call.apart_of_forDocuments {call : Call} (documents : call.forDocuments = true) :
    call.identifies = false ∧ call.publishes = false ∧
      ∀ frontendRequest, call ≠ .rejectByOwnershipSecurity frontendRequest := by
  refine ⟨?_, ?_, ?_⟩
  · cases call <;> first | rfl | cases documents
  · cases call <;> first | rfl | cases documents
  · rintro frontendRequest rfl
    cases documents

/-- The operation is made: it is announced, and the announcement is heard. -/
def EntryPoint.Makes (answer : (call : Call) → State → call.Answer × State)
    (entryPoint : EntryPoint) (validated : FrontendRequest) (state : State) (call : Call) : Prop :=
  ∃ event, entryPoint.operation validated = some (event, call) ∧
    (answer (.publish event) state).1.isOk = true

theorem EntryPoint.operation_forDocuments {event : ListenerEvent} {call : Call}
    (operation : entryPoint.operation validated = some (event, call)) :
    call.forDocuments = true := by
  unfold EntryPoint.operation at operation
  cases entryPoint with
  | query =>
      cases operation
      rfl
  | getById =>
      obtain ⟨documentUuid, -, same⟩ := Option.map_eq_some_iff.mp operation
      cases same
      rfl
  | _ =>
      obtain ⟨write, -, same⟩ := Option.map_eq_some_iff.mp operation
      cases same
      cases write <;> rfl

/-- What a handler calls for documents is its operation. -/
theorem handle_makes {call : Call} (documents : call.forDocuments = true)
    (called : call ∈ Program.calls answer (entryPoint.handle engine.queryHandler validated) state) :
    entryPoint.Makes answer validated state call := by
  obtain ⟨-, unpublished, -⟩ := call.apart_of_forDocuments documents
  have publishes : ∀ event, call ≠ .publish event := by
    rintro event rfl
    cases documents
  rcases @calls_handle _ _ answer state engine entryPoint validated with
    ⟨-, same⟩ | ⟨event, made, operation, reports, reported, same⟩
  · rw [same] at called
    cases called
  · rw [same] at called
    rcases List.mem_cons.mp called with announced | called
    · exact absurd announced (publishes event)
    · by_cases heard : (answer (.publish event) state).1.isOk = true
      · rw [if_pos heard] at called
        rcases List.mem_cons.mp called with rfl | report
        · exact ⟨event, operation, heard⟩
        · rw [reported call report] at unpublished
          cases unpublished
      · rw [if_neg heard] at called
        cases called

/-- The operation that is made is called after its announcement. -/
theorem EntryPoint.Makes.calls {call : Call}
    (makes : entryPoint.Makes answer validated state call) :
    ∃ event reports, Program.calls answer (entryPoint.handle engine.queryHandler validated) state =
      .publish event :: call :: reports := by
  obtain ⟨event, operation, heard⟩ := makes
  rcases @calls_handle _ _ answer state engine entryPoint validated with
    ⟨missing, -⟩ | ⟨other, made, same, reports, -, called⟩
  · rw [missing] at operation
    cases operation
  · rw [operation] at same
    cases same
    rw [if_pos heard] at called
    exact ⟨event, reports, called⟩

end Operations

section Denial
variable [NodeRuntime] [DocumentProcessing] {State : Type}
  {answer : (call : Call) → State → call.Answer × State} {state following : State}
  {engine : Search.Engine} {entryPoint : EntryPoint}
  {frontendRequest identified validated : FrontendRequest} {roles : List String}

/-- The ownership check of the request has been asked for, and it lets the request pass. -/
structure Checked (answer : (call : Call) → State → call.Answer × State)
    (validated : FrontendRequest) (following : State) (before : List Call) : Prop where
  asked : Call.rejectByOwnershipSecurity validated ∈ before
  passed : ∃ result, (answer (.rejectByOwnershipSecurity validated) following).1 = .ok result ∧
    result.permits = true

/-- A search has the ownership filter, and any other call for documents follows the check. -/
def Call.Guarded (answer : (call : Call) → State → call.Answer × State)
    (validated : FrontendRequest) (following : State) (before : List Call) : Call → Prop
  | .search request => .matchCreatedBy validated.middleware.security.clientId ∈ request.must
  | _ => Checked answer validated following before

omit [NodeRuntime] [DocumentProcessing] in
theorem Call.Guarded.cases {call : Call} {before : List Call}
    (guarded : call.Guarded answer validated following before) :
    (∃ request, call = .search request ∧
        .matchCreatedBy validated.middleware.security.clientId ∈ request.must) ∨
      Checked answer validated following before := by
  cases call with
  | search request => exact .inl ⟨request, rfl, guarded⟩
  | _ => exact .inr guarded

omit [NodeRuntime] [DocumentProcessing] in
theorem Checked.guarded {call : Call} {before : List Call}
    (checked : Checked answer validated following before)
    (other : ∀ request, call ≠ .search request) :
    call.Guarded answer validated following before := by
  cases call with
  | search request => exact absurd rfl (other request)
  | _ => exact checked

/-- A request makes no call for documents that is not guarded, unless it reads descriptors. -/
def DeniedByDefault (answer : (call : Call) → State → call.Answer × State)
    (engine : Search.Engine) (entryPoint : EntryPoint)
    (frontendRequest identified : FrontendRequest) (state following : State) : Prop :=
  ∀ before call after,
    Program.calls answer (entryPoint.run engine.queryHandler frontendRequest) state =
      before ++ call :: after → call.forDocuments = true →
    ∃ validated, entryPoint.validate ⟨identified, none⟩ = .ok ⟨validated, none⟩ ∧
      (ReadsDescriptor validated ∨ call.Guarded answer validated following before)

/-- The request is valid and comes to its call for documents, which is no read of descriptors. -/
def EntryPoint.Reaches (answer : (call : Call) → State → call.Answer × State)
    (entryPoint : EntryPoint) (identified : FrontendRequest) (following : State) : Prop :=
  ∃ validated call, entryPoint.validate ⟨identified, none⟩ = .ok ⟨validated, none⟩ ∧
    ¬ ReadsDescriptor validated ∧ entryPoint.Makes answer validated following call

omit [DocumentProcessing] in
theorem calls_identify (entryPoint : EntryPoint) (model : MiddlewareModel) (state : State) :
    ∀ call ∈ Program.calls answer (entryPoint.identify model) state, call.identifies = true :=
  @Program.Within.recorded _ _ _ _ _ answer (state, []) _ _ _
    (EntryPoint.identifying_identify entryPoint model)
    fun _ inside => absurd inside List.not_mem_nil

/-- The calls of a request are those that identify its client and those that finish it. -/
theorem calls_run
    (known : entryPoint.Identified answer frontendRequest state identified following) :
    Program.calls answer (entryPoint.run engine.queryHandler frontendRequest) state =
      Program.calls answer (entryPoint.identify
          ⟨{ frontendRequest with action := entryPoint.action }, none⟩) state ++
        match entryPoint.validate ⟨identified, none⟩ with
        | .ok model => Program.calls answer (entryPoint.finish engine.queryHandler model) following
        | .error _ => [] := by
  unfold EntryPoint.Identified at known
  rw [EntryPoint.run_eq, calls_caught, Program.calls_bind, known]
  dsimp only
  rw [Program.calls_bind, calls_lift, EntryPoint.runState_monadLift, List.nil_append]
  cases entryPoint.validate ⟨identified, none⟩ with
  | error error => rfl
  | ok model => rfl

omit [DocumentProcessing] in
/-- Under the ownership strategy a request is finished by its check first. -/
theorem calls_finish_owner (guards : entryPoint ≠ .query)
    (owner : validated.middleware.security.authorizationStrategy = .ownershipBased) :
    ∃ rest, Program.calls answer (entryPoint.finish engine.queryHandler ⟨validated, none⟩)
        following = .rejectByOwnershipSecurity validated :: rest ∧
      (rest = [] ∨ ∃ result last, (answer (.rejectByOwnershipSecurity validated) following).1 =
          .ok result ∧ result.permits = true ∧
        rest = Program.calls answer (entryPoint.handle engine.queryHandler validated) last) := by
  unfold EntryPoint.finish
  rw [EntryPoint.guard_checked guards owner, bind_assoc, Program.calls_bind, calls_perform,
    EntryPoint.runState_perform]
  refine ⟨_, rfl, ?_⟩
  cases answer (.rejectByOwnershipSecurity validated) following with
  | mk outcome last =>
      cases outcome with
      | error error => exact .inl rfl
      | ok result =>
          cases result with
          | accessApproved => exact .inr ⟨_, _, rfl, rfl, rfl⟩
          | notApplicable => exact .inr ⟨_, _, rfl, rfl, rfl⟩
          | unknownFailure => exact .inl rfl
          | accessDenied => exact .inl rfl

omit [DocumentProcessing] in
theorem not_called_identify {call : Call} (documents : call.forDocuments = true)
    (model : MiddlewareModel) : call ∉ Program.calls answer (entryPoint.identify model) state := by
  intro called
  have identifies := calls_identify entryPoint model state call called
  rw [(call.apart_of_forDocuments documents).1] at identifies
  cases identifies

/-- Only the guard and the handler of a valid request call for documents. -/
theorem called_finish
    (known : entryPoint.Identified answer frontendRequest state identified following) {call : Call}
    (documents : call.forDocuments = true)
    (called : call ∈ Program.calls answer (entryPoint.run engine.queryHandler frontendRequest)
      state) :
    ∃ validated, entryPoint.validate ⟨identified, none⟩ = .ok ⟨validated, none⟩ ∧
      call ∈ Program.calls answer (entryPoint.finish engine.queryHandler ⟨validated, none⟩)
        following := by
  rw [calls_run known] at called
  rcases List.mem_append.mp called with earlier | called
  · exact absurd earlier (not_called_identify documents _)
  · cases valid : entryPoint.validate ⟨identified, none⟩ with
    | error error =>
        rw [valid] at called
        cases called
    | ok model =>
        rw [valid] at called
        obtain ⟨validated, posted⟩ := model
        cases posted with
        | none => exact ⟨validated, rfl, called⟩
        | some frontendResponse =>
            dsimp only at called
            rw [finish_posted] at called
            cases called

omit [DocumentProcessing] in
/-- A handler calls for a search only to answer a query. -/
theorem EntryPoint.operation_search {event : ListenerEvent} {request : SearchRequest}
    (operation : entryPoint.operation validated = some (event, .search request)) :
    entryPoint = .query ∧ request = Search.searchRequestFrom (queryRequestFrom validated) := by
  unfold EntryPoint.operation at operation
  cases entryPoint with
  | query =>
      cases operation
      exact ⟨rfl, rfl⟩
  | getById =>
      obtain ⟨documentUuid, -, same⟩ := Option.map_eq_some_iff.mp operation
      cases same
  | _ =>
      obtain ⟨write, -, same⟩ := Option.map_eq_some_iff.mp operation
      cases write <;> cases same

omit [DocumentProcessing] in
/-- A search has the ownership filter under the ownership strategy only. -/
theorem filtered_iff (request : QueryRequest) (clientId : String) :
    .matchCreatedBy clientId ∈ (Search.searchRequestFrom request).must ↔
      (request.security.authorizationStrategy = .ownershipBased ∧
        request.resourceInfo.isDescriptor = false) ∧ clientId = request.security.clientId := by
  unfold Search.searchRequestFrom
  dsimp only
  by_cases filters : request.security.authorizationStrategy = .ownershipBased ∧
      request.resourceInfo.isDescriptor = false
  · simp [filters]
  · simp [filters]

/-- Without the ownership strategy a request is denied only when it does not reach any document. -/
theorem denied_unguarded_iff
    (known : entryPoint.Identified answer frontendRequest state identified following)
    (unguarded : identified.middleware.security.authorizationStrategy ≠ .ownershipBased) :
    DeniedByDefault answer engine entryPoint frontendRequest identified state following ↔
      ¬ entryPoint.Reaches answer identified following := by
  have kept : ∀ validated, entryPoint.validate ⟨identified, none⟩ = .ok ⟨validated, none⟩ →
      validated.middleware.security.authorizationStrategy ≠ .ownershipBased := by
    intro validated valid
    have security := (EntryPoint.validate_sameClient valid).security
    dsimp only at security
    rw [security]
    exact unguarded
  constructor
  · rintro denied ⟨validated, call, valid, undescribed, makes⟩
    obtain ⟨event, reports, handled⟩ := @EntryPoint.Makes.calls _ _ _ _ engine _ _ _ makes
    have run := @calls_run _ _ _ answer _ _ engine _ _ _ known
    rw [valid] at run
    dsimp only at run
    rw [finish_unguarded (kept validated valid), handled, List.append_cons] at run
    obtain ⟨event, operation, -⟩ := makes
    have documents := EntryPoint.operation_forDocuments operation
    obtain ⟨other, validAgain, described | guarded⟩ := denied _ call reports run documents
    · cases valid.symm.trans validAgain
      exact undescribed described
    · cases valid.symm.trans validAgain
      rcases guarded.cases with ⟨request, rfl, filtered⟩ | ⟨asked, -⟩
      · obtain ⟨-, rfl⟩ := EntryPoint.operation_search operation
        exact kept validated valid ((filtered_iff _ _).mp filtered).1.1
      · rcases List.mem_append.mp asked with early | late
        · cases calls_identify _ _ _ _ early
        · cases List.mem_singleton.mp late
  · intro unreached before call after split documents
    have called : call ∈ Program.calls answer (entryPoint.run engine.queryHandler frontendRequest)
        state := by
      rw [split]
      exact List.mem_append_right _ List.mem_cons_self
    obtain ⟨validated, valid, finished⟩ := called_finish known documents called
    rw [finish_unguarded (kept validated valid)] at finished
    refine ⟨validated, valid, .inl ?_⟩
    by_contra undescribed
    exact unreached ⟨validated, call, valid, undescribed, handle_makes documents finished⟩

/-- Under the ownership strategy a request is denied by default. -/
theorem denied_owner
    (known : entryPoint.Identified answer frontendRequest state identified following)
    (owner : identified.middleware.security.authorizationStrategy = .ownershipBased) :
    DeniedByDefault answer engine entryPoint frontendRequest identified state following := by
  intro before call after split documents
  have called : call ∈ Program.calls answer (entryPoint.run engine.queryHandler frontendRequest)
      state := by
    rw [split]
    exact List.mem_append_right _ List.mem_cons_self
  obtain ⟨validated, valid, finished⟩ := called_finish known documents called
  have same := EntryPoint.validate_sameClient valid
  refine ⟨validated, valid, ?_⟩
  have owned : validated.middleware.security.authorizationStrategy = .ownershipBased := by
    rw [same.security]
    exact owner
  by_cases queries : entryPoint = .query
  · subst queries
    obtain ⟨event, operation, -⟩ :=
      @handle_makes _ _ answer following engine .query validated call documents finished
    cases operation
    by_cases described : validated.middleware.resourceInfo.isDescriptor = true
    · exact .inl ⟨described, .inr (same.action.trans known.sameAction.action)⟩
    · refine .inr ((filtered_iff (queryRequestFrom validated) _).mpr ⟨⟨owned, ?_⟩, rfl⟩)
      exact Bool.eq_false_iff.mpr described
  · obtain ⟨rest, called, passed⟩ :=
      @calls_finish_owner _ _ answer following engine _ _ queries owned
    have unlike := (call.apart_of_forDocuments documents).2.2 validated
    rw [called] at finished
    have later := (List.mem_cons.mp finished).resolve_left unlike
    rcases passed with rfl | ⟨result, last, answered, permits, rfl⟩
    · cases later
    · have run := @calls_run _ _ _ answer _ _ engine _ _ _ known
      rw [valid] at run
      dsimp only at run
      rw [called] at run
      have asked :=
        Program.mem_of_split (run.symm.trans split) (not_called_identify documents _) unlike
      obtain ⟨event, operation, -⟩ := handle_makes documents later
      refine .inr (Checked.guarded ⟨asked, result, answered, permits⟩ ?_)
      rintro request rfl
      exact queries (EntryPoint.operation_search operation).1

/-- A request whose token has no role of full access calls for documents only after its ownership
check or with the ownership filter, or to read descriptors, exactly when its roles own documents or
it does not reach any. -/
theorem default_deny_iff (carries : CarriesRoles roles identified)
    (limited : ¬ HasRole ["host", "admin"] roles)
    (known : entryPoint.Identified answer frontendRequest state identified following) :
    DeniedByDefault answer engine entryPoint frontendRequest identified state following ↔
      HasRole ["vendor", "assessment"] roles ∨
        ¬ entryPoint.Reaches answer identified following := by
  rcases carries.strategy limited with ⟨owning, owner⟩ | ⟨roleless, undefined⟩
  · exact iff_of_true (denied_owner known owner) (.inl owning)
  · rw [or_iff_right roleless]
    apply denied_unguarded_iff known
    rw [undefined]
    exact nofun

end Denial

section Sample
open Sample

/-- The OAuth server gives the first client the role of a vendor, and the others may only verify
tokens. -/
private def verifyingServices : Services Int where
  answer
    | .getCachedClientTokenInfo _, time => (.ok none, time)
    | .setCachedClientTokenInfo _ _, time => (.ok (), time)
    | .getCachedOwnAccessToken, time => (.ok (some (.string "own")), time)
    | .fetchClientTokenVerification token _, time => (.ok ⟨200, some (.object
        [("active", .boolean true), ("client_id", .string token), ("roles", .array
          [.string (if token = "first" then "Vendor" else "verify-only")])])⟩, time)
    | call, time => services.answer call time

private def firstUuid : DocumentUuid := documentUuid "000000000001"

private abbrev verifyingAnswer :
    (call : Call) → Mongo.Store × Int → call.Answer × (Mongo.Store × Int) :=
  serve (@Mongo.documentStore runtime ⟨firstUuid, []⟩) verifyingServices

private def vendorPost : FrontendRequest :=
  request "/v3.3b/ed-fi/schools" "first" (some "\x7b\"schoolId\": \"1\"\x7d")

private def verifierDelete : FrontendRequest :=
  request ("/v3.3b/ed-fi/schools/" ++ firstUuid.value) "reader" none

private def handledBy (entryPoint : EntryPoint) (frontendRequest : FrontendRequest)
    (world : Mongo.Store × Int) : Except Exception FrontendResponse × (Mongo.Store × Int) :=
  Program.runState verifyingAnswer (@EntryPoint.run runtime processing
    (@Search.Engine.queryHandler runtime .opensearch) entryPoint frontendRequest) world

private abbrev unusedWorld : Mongo.Store × Int := (Database.empty, 1)

@[irreducible] private def vendorWorld : Mongo.Store × Int :=
  (handledBy .upsert vendorPost unusedWorld).2

/-- The request whose client the OAuth server has named. -/
private def namedBy (entryPoint : EntryPoint) (frontendRequest : FrontendRequest)
    (authorizationStrategy : AuthorizationStrategy) (clientId : String) (timestamp : Int) :
    FrontendRequest :=
  { frontendRequest with
    action := entryPoint.action
    middleware :=
      { frontendRequest.middleware with
        providedSecurity := some ⟨authorizationStrategy, clientId⟩
        apiSchema := ⟨⟨["ed-fi"], fun _ => some projectSchema⟩, ⟨[], fun _ => none⟩⟩
        validateResources := true
        timestamp := timestamp } }

private theorem identified_vendorPost :
    @EntryPoint.Identified runtime _ verifyingAnswer .upsert vendorPost unusedWorld
      (namedBy .upsert vendorPost .ownershipBased "first" 1) (Database.empty, 2) := by
  rfl

private theorem identified_verifierDelete (world : Mongo.Store × Int) :
    @EntryPoint.Identified runtime _ verifyingAnswer .deleteIt verifierDelete world
      (namedBy .deleteIt verifierDelete .undefined "reader" 0) world := by
  rfl

/-- The validation of the delete: whether it passes, names a descriptor and finds a uuid. -/
private def deleteValidated : Except Exception (Bool × Bool × Option DocumentUuid) :=
  (@EntryPoint.validate runtime processing .deleteIt
    ⟨namedBy .deleteIt verifierDelete .undefined "reader" 0, none⟩).map fun model =>
      (model.frontendResponse.isNone, model.frontendRequest.middleware.resourceInfo.isDescriptor,
        model.frontendRequest.middleware.pathComponents.documentUuid)

private theorem verifier_deletes :
    (Mongo.documents vendorWorld.1).map (·.createdBy) = ["first"] ∧
      (handledBy .deleteIt verifierDelete vendorWorld).1.toOption.map (·.statusCode) = some 204 ∧
      Mongo.documents (handledBy .deleteIt verifierDelete vendorWorld).2.1 = [] ∧
      deleteValidated.toOption = some (true, false, some firstUuid) := by
  decide +kernel

private theorem carries_vendor :
    @CarriesRoles runtime ["Vendor"] (namedBy .upsert vendorPost .ownershipBased "first" 1) :=
  ⟨some (.object [("client_id", .string "first"), ("roles", .array [.string "Vendor"])]),
    ⟨⟨.ownershipBased, "first"⟩, true⟩, rfl, by decide +kernel, rfl⟩

private theorem carries_verifier :
    @CarriesRoles runtime ["verify-only"]
      (namedBy .deleteIt verifierDelete .undefined "reader" 0) :=
  ⟨some (.object [("client_id", .string "reader"), ("roles", .array [.string "verify-only"])]),
    ⟨⟨.undefined, "reader"⟩, true⟩, rfl, by decide +kernel, rfl⟩

private theorem limited_vendor : ¬ @HasRole runtime ["host", "admin"] ["Vendor"] := by
  decide +kernel

private theorem limited_verifier : ¬ @HasRole runtime ["host", "admin"] ["verify-only"] := by
  decide +kernel

private theorem verifier_reaches :
    @EntryPoint.Reaches runtime processing _ verifyingAnswer .deleteIt
      (namedBy .deleteIt verifierDelete .undefined "reader" 0) vendorWorld := by
  have passed := verifier_deletes.2.2.2
  unfold deleteValidated at passed
  cases valid : @EntryPoint.validate runtime processing .deleteIt
      ⟨namedBy .deleteIt verifierDelete .undefined "reader" 0, none⟩ with
  | error error =>
      rw [valid] at passed
      cases passed
  | ok model =>
      rw [valid] at passed
      obtain ⟨validated, posted⟩ := model
      obtain ⟨unposted, rest⟩ := Prod.mk.inj (Option.some.inj passed)
      obtain ⟨plain, named⟩ := Prod.mk.inj rest
      obtain rfl := Option.isNone_iff_eq_none.mp unposted
      refine ⟨validated, .deleteDocumentById (deleteRequestFrom validated firstUuid), valid, ?_, ?_⟩
      · rintro ⟨described, -⟩
        rw [plain] at described
        cases described
      · refine ⟨.beforeDeleteDocumentById (deleteRequestFrom validated firstUuid), ?_, rfl⟩
        unfold EntryPoint.operation plannedWrite
        dsimp only
        rw [named]
        rfl

theorem default_deny_school :
    @DeniedByDefault runtime processing _ verifyingAnswer .opensearch .upsert vendorPost
        (namedBy .upsert vendorPost .ownershipBased "first" 1) unusedWorld (Database.empty, 2) ∧
      (@DeniedByDefault runtime processing _ verifyingAnswer .opensearch .deleteIt verifierDelete
          (namedBy .deleteIt verifierDelete .undefined "reader" 0) vendorWorld vendorWorld ↔
        @HasRole runtime ["vendor", "assessment"] ["verify-only"] ∨
          ¬ @EntryPoint.Reaches runtime processing _ verifyingAnswer .deleteIt
            (namedBy .deleteIt verifierDelete .undefined "reader" 0) vendorWorld) := by
  constructor
  · exact (@default_deny_iff runtime processing _ _ _ _ _ _ _ _ _ carries_vendor limited_vendor
      identified_vendorPost).mpr (.inl (by decide +kernel))
  · exact @default_deny_iff runtime processing _ _ _ _ _ _ _ _ _ carries_verifier limited_verifier
      (identified_verifierDelete vendorWorld)

/-- With a token that may only verify tokens, a school of another client is deleted. -/
theorem verifier_deletes_school :
    @CarriesRoles runtime ["verify-only"]
        (namedBy .deleteIt verifierDelete .undefined "reader" 0) ∧
      ¬ @HasRole runtime ["host", "admin"] ["verify-only"] ∧
      @EntryPoint.Identified runtime _ verifyingAnswer .deleteIt verifierDelete vendorWorld
        (namedBy .deleteIt verifierDelete .undefined "reader" 0) vendorWorld ∧
      (Mongo.documents vendorWorld.1).map (·.createdBy) = ["first"] ∧
      (handledBy .deleteIt verifierDelete vendorWorld).1.toOption.map (·.statusCode) = some 204 ∧
      Mongo.documents (handledBy .deleteIt verifierDelete vendorWorld).2.1 = [] ∧
      ¬ @DeniedByDefault runtime processing _ verifyingAnswer .opensearch .deleteIt verifierDelete
        (namedBy .deleteIt verifierDelete .undefined "reader" 0) vendorWorld vendorWorld := by
  refine ⟨carries_verifier, limited_verifier, identified_verifierDelete vendorWorld,
    verifier_deletes.1, verifier_deletes.2.1, verifier_deletes.2.2.1, fun denied => ?_⟩
  exact (@denied_unguarded_iff runtime processing _ _ _ _ _ _ _ _
    (identified_verifierDelete vendorWorld) nofun).mp denied verifier_reaches

end Sample
end Meadowlark.Core
