import Meadowlark.Construction.Core.Listeners
import Meadowlark.Proof.Core.Sequences

namespace Meadowlark.Core
open Systems

/-- The events that tell how a write has ended. -/
def ListenerEvent.reports : ListenerEvent → Bool
  | .afterUpsertDocument _ _ => true
  | .afterUpdateDocumentById _ _ => true
  | .afterDeleteDocumentById _ _ => true
  | _ => false

/-- The listener is interested in nothing but the reports of writes. -/
def Listener.HearsReports {State : Type} (listener : Listener State) : Prop :=
  ∀ event state, event.reports = false → (listener.hear event state).2 = state

theorem depositsListener_hearsReports : depositsListener.HearsReports := by
  intro event deposits unreported
  cases event <;> first | rfl | cases unreported

theorem Listener.HearsReports.and {State Other : Type} {first : Listener State}
    {second : Listener Other} (hears : first.HearsReports) (others : second.HearsReports) :
    (first.and second).HearsReports := by
  intro event state unreported
  exact Prod.ext (hears event state.1 unreported) (others event state.2 unreported)

section Subscriptions
variable {State Memory Contents : Type} {listener : Listener State} {services : Services Memory}
  {state : State} {memory : Memory}

/-- Only events reach a listener. -/
theorem subscribe_answer {call : Call} (unpublished : call.publishes = false) :
    (services.subscribe listener).answer call (state, memory) =
      ((services.answer call memory).1, (state, (services.answer call memory).2)) := by
  cases call <;> first | rfl | cases unpublished

theorem subscribe_publish (event : ListenerEvent) :
    (services.subscribe listener).answer (.publish event) (state, memory) =
      ((listener.hear event state).1.bind fun _ => (services.answer (.publish event) memory).1,
        ((listener.hear event state).2, (services.answer (.publish event) memory).2)) := rfl

theorem subscribe_heard (hears : listener.HearsReports) {event : ListenerEvent}
    (unreported : event.reports = false) :
    ((services.subscribe listener).answer (.publish event) (state, memory)).2.1 = state :=
  hears event state unreported

/-- The identification of a client publishes nothing. -/
theorem identify_state [NodeRuntime] (entryPoint : EntryPoint) (model : MiddlewareModel) :
    (Program.runState (services.subscribe listener).answer (entryPoint.identify model)
      (state, memory)).2.1 = state := by
  refine @Program.Within.runState_state _ _ _ _ _ (services.subscribe listener).answer
    (state, memory) _ _ (fun world => world.1 = state) _
    (EntryPoint.identifying_identify entryPoint model) ?_ rfl
  rintro call ⟨state, memory⟩ identifies rfl
  rw [subscribe_answer]
  cases call <;> first | rfl | cases identifies

end Subscriptions

section Reports
variable {State Memory Contents : Type} {documentStore : DocumentStore Contents}
  {listener : Listener State} {services : Services Memory} {contents : Contents} {state : State}
  {memory : Memory}

/-- The event that reports a write, unless the store throws. -/
def WriteRequest.report (documentStore : DocumentStore Contents) (contents : Contents) :
    WriteRequest → Option ListenerEvent
  | .upsert request =>
      (documentStore.upsertDocument request contents).1.toOption.map
        (.afterUpsertDocument request)
  | .update request =>
      (documentStore.updateDocumentById request contents).1.toOption.map
        (.afterUpdateDocumentById request)
  | .delete request =>
      (documentStore.deleteDocumentById request contents).1.toOption.map
        (.afterDeleteDocumentById request)

/-- The state of a listener after the report of a write. -/
def Listener.told (listener : Listener State) (report : Option ListenerEvent) (state : State) :
    State :=
  match report with
  | none => state
  | some event => (listener.hear event state).2

theorem announced_told (hears : listener.HearsReports) {Result : Type} {before : ListenerEvent}
    (unreported : before.reports = false) {answer : Except Exception Result × Contents}
    {after : Result → ListenerEvent} {respond : Result → Except Exception FrontendResponse} :
    (announced (services.subscribe listener) before answer after respond contents
        (state, memory)).2.2.1 =
      match ((services.subscribe listener).answer (.publish before) (state, memory)).1 with
      | .ok _ => listener.told (answer.1.toOption.map after) state
      | .error _ => state := by
  have quiet := @subscribe_heard _ _ listener services state memory hears before unreported
  unfold announced
  cases heard : (services.subscribe listener).answer (.publish before) (state, memory) with
  | mk hearing world =>
      rw [heard] at quiet
      obtain ⟨following, later⟩ := world
      obtain rfl : following = state := quiet
      cases hearing with
      | error error => rfl
      | ok value =>
          obtain ⟨answered, left⟩ := answer
          cases answered with
          | error error => rfl
          | ok result =>
              dsimp only
              rw [subscribe_publish]
              cases (listener.hear (after result) following).1.bind fun _ =>
                  (services.answer (.publish (after result)) later).1 with
              | error error => rfl
              | ok value => rfl

/-- A listener is told of a write that has been announced. -/
theorem WriteRequest.outcome_told (hears : listener.HearsReports) (write : WriteRequest)
    (frontendRequest : FrontendRequest) :
    (write.outcome documentStore (services.subscribe listener) frontendRequest contents
        (state, memory)).2.2.1 =
      match ((services.subscribe listener).answer (.publish write.announcement)
          (state, memory)).1 with
      | .ok _ => listener.told (write.report documentStore contents) state
      | .error _ => state := by
  unfold WriteRequest.outcome
  cases write with
  | upsert request =>
      dsimp only [announcement, report]
      rw [announced_told hears rfl]
      cases ((services.subscribe listener).answer
        (.publish (.beforeUpsertDocument request)) (state, memory)).1 with
      | error error => rfl
      | ok value => rfl
  | update request =>
      dsimp only [announcement, report]
      rw [announced_told hears rfl]
      cases ((services.subscribe listener).answer
        (.publish (.beforeUpdateDocumentById request)) (state, memory)).1 with
      | error error => rfl
      | ok value => rfl
  | delete request =>
      dsimp only [announcement, report]
      rw [announced_told hears rfl]
      cases ((services.subscribe listener).answer
        (.publish (.beforeDeleteDocumentById request)) (state, memory)).1 with
      | error error => rfl
      | ok value => rfl

end Reports

section Turns
variable [NodeRuntime] [DocumentProcessing] {Generated Contents State Memory : Type}
  {documentStore : Generated → DocumentStore Contents} {listener : Listener State}
  {services : Services Memory}

/-- A query handler that neither calls the document store nor publishes an event. -/
def QueryHandlerPlugin.Silent (queryHandler : QueryHandlerPlugin) : Prop :=
  ∀ request, Program.Confined
    (fun call : Call => call.toDocumentStore = false ∧ call.publishes = false)
    (fun _ => True) (queryHandler.queryDocuments request)

/-- What a request leaves in the document store and with a listener. -/
inductive Turn.Tells (documentStore : Generated → DocumentStore Contents)
    (listener : Listener State) (services : Services Memory) (turn : Turn Generated)
    (world : Contents × (State × Memory)) : Contents → State → Prop where
  | found : Tells documentStore listener services turn world world.1 world.2.1
  | checked (validated : FrontendRequest) : Tells documentStore listener services turn world
      (guardAnswer (documentStore turn.generated) validated world.1).2 world.2.1
  | read (validated : FrontendRequest) (request : GetRequest) :
      Tells documentStore listener services turn world
        ((documentStore turn.generated).getDocumentById request
          (guardAnswer (documentStore turn.generated) validated world.1).2).2 world.2.1
  | written {checked : Contents} {write : WriteRequest}
      (makes : turn.Makes documentStore (services.subscribe listener) world checked write) :
      Tells documentStore listener services turn world
        (write.contents (documentStore turn.generated) checked)
        (listener.told (write.report (documentStore turn.generated) checked) world.2.1)

variable {contents : Contents} {state : State} {memory : Memory}

/-- A request that is not admitted goes no further than its identification. -/
theorem run_dismissed_world {queryHandler : QueryHandlerPlugin} {entryPoint : EntryPoint}
    {frontendRequest : FrontendRequest} {services : Services Memory}
    (store : DocumentStore Contents)
    (dismissed : ∀ validated following,
      ¬ entryPoint.Admits services frontendRequest memory validated following) :
    (store.run services (entryPoint.run queryHandler frontendRequest) (contents, memory)).2 =
      (contents, (Program.runState services.answer (entryPoint.identify
        ⟨{ frontendRequest with action := entryPoint.action }, none⟩) memory).2) := by
  rw [run_entryPoint, caught_world]
  cases outcome : Program.runState services.answer (entryPoint.identify
      ⟨{ frontendRequest with action := entryPoint.action }, none⟩) memory with
  | mk answered following =>
      cases answered with
      | error error => rfl
      | ok identified =>
          dsimp only
          cases valid : entryPoint.validate identified with
          | error error => rfl
          | ok model =>
              dsimp only
              obtain ⟨validated, posted⟩ := model
              cases posted with
              | some frontendResponse =>
                  rw [finish_posted]
                  rfl
              | none =>
                  obtain ⟨identified, answered⟩ := identified
                  cases answered with
                  | none => exact absurd ⟨identified, outcome, valid⟩ (dismissed validated following)
                  | some frontendResponse =>
                      rw [validate_posted] at valid
                      cases valid

theorem admits_state {entryPoint : EntryPoint} {frontendRequest validated : FrontendRequest}
    {following : State × Memory}
    (admitted : entryPoint.Admits (services.subscribe listener) frontendRequest (state, memory)
      validated following) : following.1 = state := by
  obtain ⟨identified, known, -⟩ := admitted
  have kept := @identify_state _ _ listener services state memory _ entryPoint
    ⟨{ frontendRequest with action := entryPoint.action }, none⟩
  unfold EntryPoint.Identified at known
  rwa [known] at kept

omit [DocumentProcessing] in
/-- A query tells a listener nothing. -/
theorem told_query (hears : listener.HearsReports) {queryHandler : QueryHandlerPlugin}
    (silent : queryHandler.Silent) (store : DocumentStore Contents)
    (frontendRequest : FrontendRequest) :
    (store.run (services.subscribe listener)
        (EntryPoint.query.handle queryHandler frontendRequest) (contents, (state, memory))).2.1 =
      contents ∧
    (store.run (services.subscribe listener)
        (EntryPoint.query.handle queryHandler frontendRequest)
        (contents, (state, memory))).2.2.1 = state := by
  let allowed : Call → Prop := fun call => call.toDocumentStore = false ∧
    ∀ event, call = .publish event → event.reports = false
  have publishes : ∀ event, event.reports = false →
      Program.Confined allowed (fun _ => True) (perform (.publish event)) := by
    intro event unreported
    apply confined_perform
    refine ⟨rfl, ?_⟩
    rintro _ ⟨⟩
    exact unreported
  have quiet : ∀ request, Program.Confined allowed (fun _ => True)
      (queryHandler.queryDocuments request) := by
    intro request
    apply Program.Within.allow (silent request)
    rintro call ⟨outside, unpublished⟩
    refine ⟨outside, ?_⟩
    rintro event rfl
    cases unpublished
  have confined : Program.Confined allowed (fun _ => True)
      (Query.query queryHandler frontendRequest) := by
    unfold Query.query
    apply Program.Confined.bind (publishes _ rfl)
    intro _ _
    apply Program.Confined.bind (quiet _)
    intro result _
    apply Program.Confined.bind (publishes _ rfl)
    intro _ _
    exact Program.confined_pure trivial
  refine @Program.Within.runState_state _ _ _ _ _ (serve store (services.subscribe listener))
    (contents, (state, memory)) _ _
    (fun following => following.1 = contents ∧ following.2.1 = state) _ confined ?_ ⟨rfl, rfl⟩
  rintro call ⟨following, ⟨told, later⟩⟩ ⟨outside, unreported⟩ ⟨rfl, rfl⟩
  cases call with
  | publish event => exact ⟨rfl, subscribe_heard hears (unreported event rfl)⟩
  | rejectByOwnershipSecurity | upsertDocument | updateDocumentById | deleteDocumentById
  | getDocumentById => cases outside
  | _ => exact ⟨rfl, rfl⟩

omit [DocumentProcessing] in
/-- A read tells a listener nothing. -/
theorem told_getById (hears : listener.HearsReports) {queryHandler : QueryHandlerPlugin}
    (store : DocumentStore Contents) (validated : FrontendRequest) :
    (store.run (services.subscribe listener) (EntryPoint.getById.handle queryHandler validated)
      (contents, (state, memory))).2.2.1 = state := by
  cases named : validated.middleware.pathComponents.documentUuid with
  | none =>
      unfold EntryPoint.handle GetById.getById
      dsimp only
      rw [named]
      rfl
  | some documentUuid =>
      rw [run_getById named, announced_told hears rfl]
      have silent (result : GetResult) : (listener.hear (.afterGetDocumentById
          (getRequestFrom validated documentUuid) result) state).2 = state := hears _ _ rfl
      cases ((services.subscribe listener).answer (.publish (.beforeGetDocumentById
          (getRequestFrom validated documentUuid))) (state, memory)).1 with
      | error error => rfl
      | ok value =>
          dsimp only
          cases (store.getDocumentById (getRequestFrom validated documentUuid) contents).1 with
          | error error => rfl
          | ok result => exact silent result

omit [DocumentProcessing] in
/-- A listener is told of the write that the handler makes. -/
theorem told_handle (hears : listener.HearsReports) {queryHandler : QueryHandlerPlugin}
    {entryPoint : EntryPoint} (writes : entryPoint.writes = true) (store : DocumentStore Contents)
    (validated : FrontendRequest) :
    ((store.run (services.subscribe listener) (entryPoint.handle queryHandler validated)
        (contents, (state, memory))).2.1 = contents ∧
      (store.run (services.subscribe listener) (entryPoint.handle queryHandler validated)
        (contents, (state, memory))).2.2.1 = state) ∨
    ∃ write, plannedWrite entryPoint validated = some write ∧
      ((services.subscribe listener).answer (.publish write.announcement) (state, memory)).1 =
        .ok () ∧
      (store.run (services.subscribe listener) (entryPoint.handle queryHandler validated)
        (contents, (state, memory))).2.1 = write.contents store contents ∧
      (store.run (services.subscribe listener) (entryPoint.handle queryHandler validated)
        (contents, (state, memory))).2.2.1 = listener.told (write.report store contents) state := by
  cases planned : plannedWrite entryPoint validated with
  | none =>
      left
      rw [run_unplanned writes planned]
      exact ⟨rfl, rfl⟩
  | some write =>
      rw [run_planned planned, caught_world, write.outcome_contents,
        write.outcome_told hears validated]
      cases heard : ((services.subscribe listener).answer (.publish write.announcement)
          (state, memory)).1 with
      | error error => exact .inl ⟨rfl, rfl⟩
      | ok value => exact .inr ⟨write, rfl, heard, rfl, rfl⟩

/-- A request can leave nothing else, in the document store and with a listener. -/
theorem turn_tells (hears : listener.HearsReports) {turn : Turn Generated}
    (silent : turn.entryPoint = .query → turn.queryHandler.Silent)
    (world : Contents × (State × Memory)) :
    turn.Tells documentStore listener services world
      (turn.take documentStore (services.subscribe listener) world).1
      (turn.take documentStore (services.subscribe listener) world).2.1 := by
  obtain ⟨contents, state, memory⟩ := world
  unfold Turn.take
  by_cases admits : ∃ validated following, turn.entryPoint.Admits (services.subscribe listener)
      turn.frontendRequest (state, memory) validated following
  · obtain ⟨validated, ⟨told, following⟩, admitted⟩ := admits
    obtain rfl : told = state := admits_state admitted
    rw [run_admitted admitted, caught_world]
    by_cases query : turn.entryPoint = .query
    · have handled := @told_query _ _ _ _ listener services contents told following hears
        turn.queryHandler (silent query) (documentStore turn.generated) validated
      have finished : (documentStore turn.generated).run (services.subscribe listener)
          (turn.entryPoint.finish turn.queryHandler ⟨validated, none⟩)
          (contents, (told, following)) =
        (documentStore turn.generated).run (services.subscribe listener)
          (EntryPoint.query.handle turn.queryHandler validated) (contents, (told, following)) := by
        rw [query]
        rfl
      rw [finished, handled.1, handled.2]
      exact .found
    · rw [run_finish query]
      have rejected : Turn.Tells documentStore listener services turn
          (contents, (told, memory))
          (guardAnswer (documentStore turn.generated) validated contents).2 told :=
        .checked validated
      have read (request : GetRequest) : Turn.Tells documentStore listener services turn
          (contents, (told, memory))
          ((documentStore turn.generated).getDocumentById request
            (guardAnswer (documentStore turn.generated) validated contents).2).2 told :=
        .read validated request
      cases answered : guardAnswer (documentStore turn.generated) validated contents with
      | mk answer checked =>
          rw [answered] at rejected read
          cases answer with
          | error error => exact rejected
          | ok result =>
              dsimp only
              cases permits : result.permits with
              | false => exact rejected
              | true =>
                  rw [if_pos rfl]
                  by_cases writes : turn.entryPoint.writes = true
                  · rcases @told_handle _ _ _ _ listener services checked told following hears
                      turn.queryHandler turn.entryPoint writes (documentStore turn.generated)
                      validated with ⟨kept, quiet⟩ | ⟨write, planned, heard, made, heardOf⟩
                    · rw [kept, quiet]
                      exact rejected
                    · rw [made, heardOf]
                      exact .written ⟨validated, result, ⟨_, admitted, planned, heard⟩, answered,
                        permits⟩
                  · have reads : turn.entryPoint = .getById := by
                      cases same : turn.entryPoint <;> simp_all [EntryPoint.writes]
                    rw [reads, told_getById hears]
                    rcases contents_getById (documentStore turn.generated) validated checked
                        (told, following) with kept | ⟨request, made⟩
                    · rw [kept]
                      exact rejected
                    · rw [made]
                      exact read request
  · rw [run_dismissed_world _ fun validated following admitted =>
      admits ⟨validated, following, admitted⟩]
    dsimp only
    rw [identify_state]
    exact .found

/-- The requests of a run with a listener, where only permitted writes are made. -/
structure Permits (documentStore : Generated → DocumentStore Contents) (services : Services Memory)
    (permitted : Generated → Contents → WriteRequest → Prop) (world : Contents × Memory)
    (turn : Turn Generated) : Prop where
  silent : turn.entryPoint = .query → turn.queryHandler.Silent
  writes : ∀ checked write, turn.Makes documentStore services world checked write →
    permitted turn.generated checked write

/-- What holds of the contents and of the state of a listener, whatever a request does. -/
structure KeptByRequests (documentStore : Generated → DocumentStore Contents)
    (listener : Listener State) (permitted : Generated → Contents → State → WriteRequest → Prop)
    (holds : Contents → State → Prop) : Prop where
  checked {contents : Contents} {state : State} (generated : Generated)
      (validated : FrontendRequest) : holds contents state →
    holds (guardAnswer (documentStore generated) validated contents).2 state
  read {contents : Contents} {state : State} (generated : Generated) (request : GetRequest) :
    holds contents state → holds ((documentStore generated).getDocumentById request contents).2 state
  written {contents : Contents} {state : State} {generated : Generated} {write : WriteRequest} :
    holds contents state → permitted generated contents state write →
      holds (write.contents (documentStore generated) contents)
        (listener.told (write.report (documentStore generated) contents) state)

/-- What every permitted request keeps holds along every run of permitted requests. -/
theorem KeptByRequests.served {permitted : Generated → Contents → State → WriteRequest → Prop}
    {holds : Contents → State → Prop}
    (kept : KeptByRequests documentStore listener permitted holds) (hears : listener.HearsReports)
    {start : List Generated × (Contents × (State × Memory))} {used : List Generated}
    {world : Contents × (State × Memory)}
    (served : Served documentStore (services.subscribe listener)
      (fun _ world turn => Permits documentStore (services.subscribe listener)
        (fun generated contents write => permitted generated contents world.2.1 write) world turn)
      start used world)
    (begun : holds start.2.1 start.2.2.1) : holds world.1 world.2.1 := by
  induction served with
  | start => exact begun
  | @turn used world turn _ permits ih =>
      have tells := @turn_tells _ _ _ _ _ _ documentStore listener services hears turn permits.silent
        world
      generalize (turn.take documentStore (services.subscribe listener) world).1 = contents at tells
      generalize (turn.take documentStore (services.subscribe listener) world).2.1 = state at tells
      cases tells with
      | found => exact ih
      | checked validated => exact kept.checked _ validated ih
      | read validated request => exact kept.read _ request (kept.checked _ validated ih)
      | @written checked write makes =>
          have permission := permits.writes checked write makes
          obtain ⟨validated, result, -, answered, -⟩ := makes
          have held := kept.checked turn.generated validated ih
          rw [answered] at held
          exact kept.written held permission

omit [NodeRuntime] [DocumentProcessing] in
theorem Listener.told_and {Other : Type} {second : Listener Other} (report : Option ListenerEvent)
    (state : State × Other) :
    (listener.and second).told report state =
      (listener.told report state.1, second.told report state.2) := by
  cases report <;> rfl

omit [NodeRuntime] [DocumentProcessing] in
/-- A second listener keeps up with what the first one is told. -/
theorem KeptByRequests.and {Other : Type} {second : Listener Other}
    {permitted : Generated → Contents → State → WriteRequest → Prop}
    {holds : Contents → State → Prop} {tracks : State → Other → Prop}
    {tells : State → Option ListenerEvent → Prop}
    (kept : KeptByRequests documentStore listener permitted holds)
    (follows : ∀ report state other, tracks state other → tells state report →
      tracks (listener.told report state) (second.told report other)) :
    KeptByRequests documentStore (listener.and second)
      (fun generated contents state write => permitted generated contents state.1 write ∧
        tells state.1 (write.report (documentStore generated) contents))
      (fun contents state => holds contents state.1 ∧ tracks state.1 state.2) where
  checked generated validated held := ⟨kept.checked generated validated held.1, held.2⟩
  read generated request held := ⟨kept.read generated request held.1, held.2⟩
  written held allowed := by
    rw [Listener.told_and]
    exact ⟨kept.written held.1 allowed.1, follows _ _ _ held.2 allowed.2⟩

end Turns
end Meadowlark.Core
