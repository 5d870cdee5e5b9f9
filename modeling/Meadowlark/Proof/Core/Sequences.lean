import Meadowlark.Proof.Core.Requests

namespace Meadowlark.Core
open Systems
variable [NodeRuntime] [DocumentProcessing]

/-- One request, with what an insert would generate for it. -/
structure Turn (Generated : Type) where
  generated : Generated
  queryHandler : QueryHandlerPlugin
  entryPoint : EntryPoint
  frontendRequest : FrontendRequest

section Sequences
variable {Generated Contents Memory : Type} {documentStore : Generated → DocumentStore Contents}
  {services : Services Memory}

/-- The contents and the services after one request. -/
def Turn.take (documentStore : Generated → DocumentStore Contents) (services : Services Memory)
    (turn : Turn Generated) (world : Contents × Memory) : Contents × Memory :=
  ((documentStore turn.generated).run services
    (turn.entryPoint.run turn.queryHandler turn.frontendRequest) world).2

/-- Requests are served one after another, and what has been generated is kept in mind. -/
inductive Served (documentStore : Generated → DocumentStore Contents) (services : Services Memory)
    (allowed : List Generated → Contents × Memory → Turn Generated → Prop)
    (start : List Generated × (Contents × Memory)) :
    List Generated → Contents × Memory → Prop where
  | start : Served documentStore services allowed start start.1 start.2
  | turn {used : List Generated} {world : Contents × Memory} {turn : Turn Generated}
      (served : Served documentStore services allowed start used world)
      (permitted : allowed used world turn) :
      Served documentStore services allowed start (turn.generated :: used)
        (turn.take documentStore services world)

/-- The query handler does not call the document store. -/
def QueryHandlerPlugin.Quiet (queryHandler : QueryHandlerPlugin) : Prop :=
  ∀ request, Program.Confined (fun call : Call => call.toDocumentStore = false)
    (fun _ => True) (queryHandler.queryDocuments request)

/-- The request comes to the write, and the guard lets it pass with these contents. -/
def Turn.Makes (documentStore : Generated → DocumentStore Contents) (services : Services Memory)
    (turn : Turn Generated) (world : Contents × Memory) (checked : Contents)
    (write : WriteRequest) : Prop :=
  ∃ validated result,
    turn.entryPoint.Requests services turn.frontendRequest world.2 validated write ∧
    guardAnswer (documentStore turn.generated) validated world.1 = (.ok result, checked) ∧
    result.permits = true

omit [DocumentProcessing] in
/-- A query leaves the contents alone. -/
theorem contents_query {queryHandler : QueryHandlerPlugin} (quiet : queryHandler.Quiet)
    (store : DocumentStore Contents) (frontendRequest : FrontendRequest) (world : Contents × Memory) :
    (store.run services (EntryPoint.query.handle queryHandler frontendRequest) world).2.1 =
      world.1 := by
  have publishes : ∀ event, Program.Confined (fun call : Call => call.toDocumentStore = false)
      (fun _ => True) (perform (.publish event)) := fun event => confined_perform rfl
  have confined : Program.Confined (fun call : Call => call.toDocumentStore = false)
      (fun _ => True) (Query.query queryHandler frontendRequest) := by
    unfold Query.query
    apply Program.Confined.bind (publishes _)
    intro _ _
    apply Program.Confined.bind (quiet _)
    intro result _
    apply Program.Confined.bind (publishes _)
    intro _ _
    exact Program.confined_pure trivial
  refine @Program.Within.runState_state _ _ _ _ _ (serve store services) world _ _
    (fun following => following.1 = world.1) _ confined ?_ rfl
  intro call following outside same
  cases call <;> first | exact same | cases outside

/-- The contents that a request can leave. -/
inductive Turn.Leaves (documentStore : Generated → DocumentStore Contents)
    (services : Services Memory) (turn : Turn Generated) (world : Contents × Memory) :
    Contents → Prop where
  | found : Leaves documentStore services turn world world.1
  | checked (validated : FrontendRequest) : Leaves documentStore services turn world
      (guardAnswer (documentStore turn.generated) validated world.1).2
  | read (validated : FrontendRequest) (request : GetRequest) :
      Leaves documentStore services turn world
        ((documentStore turn.generated).getDocumentById request
          (guardAnswer (documentStore turn.generated) validated world.1).2).2
  | written {checked : Contents} {write : WriteRequest}
      (makes : turn.Makes documentStore services world checked write) :
      Leaves documentStore services turn world
        (write.contents (documentStore turn.generated) checked)

omit [DocumentProcessing] in
theorem contents_getById {queryHandler : QueryHandlerPlugin} (store : DocumentStore Contents)
    (validated : FrontendRequest) (contents : Contents) (memory : Memory) :
    (store.run services (EntryPoint.getById.handle queryHandler validated)
        (contents, memory)).2.1 = contents ∨
      ∃ request, (store.run services (EntryPoint.getById.handle queryHandler validated)
        (contents, memory)).2.1 = (store.getDocumentById request contents).2 := by
  cases named : validated.middleware.pathComponents.documentUuid with
  | none =>
      left
      unfold EntryPoint.handle GetById.getById
      dsimp only
      rw [named]
      rfl
  | some documentUuid =>
      rw [run_getById named, announced_contents]
      split
      · exact .inr ⟨_, rfl⟩
      · exact .inl rfl

/-- A request can leave nothing else. -/
theorem turn_leaves {turn : Turn Generated}
    (quiet : turn.entryPoint = .query → turn.queryHandler.Quiet) (world : Contents × Memory) :
    turn.Leaves documentStore services world (turn.take documentStore services world).1 := by
  obtain ⟨contents, memory⟩ := world
  unfold Turn.take
  by_cases admits : ∃ validated following,
      turn.entryPoint.Admits services turn.frontendRequest memory validated following
  · obtain ⟨validated, following, admitted⟩ := admits
    rw [run_admitted admitted, caught_world]
    by_cases query : turn.entryPoint = .query
    · have handled : ((documentStore turn.generated).run services (turn.entryPoint.finish
          turn.queryHandler ⟨validated, none⟩) (contents, following)).2.1 = contents := by
        rw [query]
        exact contents_query (quiet query) _ validated (contents, following)
      rw [handled]
      exact .found
    · rw [run_finish query]
      have rejected : Turn.Leaves documentStore services turn (contents, memory)
          (guardAnswer (documentStore turn.generated) validated contents).2 := .checked validated
      have read (request : GetRequest) : Turn.Leaves documentStore services turn (contents, memory)
          ((documentStore turn.generated).getDocumentById request
            (guardAnswer (documentStore turn.generated) validated contents).2).2 :=
        .read validated request
      cases answered : guardAnswer (documentStore turn.generated) validated contents with
      | mk answer checked =>
          rw [answered] at rejected read
          cases answer with
          | error error => exact rejected
          | ok result =>
              dsimp only
              split
              · rename_i permits
                by_cases writes : turn.entryPoint.writes = true
                · rw [contents_handle writes]
                  rcases @contentsAfter_cases _ _ (documentStore turn.generated) services checked
                      following (plannedWrite turn.entryPoint validated) with
                    kept | ⟨write, planned, heard, made⟩
                  · rw [kept]
                    exact rejected
                  · rw [made]
                    exact .written ⟨validated, result, ⟨following, admitted, planned, heard⟩,
                      answered, permits⟩
                · have reads : turn.entryPoint = .getById := by
                    cases same : turn.entryPoint <;> simp_all [EntryPoint.writes]
                  rw [reads]
                  rcases contents_getById (documentStore turn.generated) validated checked
                      following with kept | ⟨request, made⟩
                  · rw [kept]
                    exact rejected
                  · rw [made]
                    exact read request
              · exact rejected
  · obtain ⟨frontendResponse, following, -, done⟩ := @run_dismissed _ _ services memory
      turn.entryPoint turn.frontendRequest _ turn.queryHandler
      fun validated following admitted => admits ⟨validated, following, admitted⟩
    rw [done]
    exact .found

end Sequences

section Tags
variable {Generated Contents Memory Key Tag : Type}
  {documentStore : Generated → DocumentStore Contents} {services : Services Memory}
  {allowed : List Generated → Contents × Memory → Turn Generated → Prop}
  {holds : Contents → Prop} {tagged : Contents → Key → Tag → Prop}
  {claims : Generated → Key → Prop}

/-- A request tags at most one key anew. It has generated the key, which is fresh. -/
structure TagsFresh (documentStore : Generated → DocumentStore Contents)
    (services : Services Memory)
    (allowed : List Generated → Contents × Memory → Turn Generated → Prop)
    (holds : Contents → Prop) (tagged : Contents → Key → Tag → Prop)
    (claims : Generated → Key → Prop) : Prop where
  keeps {used : List Generated} {world : Contents × Memory} {turn : Turn Generated} :
    holds world.1 → allowed used world turn → holds (turn.take documentStore services world).1
  origin {used : List Generated} {world : Contents × Memory} {turn : Turn Generated} :
    holds world.1 → allowed used world turn → ∃ newTag, ∀ key tag,
      tagged (turn.take documentStore services world).1 key tag →
        tagged world.1 key tag ∨ ((key, tag) = newTag ∧ claims turn.generated key)
  fresh {used : List Generated} {world : Contents × Memory} {turn : Turn Generated} {key : Key}
    {earlier : Generated} : allowed used world turn → claims turn.generated key →
      earlier ∈ used → ¬ claims earlier key

/-- Every tagged key has been generated before, and it has one tag. -/
structure Tagging (holds : Contents → Prop) (tagged : Contents → Key → Tag → Prop)
    (claims : Generated → Key → Prop) (used : List Generated) (contents : Contents) : Prop where
  holds : holds contents
  generated {key : Key} {tag : Tag} : tagged contents key tag →
    ∃ earlier ∈ used, claims earlier key
  functional {key : Key} {tag other : Tag} : tagged contents key tag →
    tagged contents key other → other = tag

/-- Along a run every key is generated before it is tagged. -/
theorem TagsFresh.tagging {start : List Generated × (Contents × Memory)} {used : List Generated}
    {world : Contents × Memory}
    (tags : TagsFresh documentStore services allowed holds tagged claims)
    (begun : Tagging holds tagged claims start.1 start.2.1)
    (served : Served documentStore services allowed start used world) :
    Tagging holds tagged claims used world.1 := by
  induction served with
  | start => exact begun
  | @turn used world turn served permitted ih =>
      obtain ⟨newTag, origin⟩ := tags.origin ih.holds permitted
      have apart : ∀ {key : Key} {tag : Tag}, tagged world.1 key tag →
          ¬ claims turn.generated key := by
        intro key tag old new
        obtain ⟨earlier, inside, claimed⟩ := ih.generated old
        exact tags.fresh permitted new inside claimed
      refine ⟨tags.keeps ih.holds permitted, ?_, ?_⟩
      · intro key tag present
        rcases origin key tag present with old | ⟨-, new⟩
        · obtain ⟨earlier, inside, claimed⟩ := ih.generated old
          exact ⟨earlier, List.mem_cons_of_mem _ inside, claimed⟩
        · exact ⟨_, List.mem_cons_self, new⟩
      · intro key tag other present otherPresent
        rcases origin key tag present with old | ⟨same, new⟩
        · rcases origin key other otherPresent with otherOld | ⟨-, otherNew⟩
          · exact ih.functional old otherOld
          · exact absurd otherNew (apart old)
        · rcases origin key other otherPresent with otherOld | ⟨otherSame, -⟩
          · exact absurd new (apart otherOld)
          · exact congrArg Prod.snd (otherSame.trans same.symm)

/-- A key that stays tagged or is tagged again along a run keeps its tag. -/
theorem TagsFresh.stable {start : List Generated × (Contents × Memory)} {used : List Generated}
    {world : Contents × Memory}
    (tags : TagsFresh documentStore services allowed holds tagged claims)
    (begun : Tagging holds tagged claims start.1 start.2.1)
    (served : Served documentStore services allowed start used world) {key : Key} {tag other : Tag}
    (before : tagged start.2.1 key tag) (after : tagged world.1 key other) : other = tag := by
  have kept : (∀ earlier ∈ start.1, earlier ∈ used) ∧
      ∀ other, tagged world.1 key other → other = tag := by
    clear after
    induction served with
    | start => exact ⟨fun _ inside => inside, fun other after => begun.functional before after⟩
    | turn served permitted ih =>
        refine ⟨fun earlier inside => List.mem_cons_of_mem _ (ih.1 earlier inside), ?_⟩
        intro other after
        obtain ⟨newTag, origin⟩ := tags.origin (tags.tagging begun served).holds permitted
        rcases origin key other after with old | ⟨-, new⟩
        · exact ih.2 other old
        · obtain ⟨earlier, inside, claimed⟩ := begun.generated before
          exact absurd claimed (tags.fresh permitted new (ih.1 earlier inside))
  exact kept.2 other after

end Tags
end Meadowlark.Core
