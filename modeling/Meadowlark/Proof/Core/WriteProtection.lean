import Meadowlark.Proof.Core.Confinement
import Meadowlark.Proof.Core.Statuses

namespace Meadowlark.Core
open Systems
variable [NodeRuntime] [DocumentProcessing]

section Protection
variable {Generated Contents Memory : Type} {documentStore : Generated → DocumentStore Contents}
  {services : Services Memory} {turn : Turn Generated} {world : Contents × Memory}
  {clientId : String}

/-- The request is admitted for this client only, who works under the ownership strategy. -/
def Turn.ServesOwner (services : Services Memory) (turn : Turn Generated) (memory : Memory)
    (clientId : String) : Prop :=
  ∀ validated following,
    turn.entryPoint.Admits services turn.frontendRequest memory validated following →
      validated.middleware.security = ⟨.ownershipBased, clientId⟩

/-- The guard lets the validated request pass on to its write. -/
structure Turn.Reaches (documentStore : Generated → DocumentStore Contents)
    (services : Services Memory) (turn : Turn Generated) (world : Contents × Memory)
    (validated : FrontendRequest) (checked : Contents) (write : WriteRequest) : Prop where
  requested : turn.entryPoint.Requests services turn.frontendRequest world.2 validated write
  permitted : ∃ result, guardAnswer (documentStore turn.generated) validated world.1 =
    (.ok result, checked) ∧ result.permits = true

/-- The request makes a write that takes a document from another client.
A POST can do so only when its path names a uuid, which is checked in place of its body. -/
def Turn.Intrudes (documentStore : Generated → DocumentStore Contents) (services : Services Memory)
    (turn : Turn Generated) (world : Contents × Memory) (takes : WriteRequest → Prop) : Prop :=
  ∃ validated checked write,
    turn.Reaches documentStore services world validated checked write ∧
    (turn.entryPoint = .upsert →
      validated.middleware.pathComponents.documentUuid.isSome = true) ∧
    takes write

theorem Turn.Reaches.makes {validated : FrontendRequest} {checked : Contents}
    {write : WriteRequest}
    (reaches : turn.Reaches documentStore services world validated checked write) :
    turn.Makes documentStore services world checked write := by
  obtain ⟨result, answered, permits⟩ := reaches.permitted
  exact ⟨validated, result, reaches.requested, answered, permits⟩

/-- A request comes to one write at most. -/
theorem Turn.Reaches.unique {first second : FrontendRequest} {checked other : Contents}
    {write another : WriteRequest}
    (reaches : turn.Reaches documentStore services world first checked write)
    (again : turn.Reaches documentStore services world second other another) :
    first = second ∧ write = another := by
  obtain ⟨following, admitted, planned, -⟩ := reaches.requested
  obtain ⟨last, admittedAgain, plannedAgain, -⟩ := again.requested
  obtain ⟨rfl, -⟩ := admitted.unique admittedAgain
  exact ⟨rfl, Option.some.inj (planned.symm.trans plannedAgain)⟩

/-- The request of a write still asks for its own action when it is planned. -/
theorem EntryPoint.Admits.action {entryPoint : EntryPoint}
    {frontendRequest validated : FrontendRequest} {memory following : Memory}
    (admitted : entryPoint.Admits services frontendRequest memory validated following) :
    validated.action = entryPoint.action := by
  obtain ⟨identified, known, valid⟩ := admitted
  exact (EntryPoint.validate_sameClient valid).action.trans known.sameAction.action

omit [DocumentProcessing] in
theorem plannedWrite_upsert {entryPoint : EntryPoint} {validated : FrontendRequest}
    {request : UpsertRequest} (planned : plannedWrite entryPoint validated = some (.upsert request)) :
    entryPoint = .upsert ∧ upsertRequestFrom validated = request := by
  cases entryPoint with
  | upsert =>
      cases planned
      exact ⟨rfl, rfl⟩
  | query => cases planned
  | getById => cases planned
  | _ =>
      unfold plannedWrite at planned
      dsimp only at planned
      split at planned
      · cases planned
      · first
          | cases planned
          | split at planned <;> cases planned

omit [DocumentProcessing] in
/-- A write for a uuid is planned for the uuid of the path. -/
theorem plannedWrite_path {entryPoint : EntryPoint} {validated : FrontendRequest}
    {write : WriteRequest} {documentUuid : DocumentUuid}
    (planned : plannedWrite entryPoint validated = some write)
    (named : write.named = some documentUuid) :
    entryPoint ≠ .upsert ∧
      validated.middleware.pathComponents.documentUuid = some documentUuid := by
  have posted : entryPoint ≠ .upsert := by
    rintro rfl
    cases planned
    cases named
  have addressed : entryPoint.addressed = true := by
    have writes := plannedWrite_writes planned
    cases entryPoint <;> simp_all [EntryPoint.addressed, EntryPoint.writes]
  obtain ⟨other, path, same⟩ := plannedWrite_named addressed planned
  refine ⟨posted, path.trans ?_⟩
  rw [← same, named]

/-- A write that the guard lets pass decides what the request leaves. -/
theorem Turn.Reaches.taken {validated : FrontendRequest} {checked : Contents}
    {write : WriteRequest}
    (reaches : turn.Reaches documentStore services world validated checked write) :
    (turn.take documentStore services world).1 =
      write.contents (documentStore turn.generated) checked := by
  obtain ⟨contents, memory⟩ := world
  have writes := reaches.makes.writes
  obtain ⟨⟨following, admitted, planned, heard⟩, result, answered, permits⟩ := reaches
  have guards : turn.entryPoint ≠ .query := by
    intro query
    rw [query] at writes
    cases writes
  unfold Turn.take
  rw [run_admitted admitted, caught_world, run_finish guards, answered]
  dsimp only
  rw [if_pos permits, contents_handle writes, planned]
  unfold contentsAfter
  dsimp only
  rw [heard]

/-- A request spares what its parts spare, and its write decides when it makes one. -/
theorem turn_spares_iff {spares : Contents → Prop} {takes : WriteRequest → Prop}
    (quiet : turn.entryPoint = .query → turn.queryHandler.Quiet) (found : spares world.1)
    (checked : ∀ validated,
      spares (guardAnswer (documentStore turn.generated) validated world.1).2)
    (read : ∀ validated request, spares ((documentStore turn.generated).getDocumentById request
      (guardAnswer (documentStore turn.generated) validated world.1).2).2)
    (written : ∀ validated checked write,
      turn.Reaches documentStore services world validated checked write →
        (spares (write.contents (documentStore turn.generated) checked) ↔
          ¬ ((turn.entryPoint = .upsert →
            validated.middleware.pathComponents.documentUuid.isSome = true) ∧ takes write))) :
    spares (turn.take documentStore services world).1 ↔
      ¬ turn.Intrudes documentStore services world takes := by
  by_cases reached : ∃ validated checked write,
      turn.Reaches documentStore services world validated checked write
  · obtain ⟨validated, checked, write, reaches⟩ := reached
    rw [reaches.taken, written validated checked write reaches, not_iff_not]
    constructor
    · exact fun intrudes => ⟨validated, checked, write, reaches, intrudes⟩
    · rintro ⟨other, otherChecked, another, again, intrudes⟩
      obtain ⟨rfl, rfl⟩ := reaches.unique again
      exact intrudes
  · refine iff_of_true ?_ ?_
    · have leaves := @turn_leaves _ _ _ _ _ documentStore services turn quiet world
      generalize (turn.take documentStore services world).1 = left at leaves
      cases leaves with
      | found => exact found
      | checked validated => exact checked validated
      | read validated request => exact read validated request
      | written makes =>
          obtain ⟨validated, result, requested, answered, permits⟩ := makes
          exact absurd ⟨validated, _, _, requested, result, answered, permits⟩ reached
    · rintro ⟨validated, checked, write, reaches, -⟩
      exact reached ⟨validated, checked, write, reaches⟩

/-- What holds of the contents holds after a request whose parts keep it. -/
theorem turn_keeps {holds : Contents → Prop}
    (quiet : turn.entryPoint = .query → turn.queryHandler.Quiet) (found : holds world.1)
    (checked : ∀ validated, holds (guardAnswer (documentStore turn.generated) validated world.1).2)
    (read : ∀ validated request, holds ((documentStore turn.generated).getDocumentById request
      (guardAnswer (documentStore turn.generated) validated world.1).2).2)
    (written : ∀ checked write, turn.Makes documentStore services world checked write →
      holds (write.contents (documentStore turn.generated) checked)) :
    holds (turn.take documentStore services world).1 := by
  have leaves := @turn_leaves _ _ _ _ _ documentStore services turn quiet world
  generalize (turn.take documentStore services world).1 = left at leaves
  cases leaves with
  | found => exact found
  | checked validated => exact checked validated
  | read validated request => exact read validated request
  | written makes => exact written _ _ makes

/-- A request of another client, which does not intrude and whose write fits the backend. -/
structure Turn.Stays (documentStore : Generated → DocumentStore Contents)
    (services : Services Memory) (takes : String → Contents → WriteRequest → Prop)
    (fits : Generated → Contents → WriteRequest → Prop) (owner : String)
    (world : Contents × Memory) (turn : Turn Generated) : Prop where
  quiet : turn.entryPoint = .query → turn.queryHandler.Quiet
  stranger : ∃ clientId ≠ owner, turn.ServesOwner services world.2 clientId ∧
    ¬ turn.Intrudes documentStore services world (takes clientId world.1)
  fits : ∀ checked write, turn.Makes documentStore services world checked write →
    fits turn.generated checked write

/-- A request of any client whose write fits the backend. -/
structure Turn.Fits (documentStore : Generated → DocumentStore Contents)
    (services : Services Memory) (fits : Generated → Contents → WriteRequest → Prop)
    (world : Contents × Memory) (turn : Turn Generated) : Prop where
  quiet : turn.entryPoint = .query → turn.queryHandler.Quiet
  fits : ∀ checked write, turn.Makes documentStore services world checked write →
    fits turn.generated checked write

/-- What each request keeps is kept along a run. -/
theorem Served.keeps {allowed : List Generated → Contents × Memory → Turn Generated → Prop}
    {start : List Generated × (Contents × Memory)} {used : List Generated} {holds : Contents → Prop}
    (served : Served documentStore services allowed start used world)
    (step : ∀ used world turn, allowed used world turn → holds world.1 →
      holds (turn.take documentStore services world).1)
    (begun : holds start.2.1) : holds world.1 := by
  induction served with
  | start => exact begun
  | turn _ permitted ih => exact step _ _ _ permitted ih

end Protection
end Meadowlark.Core
