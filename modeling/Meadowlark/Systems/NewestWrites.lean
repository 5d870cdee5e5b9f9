import Mathlib.Data.List.Nodup
import Mathlib.Order.Lattice

namespace Meadowlark.Systems
variable {State Request Answer Time : Type} [LinearOrder Time]

/-- The state after requests that run one after another. -/
def runAll (step : Request → State → Answer × State) (requests : List Request) (state : State) :
    State :=
  requests.foldl (fun state request => (step request state).2) state

/-- The newest write of the state is not older than this time. -/
def Overtaken (newest : State → Option Time) (state : State) (time : Time) : Prop :=
  ∃ latest ∈ newest state, time ≤ latest

/-- A request that is newer than every write is written, and every other one is refused. -/
structure KeepsNewest (step : Request → State → Answer × State) (time : Request → Time)
    (newest : State → Option Time) (allowed : Request → Prop) (holds : State → Prop)
    (shows : Request → State → Prop) (accepts conflicts : Answer → Prop) : Prop where
  written {request : Request} {state : State} : allowed request → holds state →
    ¬ Overtaken newest state (time request) →
      accepts (step request state).1 ∧ holds (step request state).2 ∧
        newest (step request state).2 = some (time request) ∧ shows request (step request state).2
  refused {request : Request} {state : State} : allowed request → holds state →
    Overtaken newest state (time request) →
      conflicts (step request state).1 ∧ (step request state).2 = state

section Rules
variable {step : Request → State → Answer × State} {time : Request → Time}
  {newest : State → Option Time} {allowed : Request → Prop} {holds : State → Prop}
  {shows : Request → State → Prop} {accepts conflicts : Answer → Prop} {state : State}
  {request : Request}

@[simp] theorem runAll_nil : runAll step [] state = state := rfl

@[simp] theorem runAll_cons (rest : List Request) :
    runAll step (request :: rest) state = runAll step rest (step request state).2 := rfl

/-- After a request the newest write is the request or it was newer before. -/
theorem KeepsNewest.overtaken_step
    (keeps : KeepsNewest step time newest allowed holds shows accepts conflicts)
    (permitted : allowed request) (held : holds state) (moment : Time) :
    Overtaken newest (step request state).2 moment ↔
      Overtaken newest state moment ∨ moment ≤ time request := by
  by_cases overtaken : Overtaken newest state (time request)
  · rw [(keeps.refused permitted held overtaken).2]
    constructor
    · exact Or.inl
    · rintro (before | older)
      · exact before
      · obtain ⟨latest, stored, newer⟩ := overtaken
        exact ⟨latest, stored, older.trans newer⟩
  · obtain ⟨-, -, stamped, -⟩ := keeps.written permitted held overtaken
    constructor
    · rintro ⟨latest, stored, older⟩
      rw [stamped] at stored
      obtain rfl : time request = latest := Option.some.inj stored
      exact .inr older
    · rintro (⟨latest, stored, older⟩ | older)
      · refine ⟨time request, stamped, older.trans ?_⟩
        exact le_of_not_ge fun newer => overtaken ⟨latest, stored, newer⟩
      · exact ⟨time request, stamped, older⟩

theorem KeepsNewest.holds_step
    (keeps : KeepsNewest step time newest allowed holds shows accepts conflicts)
    (permitted : allowed request) (held : holds state) : holds (step request state).2 := by
  by_cases overtaken : Overtaken newest state (time request)
  · rw [(keeps.refused permitted held overtaken).2]
    exact held
  · exact (keeps.written permitted held overtaken).2.1

/-- After a run the newest write is that of the start or that of a request. -/
theorem KeepsNewest.overtaken_run
    (keeps : KeepsNewest step time newest allowed holds shows accepts conflicts)
    {requests : List Request} (permitted : ∀ request ∈ requests, allowed request)
    (held : holds state) :
    holds (runAll step requests state) ∧
      ∀ moment, Overtaken newest (runAll step requests state) moment ↔
        Overtaken newest state moment ∨ ∃ request ∈ requests, moment ≤ time request := by
  induction requests generalizing state with
  | nil => exact ⟨held, fun moment => by simp⟩
  | cons request rest ih =>
      rw [List.forall_mem_cons] at permitted
      obtain ⟨heldAfter, overtaken⟩ := ih permitted.2 (keeps.holds_step permitted.1 held)
      refine ⟨heldAfter, fun moment => ?_⟩
      rw [runAll_cons, overtaken, keeps.overtaken_step permitted.1 held, or_assoc,
        List.exists_mem_cons_iff]

/-- A run ends in its start state when every request is too old.
Otherwise it shows a request that no other one is newer than. -/
theorem KeepsNewest.run_shows
    (keeps : KeepsNewest step time newest allowed holds shows accepts conflicts)
    {requests : List Request} (permitted : ∀ request ∈ requests, allowed request)
    (held : holds state) :
    (runAll step requests state = state ∧
        ∀ request ∈ requests, Overtaken newest state (time request)) ∨
      ∃ request ∈ requests, ¬ Overtaken newest state (time request) ∧
        (∀ other ∈ requests, time other ≤ time request) ∧
        newest (runAll step requests state) = some (time request) ∧
        shows request (runAll step requests state) := by
  induction requests generalizing state with
  | nil => exact .inl ⟨rfl, fun _ inside => absurd inside List.not_mem_nil⟩
  | cons first rest ih =>
      rw [List.forall_mem_cons] at permitted
      have further := ih permitted.2 (keeps.holds_step permitted.1 held)
      rw [runAll_cons]
      by_cases overtaken : Overtaken newest state (time first)
      · rw [(keeps.refused permitted.1 held overtaken).2] at further ⊢
        rcases further with ⟨same, old⟩ | ⟨request, inside, newer, latest, stamped, shown⟩
        · exact .inl ⟨same, List.forall_mem_cons.mpr ⟨overtaken, old⟩⟩
        · refine .inr ⟨request, List.mem_cons_of_mem _ inside, newer, ?_, stamped, shown⟩
          refine List.forall_mem_cons.mpr ⟨le_of_not_ge fun older => newer ?_, latest⟩
          obtain ⟨stored, found, after⟩ := overtaken
          exact ⟨stored, found, older.trans after⟩
      · obtain ⟨-, -, stampedFirst, shownFirst⟩ := keeps.written permitted.1 held overtaken
        rcases further with ⟨same, old⟩ | ⟨request, inside, newer, latest, stamped, shown⟩
        · refine .inr ⟨first, List.mem_cons_self, overtaken, ?_, ?_, ?_⟩
          · refine List.forall_mem_cons.mpr ⟨le_rfl, fun other inside => ?_⟩
            obtain ⟨stored, found, after⟩ := old other inside
            rw [stampedFirst] at found
            exact after.trans_eq (Option.some.inj found).symm
          · rw [same]
            exact stampedFirst
          · rw [same]
            exact shownFirst
        · have later : time first < time request :=
            lt_of_not_ge fun older => newer ⟨time first, stampedFirst, older⟩
          refine .inr ⟨request, List.mem_cons_of_mem _ inside, ?_, ?_, stamped, shown⟩
          · rintro ⟨stored, found, older⟩
            exact overtaken ⟨stored, found, later.le.trans older⟩
          · exact List.forall_mem_cons.mpr ⟨later.le, latest⟩

/-- What a run in this order leaves and answers. -/
structure LatestWins (step : Request → State → Answer × State) (time : Request → Time)
    (newest : State → Option Time) (shows : Request → State → Prop)
    (accepts conflicts : Answer → Prop) (requests order : List Request) (state : State) :
    Prop where
  kept : (∀ request ∈ requests, Overtaken newest state (time request)) →
    runAll step order state = state
  shown : ∀ latest ∈ requests, (∀ other ∈ requests, time other ≤ time latest) →
    ¬ Overtaken newest state (time latest) →
      newest (runAll step order state) = some (time latest) ∧
        shows latest (runAll step order state)
  refused : ∀ before request after, order = before ++ request :: after →
    newest (step request (runAll step before state)).2 = newest (runAll step before state) →
      conflicts (step request (runAll step before state)).1
  accepted : ∀ before request after, order = before ++ request :: after →
    ¬ Overtaken newest state (time request) →
      (∀ earlier ∈ before, time earlier < time request) →
        accepts (step request (runAll step before state)).1

/-- In whatever order the requests run, the latest one is shown unless the start is newer. -/
theorem KeepsNewest.latest_wins
    (keeps : KeepsNewest step time newest allowed holds shows accepts conflicts)
    {requests order : List Request} (ordered : order.Perm requests)
    (distinct : (requests.map time).Nodup) (permitted : ∀ request ∈ requests, allowed request)
    (held : holds state) :
    LatestWins step time newest shows accepts conflicts requests order state := by
  have permittedOrder : ∀ request ∈ order, allowed request := fun request inside =>
    permitted request (ordered.mem_iff.mp inside)
  refine ⟨?_, ?_, ?_, ?_⟩
  · intro old
    rcases keeps.run_shows permittedOrder held with ⟨same, -⟩ | ⟨request, inside, newer, -⟩
    · exact same
    · exact absurd (old request (ordered.mem_iff.mp inside)) newer
  · intro latest inside newest newer
    rcases keeps.run_shows permittedOrder held with
      ⟨-, old⟩ | ⟨request, listed, -, maximal, stamped, shown⟩
    · exact absurd (old latest (ordered.mem_iff.mpr inside)) newer
    · have stored := ordered.mem_iff.mp listed
      have sameTime : time request = time latest :=
        le_antisymm (newest request stored) (maximal latest (ordered.mem_iff.mpr inside))
      obtain rfl : request = latest := List.inj_on_of_nodup_map distinct stored inside sameTime
      exact ⟨stamped, shown⟩
  · intro before request after split unraised
    rw [split, List.forall_mem_append, List.forall_mem_cons] at permittedOrder
    have heldBefore := (keeps.overtaken_run permittedOrder.1 held).1
    by_cases overtaken : Overtaken newest (runAll step before state) (time request)
    · exact (keeps.refused permittedOrder.2.1 heldBefore overtaken).1
    · have stamped := (keeps.written permittedOrder.2.1 heldBefore overtaken).2.2.1
      rw [unraised] at stamped
      exact absurd ⟨time request, stamped, le_rfl⟩ overtaken
  · intro before request after split newer latest
    rw [split, List.forall_mem_append, List.forall_mem_cons] at permittedOrder
    obtain ⟨heldBefore, overtaken⟩ := keeps.overtaken_run permittedOrder.1 held
    have fresh : ¬ Overtaken newest (runAll step before state) (time request) := by
      rw [overtaken]
      rintro (old | ⟨earlier, inside, older⟩)
      · exact newer old
      · exact absurd older (latest earlier inside).not_ge
    exact (keeps.written permittedOrder.2.1 heldBefore fresh).1

end Rules
end Meadowlark.Systems
