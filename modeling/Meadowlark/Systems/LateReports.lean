import Mathlib.Tactic

namespace Meadowlark.Systems
variable {Leader Follower Report View Key : Type}

/-- A leader with the reports that its follower has still to hear, in the order of their making. -/
structure Following (Leader Report Follower : Type) where
  leader : Leader
  unheard : List Report
  follower : Follower

section Reports
variable {about : Report → Option Key} {shows : Report → View → View}

/-- Two reports are about nothing in common. -/
def Unrelated (about : Report → Option Key) (first second : Report) : Prop :=
  ∀ key, about first = some key → about second ≠ some key

/-- A report is heard before no earlier one that is about the same. -/
def InTurn (about : Report → Option Key) (earlier : List Report) (report : Report) : Prop :=
  ∀ other ∈ earlier, Unrelated about other report

section Decidable
variable [DecidableEq Key]

instance (first second : Report) : Decidable (Unrelated about first second) :=
  decidable_of_iff (about first = none ∨ about second ≠ about first) (by
    unfold Unrelated
    cases about first with
    | none => exact iff_of_true (.inl rfl) nofun
    | some key => simp)

instance (earlier : List Report) (report : Report) : Decidable (InTurn about earlier report) :=
  inferInstanceAs (Decidable (∀ other ∈ earlier, Unrelated about other report))

end Decidable

/-- Unrelated reports can be heard in either order. -/
def Commutes (about : Report → Option Key) (shows : Report → View → View) : Prop :=
  ∀ first second view, Unrelated about first second →
    shows second (shows first view) = shows first (shows second view)

/-- What a follower will show when it has heard the reports. -/
def caughtUp (shows : Report → View → View) (unheard : List Report) (view : View) : View :=
  unheard.foldl (fun view report => shows report view) view

theorem caughtUp_append (first second : List Report) (view : View) :
    caughtUp shows (first ++ second) view = caughtUp shows second (caughtUp shows first view) :=
  List.foldl_append

/-- A report that is heard in its turn could have been heard before the earlier ones. -/
theorem caughtUp_inTurn (commutes : Commutes about shows) {earlier : List Report}
    {report : Report} (inTurn : InTurn about earlier report) (view : View) :
    caughtUp shows earlier (shows report view) = shows report (caughtUp shows earlier view) := by
  induction earlier generalizing view with
  | nil => rfl
  | cons first rest ih =>
      have apart := inTurn first List.mem_cons_self
      change caughtUp shows rest (shows first (shows report view)) =
        shows report (caughtUp shows rest (shows first view))
      rw [← commutes first report view apart]
      exact ih (fun other inside => inTurn other (List.mem_cons_of_mem _ inside)) _

/-- Hearing a report in its turn does not change what the follower will show. -/
theorem caughtUp_heard (commutes : Commutes about shows) {earlier later : List Report}
    {report : Report} (inTurn : InTurn about earlier report) (view : View) :
    caughtUp shows (earlier ++ later) (shows report view) =
      caughtUp shows (earlier ++ report :: later) view := by
  rw [caughtUp_append, caughtUp_append, caughtUp_inTurn commutes inTurn]
  rfl

end Reports

/-- The states in which a leader and its follower can be.
The leader makes its steps, and the follower hears the reports of them later. -/
inductive Following.Reached (leads : Leader → Option Report → Leader → Prop)
    (hear : Report → Follower → Follower) (may : List Report → Report → Prop)
    (start : Leader × Follower) : Following Leader Report Follower → Prop
  | start : Reached leads hear may start ⟨start.1, [], start.2⟩
  | led {leader next : Leader} {unheard : List Report} {follower : Follower}
      {report : Option Report} :
      Reached leads hear may start ⟨leader, unheard, follower⟩ → leads leader report next →
      Reached leads hear may start ⟨next, unheard ++ report.toList, follower⟩
  | heard {leader : Leader} {earlier later : List Report} {follower : Follower} {report : Report} :
      Reached leads hear may start ⟨leader, earlier ++ report :: later, follower⟩ →
      may earlier report →
      Reached leads hear may start ⟨leader, earlier ++ later, hear report follower⟩

variable {leads : Leader → Option Report → Leader → Prop} {hear : Report → Follower → Follower}
  {about : Report → Option Key} {shows : Report → View → View} {view : Follower → View}
  {tracks : Leader → View → Prop} {start : Leader × Follower}
  {system : Following Leader Report Follower}

/-- Once it has heard everything in its turn, the follower tracks the leader. -/
theorem Following.Reached.tracked
    (seen : ∀ report follower, view (hear report follower) = shows report (view follower))
    (commutes : Commutes about shows)
    (kept : ∀ leader report next shown, leads leader report next → tracks leader shown →
      tracks next (caughtUp shows report.toList shown))
    (begun : tracks start.1 (view start.2))
    (reached : Following.Reached leads hear (InTurn about) start system) :
    tracks system.leader (caughtUp shows system.unheard (view system.follower)) := by
  induction reached with
  | start => exact begun
  | led _ step ih =>
      dsimp only
      rw [caughtUp_append]
      exact kept _ _ _ _ step ih
  | heard _ inTurn ih =>
      dsimp only
      rw [seen, caughtUp_heard commutes inTurn]
      exact ih

/-- A step of the leader, or the hearing of the report at a place of those that are on their way. -/
inductive Following.Move (Act : Type) where
  | lead (act : Act)
  | hear (place : Nat)

/-- The moves are made one after another, as long as each of them can be made. -/
def Following.play {Act : Type} (lead : Act → Leader → Option (Option Report × Leader))
    (hear : Report → Follower → Follower) (due : List Report → Report → Bool) :
    Following Leader Report Follower → List (Move Act) →
      Option (Following Leader Report Follower)
  | system, [] => some system
  | system, .lead act :: moves =>
      match lead act system.leader with
      | none => none
      | some (report, next) =>
          play lead hear due ⟨next, system.unheard ++ report.toList, system.follower⟩ moves
  | system, .hear place :: moves =>
      match system.unheard.drop place with
      | [] => none
      | report :: later =>
          if due (system.unheard.take place) report then
            play lead hear due
              ⟨system.leader, system.unheard.take place ++ later, hear report system.follower⟩ moves
          else none

/-- Moves that can be made lead to a state that can be reached. -/
theorem Following.Reached.play {Act : Type} {may : List Report → Report → Prop}
    {lead : Act → Leader → Option (Option Report × Leader)} {due : List Report → Report → Bool}
    (leading : ∀ act leader report next, lead act leader = some (report, next) →
      leads leader report next)
    (timely : ∀ earlier report, due earlier report = true → may earlier report)
    (reached : Following.Reached leads hear may start system) {moves : List (Move Act)}
    {last : Following Leader Report Follower}
    (played : Following.play lead hear due system moves = some last) :
    Following.Reached leads hear may start last := by
  induction moves generalizing system with
  | nil =>
      obtain rfl := Option.some.inj played
      exact reached
  | cons move moves ih =>
      cases move with
      | lead act =>
          unfold Following.play at played
          split at played
          · cases played
          · rename_i report next made
            exact ih (reached.led (leading act _ report next made)) played
      | hear place =>
          unfold Following.play at played
          split at played
          · cases played
          · rename_i report later rest
            split at played
            · rename_i inTurn
              refine ih (.heard ?_ (timely _ report inTurn)) played
              rw [← rest, List.take_append_drop]
              exact reached
            · cases played

end Meadowlark.Systems
