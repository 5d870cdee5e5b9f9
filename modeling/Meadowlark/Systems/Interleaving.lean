import Meadowlark.Systems.Program

namespace Meadowlark.Systems
variable {State Input Op Result : Type} {Answer : Op → Type}

/-- A program stops where it returns or where its next call is awaited. -/
def Program.Stops (awaited : Op → Bool) : Program Op Answer Result → Bool
  | .pure _ => true
  | .call op _ => awaited op

/-- A host runs one program for each input on a state that all of them share.
Other programs continue, and the state drifts, only while a call is awaited. -/
structure Host (State Input Op Result : Type) (Answer : Op → Type) where
  program : Input → Program Op Answer Result
  awaited : Op → Bool
  serves (op : Op) : State → Answer op → State → Prop
  drifts : State → State → Prop

/-- An activity is a program in progress with its calls, the latest first.
It remembers the state in which it arrived or that its latest call left. -/
structure Activity (State Input Op Result : Type) (Answer : Op → Type) where
  input : Input
  calls : List Op
  seen : State
  rest : Program Op Answer Result

/-- The activities in progress and the activities that have returned share the state. -/
structure Hosted (State Input Op Result : Type) (Answer : Op → Type) where
  state : State
  activities : List (Activity State Input Op Result Answer)

inductive Move (Input : Type) where
  | arrive (input : Input)
  | resume (index : Nat)
  | drift

/-- The answer to a call is the next thing that an activity sees. -/
def Activity.answered (activity : Activity State Input Op Result Answer) (op : Op)
    (state : State) (rest : Program Op Answer Result) : Activity State Input Op Result Answer where
  input := activity.input
  calls := op :: activity.calls
  seen := state
  rest := rest

namespace Host
variable (host : Host State Input Op Result Answer)

def start (state : State) (input : Input) : Activity State Input Op Result Answer :=
  ⟨input, [], state, host.program input⟩

/-- The calls that are not awaited are answered at once. -/
inductive Settles : Activity State Input Op Result Answer → State →
    Activity State Input Op Result Answer → State → Prop where
  | stop {activity : Activity State Input Op Result Answer} {state : State}
      (stops : activity.rest.Stops host.awaited = true) : Settles activity state activity state
  | call {activity following : Activity State Input Op Result Answer} {state middle last : State}
      {op : Op} {next : Answer op → Program Op Answer Result} {answer : Answer op}
      (pending : activity.rest = .call op next) (immediate : host.awaited op = false)
      (served : host.serves op state answer middle)
      (settles : Settles (activity.answered op middle (next answer)) middle following last) :
      Settles activity state following last

/-- An activity arrives, or its awaited call is answered, or the state drifts. -/
inductive Step : Move Input → Hosted State Input Op Result Answer →
    Hosted State Input Op Result Answer → Prop where
  | arrive {system : Hosted State Input Op Result Answer} {input : Input}
      {activity : Activity State Input Op Result Answer} {state : State}
      (settles : host.Settles (host.start system.state input) system.state activity state) :
      Step (.arrive input) system ⟨state, system.activities ++ [activity]⟩
  | resume {system : Hosted State Input Op Result Answer} {index : Nat}
      {activity following : Activity State Input Op Result Answer} {middle state : State} {op : Op}
      {next : Answer op → Program Op Answer Result} {answer : Answer op}
      (present : system.activities[index]? = some activity) (pending : activity.rest = .call op next)
      (served : host.serves op system.state answer middle)
      (settles : host.Settles (activity.answered op middle (next answer)) middle following state) :
      Step (.resume index) system ⟨state, system.activities.set index following⟩
  | drift {system : Hosted State Input Op Result Answer} {state : State}
      (drifts : host.drifts system.state state) : Step .drift system ⟨state, system.activities⟩

/-- The systems that orderly moves reach from a state without activities. -/
inductive Reached (orderly : Hosted State Input Op Result Answer → Move Input → Prop)
    (initial : State) : Hosted State Input Op Result Answer → Prop where
  | start : Reached orderly initial ⟨initial, []⟩
  | move {system following : Hosted State Input Op Result Answer} {move : Move Input}
      (reached : Reached orderly initial system) (kept : orderly system move)
      (moved : host.Step move system following) : Reached orderly initial following

section Invariants

/-- Every answer keeps the state sound and what holds of the activities. -/
structure Keeps (sound : State → Prop)
    (holds : State → Activity State Input Op Result Answer → Prop) : Prop where
  arrive {state : State} {input : Input} : sound state → holds state (host.start state input)
  answer {state following : State} {activity : Activity State Input Op Result Answer} {op : Op}
    {next : Answer op → Program Op Answer Result} {answer : Answer op} :
    sound state → holds state activity → activity.rest = .call op next →
      host.serves op state answer following →
      sound following ∧ holds following (activity.answered op following (next answer))
  others {state following : State} {activity : Activity State Input Op Result Answer} {op : Op}
    {answer : Answer op} :
    sound state → host.serves op state answer following →
      activity.rest.Stops host.awaited = true → holds state activity → holds following activity
  drift {state following : State} :
    sound state → host.drifts state following → sound following ∧
      ∀ activity : Activity State Input Op Result Answer,
        activity.rest.Stops host.awaited = true → holds state activity → holds following activity

variable {host} {sound : State → Prop} {holds : State → Activity State Input Op Result Answer → Prop}

theorem Settles.stops {activity following : Activity State Input Op Result Answer}
    {state last : State} (settles : host.Settles activity state following last) :
    following.rest.Stops host.awaited = true := by
  induction settles with
  | stop stops => exact stops
  | call pending immediate served settles ih => exact ih

/-- A turn keeps what holds of the activity and of the activities that wait. -/
theorem Keeps.settles (keeps : host.Keeps sound holds)
    {activity following : Activity State Input Op Result Answer} {state last : State}
    (settles : host.Settles activity state following last) (healthy : sound state)
    (held : holds state activity) :
    sound last ∧ holds last following ∧
      ∀ other : Activity State Input Op Result Answer,
        other.rest.Stops host.awaited = true → holds state other → holds last other := by
  induction settles with
  | stop stops => exact ⟨healthy, held, fun _ _ same => same⟩
  | call pending immediate served settles ih =>
      obtain ⟨middle, answered⟩ := keeps.answer healthy held pending served
      obtain ⟨last, after, others⟩ := ih middle answered
      refine ⟨last, after, fun other stops before => ?_⟩
      exact others other stops (keeps.others healthy served stops before)

/-- The state is sound and every activity waits or has returned. -/
structure Sound (host : Host State Input Op Result Answer) (sound : State → Prop)
    (holds : State → Activity State Input Op Result Answer → Prop)
    (system : Hosted State Input Op Result Answer) : Prop where
  state : sound system.state
  stops : ∀ activity ∈ system.activities, activity.rest.Stops host.awaited = true
  holds : ∀ activity ∈ system.activities, holds system.state activity

/-- One move keeps the system sound. -/
theorem Keeps.step (keeps : host.Keeps sound holds) {move : Move Input}
    {system following : Hosted State Input Op Result Answer} (moved : host.Step move system following)
    (before : host.Sound sound holds system) : host.Sound sound holds following := by
  cases moved with
  | arrive settles =>
      obtain ⟨healthy, held, others⟩ := keeps.settles settles before.state (keeps.arrive before.state)
      refine ⟨healthy, ?_, ?_⟩
      · intro activity inside
        rcases List.mem_append.mp inside with old | new
        · exact before.stops activity old
        · rw [List.mem_singleton.mp new]
          exact settles.stops
      · intro activity inside
        rcases List.mem_append.mp inside with old | new
        · exact others activity (before.stops activity old) (before.holds activity old)
        · rw [List.mem_singleton.mp new]
          exact held
  | resume present pending served settles =>
      have inside := List.mem_of_getElem? present
      obtain ⟨middle, answered⟩ := keeps.answer before.state (before.holds _ inside) pending served
      obtain ⟨healthy, held, others⟩ := keeps.settles settles middle answered
      refine ⟨healthy, ?_, ?_⟩
      · intro activity among
        rcases List.mem_or_eq_of_mem_set among with old | rfl
        · exact before.stops activity old
        · exact settles.stops
      · intro activity among
        rcases List.mem_or_eq_of_mem_set among with old | rfl
        · have waits := before.stops activity old
          exact others activity waits (keeps.others before.state served waits (before.holds _ old))
        · exact held
  | drift drifts =>
      obtain ⟨healthy, others⟩ := keeps.drift before.state drifts
      refine ⟨healthy, before.stops, fun activity inside => ?_⟩
      exact others activity (before.stops activity inside) (before.holds activity inside)

/-- Every system that a run reaches is sound. -/
theorem Keeps.reached (keeps : host.Keeps sound holds)
    {orderly : Hosted State Input Op Result Answer → Move Input → Prop} {initial : State}
    {system : Hosted State Input Op Result Answer} (healthy : sound initial)
    (reached : host.Reached orderly initial system) : host.Sound sound holds system := by
  induction reached with
  | start =>
      refine ⟨healthy, ?_, ?_⟩
      · intro activity inside
        cases inside
      · intro activity inside
        cases inside
  | move reached kept moved ih => exact keeps.step moved ih

end Invariants

section Play
variable (reply : (op : Op) → State → Option (Answer op × State))

/-- The calls that are not awaited are answered by a function that may reject a call. -/
def settle (input : Input) (calls : List Op) (seen : State) :
    Program Op Answer Result → State → Option (Activity State Input Op Result Answer × State)
  | .pure result, state => some (⟨input, calls, seen, .pure result⟩, state)
  | .call op next, state =>
      if host.awaited op then some (⟨input, calls, seen, .call op next⟩, state)
      else
        match reply op state with
        | some (answer, following) =>
            settle input (op :: calls) following (next answer) following
        | none => none

/-- A move that the system is not ready for is rejected. -/
def play (system : Hosted State Input Op Result Answer) :
    Move Input → Option (Hosted State Input Op Result Answer)
  | .arrive input =>
      (host.settle reply input [] system.state (host.program input) system.state).map fun settled =>
        ⟨settled.2, system.activities ++ [settled.1]⟩
  | .resume index =>
      match system.activities[index]? with
      | some ⟨input, calls, _, .call op next⟩ =>
          match reply op system.state with
          | some (answer, middle) =>
              (host.settle reply input (op :: calls) middle (next answer) middle).map fun settled =>
                ⟨settled.2, system.activities.set index settled.1⟩
          | none => none
      | _ => none
  | .drift => none

section Moves
variable (orderly : Hosted State Input Op Result Answer → Move Input → Prop)
  [∀ system move, Decidable (orderly system move)]

/-- The moves are played in order as long as they are orderly. -/
def playAll (system : Hosted State Input Op Result Answer) :
    List (Move Input) → Option (Hosted State Input Op Result Answer)
  | [] => some system
  | move :: rest =>
      if orderly system move then
        (host.play reply system move).bind fun following => playAll following rest
      else none

end Moves

variable {host reply} {system following : Hosted State Input Op Result Answer}

/-- The function gives answers that the host can give. -/
def Possible (host : Host State Input Op Result Answer)
    (reply : (op : Op) → State → Option (Answer op × State)) : Prop :=
  ∀ op state answer following, reply op state = some (answer, following) →
    host.serves op state answer following

theorem settle_settles (possible : Possible host reply) {input : Input} {calls : List Op}
    {seen state last : State} {program : Program Op Answer Result}
    {activity : Activity State Input Op Result Answer}
    (settled : host.settle reply input calls seen program state = some (activity, last)) :
    host.Settles ⟨input, calls, seen, program⟩ state activity last := by
  induction program generalizing calls seen state with
  | pure result =>
      cases settled
      exact .stop rfl
  | call op next ih =>
      unfold settle at settled
      split at settled
      · rename_i awaited
        cases settled
        exact .stop awaited
      · rename_i immediate
        split at settled
        · rename_i answer following replied
          exact .call rfl (by simpa using immediate) (possible op state answer following replied)
            (ih answer settled)
        · cases settled

theorem play_step (possible : Possible host reply) {move : Move Input}
    (played : host.play reply system move = some following) : host.Step move system following := by
  cases move with
  | arrive input =>
      obtain ⟨settled, answered, same⟩ := Option.map_eq_some_iff.mp played
      cases same
      exact .arrive (settle_settles possible answered)
  | resume index =>
      simp only [play] at played
      split at played
      · rename_i input calls seen op next present
        split at played
        · rename_i answer middle replied
          obtain ⟨settled, answered, same⟩ := Option.map_eq_some_iff.mp played
          cases same
          exact .resume present rfl (possible op system.state answer middle replied)
            (settle_settles possible answered)
        · cases played
      · cases played
  | drift => cases played

/-- The moves that a function plays are a run. -/
theorem Reached.playAll {orderly : Hosted State Input Op Result Answer → Move Input → Prop}
    [∀ system move, Decidable (orderly system move)] {initial : State}
    (possible : Possible host reply) {moves : List (Move Input)} (reached : host.Reached orderly initial system)
    (played : host.playAll reply orderly system moves = some following) :
    host.Reached orderly initial following := by
  induction moves generalizing system with
  | nil => exact (Option.some.inj played) ▸ reached
  | cons move rest ih =>
      unfold Host.playAll at played
      split at played
      · rename_i kept
        obtain ⟨middle, first, later⟩ := Option.bind_eq_some_iff.mp played
        exact ih (reached.move kept (play_step possible first)) later
      · cases played

end Play
end Host
end Meadowlark.Systems
