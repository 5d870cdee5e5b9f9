import Meadowlark.Systems.Program

namespace Meadowlark.Systems.Program
variable {Op : Type} {Answer : Op → Type} {A B State Error : Type}

section Runs
variable (answers : (op : Op) → State → Answer op → State → Prop)

/-- The values and states that a program can end with when every call has several answers. -/
inductive Runs : Program Op Answer A → State → A → State → Prop where
  | pure (value : A) (state : State) : Runs (.pure value) state value state
  | call {op : Op} {next : Answer op → Program Op Answer A} {state middle last : State}
      {answer : Answer op} {value : A} (answered : answers op state answer middle)
      (rest : Runs (next answer) middle value last) : Runs (.call op next) state value last

/-- The postcondition holds however the calls are answered. -/
def Every (post : A → State → Prop) : Program Op Answer A → State → Prop
  | .pure value, state => post value state
  | .call op next, state =>
      ∀ answer middle, answers op state answer middle → (next answer).Every post middle

variable {answers} {program : Program Op Answer A} {state last : State}

theorem Runs.postcondition {post : A → State → Prop} {value : A}
    (runs : Runs answers program state value last) (every : Every answers post program state) :
    post value last := by
  induction runs with
  | pure value state => exact every
  | call answered rest ih => exact ih (every _ _ answered)

theorem every_then {post : B → State → Prop} {f : A → Program Op Answer B}
    (first : Every answers (fun value => Every answers post (f value)) program state) :
    Every answers post (program >>= f) state := by
  induction program generalizing state with
  | pure value => exact first
  | call op next ih => exact fun answer middle answered => ih answer (first answer middle answered)

theorem Every.mono {post weaker : A → State → Prop} (every : Every answers post program state)
    (implies : ∀ value last, post value last → weaker value last) :
    Every answers weaker program state := by
  induction program generalizing state with
  | pure value => exact implies value state every
  | call op next ih => exact fun answer middle answered => ih answer (every answer middle answered)

/-- A deterministic run is one of the runs when each of its answers is possible. -/
theorem runs_of_interpret {answer : (op : Op) → State → Answer op × State}
    (possible : ∀ op state, answers op state (answer op state).1 (answer op state).2)
    (program : Program Op Answer A) (state : State) :
    Runs answers program state (program.interpret (M := StateM State) answer state).1
      (program.interpret (M := StateM State) answer state).2 := by
  induction program generalizing state with
  | pure value => exact .pure value state
  | call op next ih => exact .call (possible op state) (ih _ _)

end Runs

section Throwing
variable {answers : (op : Op) → State → Answer op → State → Prop} {state : State}
  {program : ExceptT Error (Program Op Answer) A}

/-- The rest of a throwing program runs after a value only. -/
theorem every_bind {post : Except Error B → State → Prop}
    {f : A → ExceptT Error (Program Op Answer) B}
    (first : Every answers (fun outcome last =>
      match outcome with
      | .ok value => Every answers post (f value).run last
      | .error error => post (.error error) last) program.run state) :
    Every answers post (program >>= f).run state := by
  rw [ExceptT.run_bind]
  apply every_then
  apply first.mono
  intro outcome last holds
  cases outcome with
  | ok value => exact holds
  | error error => exact holds

theorem every_tryCatch {post : Except Error A → State → Prop}
    {handle : Error → ExceptT Error (Program Op Answer) A}
    (first : Every answers (fun outcome last =>
      match outcome with
      | .ok value => post (.ok value) last
      | .error error => Every answers post (handle error).run last) program.run state) :
    Every answers post (tryCatch program handle).run state := by
  rw [ExceptT.run_tryCatch]
  apply every_then
  apply first.mono
  intro outcome last holds
  cases outcome with
  | ok value => exact holds
  | error error => exact holds

end Throwing

section Straight
variable {Rows : Op → Type}

/-- The program makes allowed calls and stops at the first one that throws. -/
def Straight (allowed : Op → Prop) :
    Program Op (fun op => Except Error (Rows op)) (Except Error A) → Prop
  | .pure _ => True
  | .call op next => allowed op ∧ (∀ error, next (.error error) = .pure (.error error)) ∧
      ∀ rows, (next (.ok rows)).Straight allowed

variable {allowed : Op → Prop}

theorem straight_pure (value : A) : Straight allowed
    (Pure.pure value : ExceptT Error (Program Op fun op => Except Error (Rows op)) A).run := trivial

theorem straight_request {op : Op} (permitted : allowed op) :
    Straight allowed
      (ExceptT.mk (request op) : ExceptT Error (Program Op fun op => Except Error (Rows op)) _).run :=
  ⟨permitted, fun _ => rfl, fun _ => trivial⟩

theorem Straight.bind {program : ExceptT Error (Program Op fun op => Except Error (Rows op)) A}
    {f : A → ExceptT Error (Program Op fun op => Except Error (Rows op)) B}
    (first : Straight allowed program.run) (second : ∀ value, Straight allowed (f value).run) :
    Straight allowed (program >>= f).run := by
  rw [ExceptT.run_bind]
  generalize program.run = steps at first
  induction steps with
  | pure outcome =>
      cases outcome with
      | ok value => exact second value
      | error error => exact trivial
  | call op next ih =>
      obtain ⟨permitted, stops, continues⟩ := first
      refine ⟨permitted, ?_, ?_⟩
      · intro error
        dsimp only
        rw [stops error]
        rfl
      · exact fun rows => ih (.ok rows) (continues rows)

end Straight
end Meadowlark.Systems.Program
