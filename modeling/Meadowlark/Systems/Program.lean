import Mathlib.Tactic

namespace Meadowlark.Systems

/-- A program returns a value or makes one call and continues with its answer. -/
inductive Program (Op : Type) (Answer : Op → Type) (A : Type) where
  | pure (value : A)
  | call (op : Op) (next : Answer op → Program Op Answer A)

namespace Program
variable {Op : Type} {Answer : Op → Type} {A B C : Type}

/-- The second program starts with the value of the first one. -/
def bind : Program Op Answer A → (A → Program Op Answer B) → Program Op Answer B
  | .pure value, f => f value
  | .call op next, f => .call op fun answer => (next answer).bind f

instance : Monad (Program Op Answer) where
  pure := Program.pure
  bind := Program.bind

/-- A request makes one call and returns its answer. -/
def request (op : Op) : Program Op Answer (Answer op) := .call op .pure

@[simp] theorem pure_def (value : A) :
    (Pure.pure value : Program Op Answer A) = Program.pure value := rfl

@[simp] theorem pure_bind (value : A) (f : A → Program Op Answer B) :
    (Program.pure value : Program Op Answer A) >>= f = f value := rfl

@[simp] theorem call_bind (op : Op) (next : Answer op → Program Op Answer A)
    (f : A → Program Op Answer B) :
    Program.call op next >>= f = Program.call op fun answer => next answer >>= f := rfl

@[simp] theorem request_bind (op : Op) (f : Answer op → Program Op Answer B) :
    (request op : Program Op Answer (Answer op)) >>= f = Program.call op f := rfl

theorem bind_pure (program : Program Op Answer A) :
    program >>= Program.pure = program := by
  induction program with
  | pure value => rfl
  | call op next ih =>
      change Program.call op (fun answer => next answer >>= Program.pure) = _
      exact congrArg (Program.call op) (funext ih)

theorem bind_assoc (program : Program Op Answer A)
    (f : A → Program Op Answer B) (g : B → Program Op Answer C) :
    program >>= f >>= g = program >>= fun value => f value >>= g := by
  induction program with
  | pure value => rfl
  | call op next ih =>
      change Program.call op (fun answer => next answer >>= f >>= g) = _
      exact congrArg (Program.call op) (funext ih)

instance : LawfulMonad (Program Op Answer) :=
  LawfulMonad.mk' (Program Op Answer) bind_pure (fun _ _ => rfl) bind_assoc

/-- The handler gives every call of the program a meaning in one monad. -/
def interpret {M : Type → Type} [Monad M] (handler : (op : Op) → M (Answer op)) :
    Program Op Answer A → M A
  | .pure value => Pure.pure value
  | .call op next => handler op >>= fun answer => (next answer).interpret handler

section Interpret
variable {M : Type → Type} [Monad M] (handler : (op : Op) → M (Answer op))

@[simp] theorem interpret_pure (value : A) :
    (Program.pure value : Program Op Answer A).interpret handler = Pure.pure value := rfl

@[simp] theorem interpret_call (op : Op) (next : Answer op → Program Op Answer A) :
    (Program.call op next).interpret handler =
      handler op >>= fun answer => (next answer).interpret handler := rfl

theorem interpret_bind [LawfulMonad M] (program : Program Op Answer A)
    (f : A → Program Op Answer B) :
    (program >>= f).interpret handler =
      program.interpret handler >>= fun value => (f value).interpret handler := by
  induction program with
  | pure value =>
      rw [interpret_pure, LawfulMonad.pure_bind]
      rfl
  | call op next ih =>
      rw [call_bind, interpret_call, interpret_call, LawfulMonad.bind_assoc]
      exact congrArg (handler op >>= ·) (funext ih)

end Interpret

section Within
variable {allowed : Op → Prop} {returns : A → Prop}

/-- Every call that the program can make is allowed, and every value that it can return is as
described. -/
def Within (allowed : Op → Prop) (returns : A → Prop) : Program Op Answer A → Prop
  | .pure value => returns value
  | .call op next => allowed op ∧ ∀ answer, (next answer).Within allowed returns

theorem Within.bind {after : B → Prop} {program : Program Op Answer A} {f : A → Program Op Answer B}
    (first : program.Within allowed returns)
    (second : ∀ value, returns value → (f value).Within allowed after) :
    (program >>= f).Within allowed after := by
  induction program with
  | pure value => exact second value first
  | call op next ih => exact ⟨first.1, fun answer => ih answer (first.2 answer)⟩

theorem Within.mono {weaker : A → Prop} {program : Program Op Answer A}
    (within : program.Within allowed returns) (implies : ∀ value, returns value → weaker value) :
    program.Within allowed weaker := by
  induction program with
  | pure value => exact implies value within
  | call op next ih => exact ⟨within.1, fun answer => ih answer (within.2 answer)⟩

theorem Within.allow {freer : Op → Prop} {program : Program Op Answer A}
    (within : program.Within allowed returns) (implies : ∀ op, allowed op → freer op) :
    program.Within freer returns := by
  induction program with
  | pure value => exact within
  | call op next ih => exact ⟨implies op within.1, fun answer => ih answer (within.2 answer)⟩

end Within

section State
variable {State Error : Type} {answer : (op : Op) → State → Answer op × State} {state following : State}

/-- The second program starts in the state that the first one leaves. -/
theorem interpret_then (answer : (op : Op) → StateM State (Answer op)) (program : Program Op Answer A)
    (f : A → Program Op Answer B) (state : State) :
    (program >>= f).interpret answer state =
      (f (program.interpret answer state).1).interpret answer
        (program.interpret answer state).2 := by
  rw [interpret_bind]
  rfl

/-- A program that can throw runs against a state that its calls read and change. -/
def runState (answer : (op : Op) → State → Answer op × State)
    (program : ExceptT Error (Program Op Answer) A) (state : State) : Except Error A × State :=
  Program.interpret (M := StateM State) answer program.run state

@[simp] theorem runState_pure (value : A) :
    runState answer (Pure.pure value : ExceptT Error (Program Op Answer) A) state =
      (.ok value, state) := rfl

theorem runState_bind (program : ExceptT Error (Program Op Answer) A)
    (f : A → ExceptT Error (Program Op Answer) B) :
    runState answer (program >>= f) state =
      match runState answer program state with
      | (.ok value, following) => runState answer (f value) following
      | (.error error, following) => (.error error, following) := by
  unfold runState
  rw [ExceptT.run_bind, interpret_then]
  cases program.run.interpret (M := StateM State) answer state with
  | mk outcome following =>
      cases outcome with
      | ok value => rfl
      | error error => rfl

theorem runState_bind_ok {program : ExceptT Error (Program Op Answer) A}
    {f : A → ExceptT Error (Program Op Answer) B} {value : A}
    (done : runState answer program state = (.ok value, following)) :
    runState answer (program >>= f) state = runState answer (f value) following := by
  rw [runState_bind, done]

theorem runState_bind_error {program : ExceptT Error (Program Op Answer) A}
    {f : A → ExceptT Error (Program Op Answer) B} {error : Error}
    (thrown : runState answer program state = (.error error, following)) :
    runState answer (program >>= f) state = (.error error, following) := by
  rw [runState_bind, thrown]

theorem runState_tryCatch (program : ExceptT Error (Program Op Answer) A)
    (handle : Error → ExceptT Error (Program Op Answer) A) :
    runState answer (tryCatch program handle) state =
      match runState answer program state with
      | (.ok value, following) => (.ok value, following)
      | (.error error, following) => runState answer (handle error) following := by
  unfold runState
  rw [ExceptT.run_tryCatch, interpret_then]
  cases program.run.interpret (M := StateM State) answer state with
  | mk outcome following =>
      cases outcome with
      | ok value => rfl
      | error error => rfl

/-- What is described about the values holds for the value of a run. -/
theorem Within.runState_value {allowed : Op → Prop} {returns : Except Error A → Prop}
    {program : ExceptT Error (Program Op Answer) A} (within : program.run.Within allowed returns) :
    returns (Program.runState answer program state).1 := by
  unfold Program.runState
  revert within
  generalize program.run = steps
  intro within
  induction steps generalizing state with
  | pure value => exact within
  | call op next ih => exact ih _ (within.2 _)

/-- A property that every allowed call keeps is kept by the whole program. -/
theorem Within.runState_state {allowed : Op → Prop} {returns : Except Error A → Prop}
    {Keeps : State → Prop} {program : ExceptT Error (Program Op Answer) A}
    (within : program.run.Within allowed returns)
    (keeps : ∀ op state, allowed op → Keeps state → Keeps (answer op state).2)
    (start : Keeps state) : Keeps (Program.runState answer program state).2 := by
  unfold Program.runState
  revert within
  generalize program.run = steps
  intro within
  induction steps generalizing state with
  | pure value => exact start
  | call op next ih => exact ih _ (keeps op state within.1 start) (within.2 _)

/-- The state holds the state of a smaller system that answers every allowed call alike. -/
theorem Within.runState_project {Inner : Type} {allowed : Op → Prop}
    {returns : Except Error A → Prop} {inner : (op : Op) → Inner → Answer op × Inner}
    {project : State → Inner} {program : ExceptT Error (Program Op Answer) A}
    (within : program.run.Within allowed returns)
    (agrees : ∀ op state, allowed op →
      ((answer op state).1, project (answer op state).2) = inner op (project state)) :
    ((Program.runState answer program state).1,
        project (Program.runState answer program state).2) =
      Program.runState inner program (project state) := by
  unfold Program.runState
  revert within
  generalize program.run = steps
  intro within
  induction steps generalizing state with
  | pure value => rfl
  | call op next ih =>
      have first := agrees op state within.1
      change _ = Program.interpret (M := StateM Inner) inner (next (inner op (project state)).1)
        (inner op (project state)).2
      rw [← first]
      exact ih _ (within.2 _)

end State

section Except
variable {Error : Type} {allowed : Op → Prop}

/-- A value is as described unless an error is thrown. -/
def Unless (returns : A → Prop) : Except Error A → Prop
  | .ok value => returns value
  | .error _ => True

/-- A throwing program makes allowed calls only and returns only values as described. -/
def Confined (allowed : Op → Prop) (returns : A → Prop)
    (program : ExceptT Error (Program Op Answer) A) : Prop :=
  program.run.Within allowed (Unless returns)

variable {returns : A → Prop} {after : B → Prop}

theorem confined_pure {value : A} (described : returns value) :
    Confined allowed returns (Pure.pure value : ExceptT Error (Program Op Answer) A) := described

theorem Confined.bind {program : ExceptT Error (Program Op Answer) A}
    {f : A → ExceptT Error (Program Op Answer) B} (first : Confined allowed returns program)
    (second : ∀ value, returns value → Confined allowed after (f value)) :
    Confined allowed after (program >>= f) := by
  unfold Confined
  rw [ExceptT.run_bind]
  apply Within.bind first
  intro outcome described
  cases outcome with
  | ok value => exact second value described
  | error error => exact trivial

theorem Confined.mono {weaker : A → Prop} {program : ExceptT Error (Program Op Answer) A}
    (confined : Confined allowed returns program)
    (implies : ∀ value, returns value → weaker value) : Confined allowed weaker program := by
  apply Within.mono confined
  intro outcome described
  cases outcome with
  | ok value => exact implies value described
  | error error => exact trivial

theorem Confined.tryCatch {program : ExceptT Error (Program Op Answer) A}
    {handle : Error → ExceptT Error (Program Op Answer) A}
    (confined : Confined allowed returns program)
    (handled : ∀ error, Confined allowed returns (handle error)) :
    Confined allowed returns (tryCatch program handle) := by
  unfold Confined
  rw [ExceptT.run_tryCatch]
  apply Within.bind confined
  intro outcome described
  cases outcome with
  | ok value => exact described
  | error error => exact handled error

end Except
end Program
end Meadowlark.Systems
