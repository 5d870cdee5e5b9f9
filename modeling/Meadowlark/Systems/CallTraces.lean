import Meadowlark.Systems.Program

namespace Meadowlark.Systems.Program
variable {Op : Type} {Answer : Op → Type} {A B State Error : Type}
  {answer : (op : Op) → State → Answer op × State} {world : State × List Op} {op : Op}

/-- A system that also writes down every call that it answers. -/
def recording (answer : (op : Op) → State → Answer op × State) (op : Op) (world : State × List Op) :
    Answer op × (State × List Op) :=
  ((answer op world.1).1, ((answer op world.1).2, world.2 ++ [op]))

/-- The calls of a run in their order. -/
def calls (answer : (op : Op) → State → Answer op × State)
    (program : ExceptT Error (Program Op Answer) A) (state : State) : List Op :=
  (runState (recording answer) program (state, [])).2.2

theorem within_anything (program : Program Op Answer A) :
    program.Within (fun _ => True) fun _ => True := by
  induction program with
  | pure value => exact trivial
  | call op next ih => exact ⟨trivial, ih⟩

/-- Writing the calls down changes neither the value nor the state of a run. -/
theorem runState_recording (program : ExceptT Error (Program Op Answer) A) :
    runState answer program world.1 =
      ((runState (recording answer) program world).1,
        (runState (recording answer) program world).2.1) :=
  (@Within.runState_project _ _ _ _ _ (recording answer) world _ _ _ answer Prod.fst _
    (within_anything program.run) fun _ _ _ => rfl).symm

/-- What has been written down stays. -/
theorem recorded_kept {program : ExceptT Error (Program Op Answer) A} (recorded : op ∈ world.2) :
    op ∈ (runState (recording answer) program world).2.2 := by
  apply @Within.runState_state _ _ _ _ _ (recording answer) world _ _
    (fun world => op ∈ world.2) _ (within_anything program.run)
  · intro other earlier _ kept
    exact List.mem_append_left _ kept
  · exact recorded

/-- Only allowed calls are written down. -/
theorem Within.recorded {allowed : Op → Prop} {returns : Except Error A → Prop}
    {program : ExceptT Error (Program Op Answer) A} (within : program.run.Within allowed returns)
    (before : ∀ op ∈ world.2, allowed op) :
    ∀ op ∈ (runState (recording answer) program world).2.2, allowed op := by
  apply @Within.runState_state _ _ _ _ _ (recording answer) world _ _
    (fun world => ∀ op ∈ world.2, allowed op) _ within
  · intro other earlier permitted kept op inside
    rcases List.mem_append.mp inside with earlier | last
    · exact kept op earlier
    · obtain rfl := List.mem_singleton.mp last
      exact permitted
  · exact before

/-- A call of the first program is a call of the whole. -/
theorem recorded_bind {program : ExceptT Error (Program Op Answer) A}
    {f : A → ExceptT Error (Program Op Answer) B}
    (recorded : op ∈ (runState (recording answer) program world).2.2) :
    op ∈ (runState (recording answer) (program >>= f) world).2.2 := by
  rw [runState_bind]
  cases ran : runState (recording answer) program world with
  | mk outcome following =>
      rw [ran] at recorded
      cases outcome with
      | ok value => exact recorded_kept recorded
      | error error => exact recorded

/-- The calls of a run are written down after the earlier ones. -/
theorem runState_recording_append (program : ExceptT Error (Program Op Answer) A) (state : State)
    (earlier : List Op) :
    runState (recording answer) program (state, earlier) =
      ((runState answer program state).1,
        ((runState answer program state).2, earlier ++ calls answer program state)) := by
  unfold calls runState
  generalize program.run = steps
  induction steps generalizing state earlier with
  | pure value =>
      change (value, (state, earlier)) = (value, (state, earlier ++ []))
      rw [List.append_nil]
  | call op next ih =>
      have rest := ih (answer op state).1 (answer op state).2
      refine (rest (earlier ++ [op])).trans ?_
      have first := rest [op]
      refine Prod.ext rfl (Prod.ext rfl ?_)
      change _ = earlier ++ (Program.interpret (M := StateM (State × List Op)) (recording answer)
        (next (answer op state).1) ((answer op state).2, [op])).2.2
      rw [first]
      simp

@[simp] theorem calls_pure (value : A) (state : State) :
    calls answer (Pure.pure value : ExceptT Error (Program Op Answer) A) state = [] := rfl

/-- The second program makes its calls after those of the first one. -/
theorem calls_bind (program : ExceptT Error (Program Op Answer) A)
    (f : A → ExceptT Error (Program Op Answer) B) (state : State) :
    calls answer (program >>= f) state = calls answer program state ++
      match runState answer program state with
      | (.ok value, following) => calls answer (f value) following
      | (.error _, _) => [] := by
  change (runState (recording answer) (program >>= f) (state, [])).2.2 = _
  rw [runState_bind, runState_recording_append, List.nil_append]
  cases runState answer program state with
  | mk outcome following =>
      cases outcome with
      | ok value =>
          dsimp only
          rw [runState_recording_append]
      | error error => exact (List.append_nil _).symm

theorem calls_tryCatch (program : ExceptT Error (Program Op Answer) A)
    (handle : Error → ExceptT Error (Program Op Answer) A) (state : State) :
    calls answer (tryCatch program handle) state = calls answer program state ++
      match runState answer program state with
      | (.ok _, _) => []
      | (.error error, following) => calls answer (handle error) following := by
  change (runState (recording answer) (tryCatch program handle) (state, [])).2.2 = _
  rw [runState_tryCatch, runState_recording_append, List.nil_append]
  cases runState answer program state with
  | mk outcome following =>
      cases outcome with
      | ok value => exact (List.append_nil _).symm
      | error error =>
          dsimp only
          rw [runState_recording_append]

/-- A call that follows the earlier ones and is not the next one has that one before it. -/
theorem mem_of_split {earlier later before after : List Op} {next : Op}
    (split : earlier ++ next :: later = before ++ op :: after) (outside : op ∉ earlier)
    (other : op ≠ next) : next ∈ before := by
  rcases List.append_eq_append_iff.mp split with ⟨middle, rfl, same⟩ | ⟨middle, rfl, same⟩
  · cases middle with
    | nil => exact absurd (List.cons.inj same).1.symm other
    | cons first rest =>
        obtain ⟨rfl, -⟩ := List.cons.inj same
        exact List.mem_append_right _ List.mem_cons_self
  · cases middle with
    | nil => exact absurd (List.cons.inj same).1 other
    | cons first rest =>
        obtain ⟨rfl, -⟩ := List.cons.inj same
        exact absurd (List.mem_append_right _ List.mem_cons_self) outside

end Meadowlark.Systems.Program
