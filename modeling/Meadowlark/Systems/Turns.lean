import Meadowlark.Systems.Interleaving

namespace Meadowlark.Systems

section Safety
variable {State Input Op Result Error A B : Type} {Answer : Op → Type}
  (host : Host State Input Op Result Answer)

/-- However the calls are answered, the state stays sound and the program returns as described.
Before an awaited call the state can become any other sound state. -/
def Host.Safe (sound : State → Prop) (post : List Op → State → A → Prop) :
    Program Op Answer A → List Op → State → Prop
  | .pure value, calls, state => post calls state value
  | .call op next, calls, state =>
      ∀ middle, sound middle → (host.awaited op = false → middle = state) →
        ∀ answer following, host.serves op middle answer following →
          sound following ∧ Safe sound post (next answer) (op :: calls) following

namespace Host
variable {host} {sound : State → Prop} {calls : List Op} {state : State}

theorem safe_then {post : List Op → State → B → Prop} {program : Program Op Answer A}
    {f : A → Program Op Answer B}
    (first : host.Safe sound (fun calls state value => host.Safe sound post (f value) calls state)
      program calls state) : host.Safe sound post (program >>= f) calls state := by
  induction program generalizing calls state with
  | pure value => exact first
  | call op next ih =>
      intro middle healthy immediate answer following served
      obtain ⟨after, rest⟩ := first middle healthy immediate answer following served
      exact ⟨after, ih answer rest⟩

theorem Safe.mono {post weaker : List Op → State → A → Prop} {program : Program Op Answer A}
    (safe : host.Safe sound post program calls state)
    (implies : ∀ calls state value, post calls state value → weaker calls state value) :
    host.Safe sound weaker program calls state := by
  induction program generalizing calls state with
  | pure value => exact implies calls state value safe
  | call op next ih =>
      intro middle healthy immediate answer following served
      obtain ⟨after, rest⟩ := safe middle healthy immediate answer following served
      exact ⟨after, ih answer rest⟩

/-- The rest of a throwing program runs after a value only. -/
theorem safe_bind {post : List Op → State → Except Error B → Prop}
    {program : ExceptT Error (Program Op Answer) A} {f : A → ExceptT Error (Program Op Answer) B}
    (first : host.Safe sound (fun calls state outcome =>
      match outcome with
      | .ok value => host.Safe sound post (f value).run calls state
      | .error error => post calls state (.error error)) program.run calls state) :
    host.Safe sound post (program >>= f).run calls state := by
  rw [ExceptT.run_bind]
  apply safe_then
  apply first.mono
  intro calls state outcome holds
  cases outcome with
  | ok value => exact holds
  | error error => exact holds

theorem safe_tryCatch {post : List Op → State → Except Error A → Prop}
    {program : ExceptT Error (Program Op Answer) A}
    {handle : Error → ExceptT Error (Program Op Answer) A}
    (first : host.Safe sound (fun calls state outcome =>
      match outcome with
      | .ok value => post calls state (.ok value)
      | .error error => host.Safe sound post (handle error).run calls state)
        program.run calls state) :
    host.Safe sound post (tryCatch program handle).run calls state := by
  rw [ExceptT.run_tryCatch]
  apply safe_then
  apply first.mono
  intro calls state outcome holds
  cases outcome with
  | ok value => exact holds
  | error error => exact holds

variable {post : Input → List Op → State → Result → Prop}

/-- A host keeps sound when all its programs are safe and no drift breaks the state. -/
theorem keeps_of_safe
    (safe : ∀ state input, sound state → host.Safe sound (post input) (host.program input) [] state)
    (drifts : ∀ state following, sound state → host.drifts state following → sound following) :
    host.Keeps sound fun state activity =>
      host.Safe sound (post activity.input) activity.rest activity.calls activity.seen ∧
        (activity.rest.Stops host.awaited = false → activity.seen = state) where
  arrive {state input} healthy := ⟨safe state input healthy, fun _ => rfl⟩
  answer {state following activity op next answer} healthy held pending served := by
    obtain ⟨rest, known⟩ := held
    rw [pending] at rest known
    have immediate : host.awaited op = false → state = activity.seen := fun held =>
      (known (by simpa [Program.Stops] using held)).symm
    obtain ⟨after, continues⟩ := rest state healthy immediate answer following served
    exact ⟨after, continues, fun _ => rfl⟩
  others {state following activity op answer} healthy served stops held :=
    ⟨held.1, fun goes => absurd (stops.symm.trans goes) (by decide)⟩
  drift {state following} healthy drifted :=
    ⟨drifts state following healthy drifted, fun activity stops held =>
      ⟨held.1, fun goes => absurd (stops.symm.trans goes) (by decide)⟩⟩

/-- An activity that has returned meets the postcondition in the state that it has seen last. -/
theorem Reached.returned
    (safe : ∀ state input, sound state → host.Safe sound (post input) (host.program input) [] state)
    (drifts : ∀ state following, sound state → host.drifts state following → sound following)
    {orderly : Hosted State Input Op Result Answer → Move Input → Prop} {initial : State}
    {system : Hosted State Input Op Result Answer} (healthy : sound initial)
    (reached : host.Reached orderly initial system)
    {activity : Activity State Input Op Result Answer} (inside : activity ∈ system.activities)
    {result : Result} (returned : activity.rest = .pure result) :
    post activity.input activity.calls activity.seen result := by
  have held := ((keeps_of_safe safe drifts).reached healthy reached).holds activity inside
  have done := held.1
  rw [returned] at done
  exact done

section Refinement
variable {Finer : Type} {finer : Host Finer Input Op Result Answer} {view : Finer → State}
  {well : Finer → Prop}

/-- A program that is safe on the view of a finer host is safe there, where every answer that keeps
the view sound keeps the finer state well. -/
theorem Safe.refine {post : List Op → State → A → Prop} {program : Program Op Answer A}
    {calls : List Op} {state : Finer} (safe : host.Safe sound post program calls (view state))
    (awaits : finer.awaited = host.awaited)
    (serves : ∀ op state answer following, well state →
      finer.serves op state answer following →
        host.serves op (view state) answer (view following))
    (kept : ∀ op state answer following, well state →
      finer.serves op state answer following → sound (view following) → well following)
    (healthy : well state) :
    finer.Safe (fun state => sound (view state) ∧ well state)
      (fun calls state value => post calls (view state) value ∧ well state) program calls state := by
  induction program generalizing calls state with
  | pure value => exact ⟨safe, healthy⟩
  | call op next ih =>
      rintro middle ⟨soundView, wellMiddle⟩ immediate answer following served
      have sameView : host.awaited op = false → view middle = view state := by
        intro direct
        rw [immediate (awaits ▸ direct)]
      obtain ⟨after, rest⟩ := safe (view middle) soundView sameView answer (view following)
        (serves op middle answer following wellMiddle served)
      have wellAfter := kept op middle answer following wellMiddle served after
      exact ⟨⟨after, wellAfter⟩, ih answer rest wellAfter⟩

end Refinement
end Host
end Safety

section Counts
variable {Op A B Error : Type} {Answer : Op → Type} (counted : Op → Bool)

/-- However the calls are answered, the program makes at most so many calls of one kind. -/
def Program.AtMost : Nat → Program Op Answer A → Prop
  | _, .pure _ => True
  | limit, .call op next =>
      ∃ rest, (if counted op then rest + 1 else rest) ≤ limit ∧ ∀ answer, (next answer).AtMost rest

namespace Program
variable {counted} {limit first second : Nat}

theorem AtMost.mono {program : Program Op Answer A} (bounded : program.AtMost counted first)
    (smaller : first ≤ second) : program.AtMost counted second := by
  cases program with
  | pure value => exact trivial
  | call op next =>
      obtain ⟨rest, fits, continues⟩ := bounded
      exact ⟨rest, fits.trans smaller, continues⟩

theorem AtMost.seq {program : Program Op Answer A} {f : A → Program Op Answer B}
    (bounded : program.AtMost counted first) (later : ∀ value, (f value).AtMost counted second) :
    (program >>= f).AtMost counted (first + second) := by
  induction program generalizing first with
  | pure value => exact (later value).mono (Nat.le_add_left _ _)
  | call op next ih =>
      obtain ⟨rest, fits, continues⟩ := bounded
      refine ⟨rest + second, ?_, fun answer => ih answer (continues answer)⟩
      split at fits
      · rename_i held
        rw [if_pos held]
        omega
      · rename_i held
        rw [if_neg held]
        omega

variable {program : ExceptT Error (Program Op Answer) A}

theorem AtMost.bind {f : A → ExceptT Error (Program Op Answer) B}
    (bounded : program.run.AtMost counted first)
    (later : ∀ value, (f value).run.AtMost counted second) :
    (program >>= f).run.AtMost counted (first + second) := by
  rw [ExceptT.run_bind]
  apply bounded.seq
  intro outcome
  cases outcome with
  | ok value => exact later value
  | error error => exact trivial

theorem AtMost.tryCatch {handle : Error → ExceptT Error (Program Op Answer) A}
    (bounded : program.run.AtMost counted first)
    (handled : ∀ error, (handle error).run.AtMost counted second) :
    (tryCatch program handle).run.AtMost counted (first + second) := by
  rw [ExceptT.run_tryCatch]
  apply bounded.seq
  intro outcome
  cases outcome with
  | ok value => exact trivial
  | error error => exact handled error

end Program

namespace Host
variable {State Input Result : Type} {host : Host State Input Op Result Answer} {limit : Nat}

/-- A bound on the calls of the programs bounds the calls of every activity at every time. -/
theorem Reached.calls_le (bounded : ∀ input, (host.program input).AtMost counted limit)
    {orderly : Hosted State Input Op Result Answer → Move Input → Prop} {initial : State}
    {system : Hosted State Input Op Result Answer} (reached : host.Reached orderly initial system)
    {activity : Activity State Input Op Result Answer} (inside : activity ∈ system.activities) :
    activity.calls.countP counted ≤ limit := by
  have keeps : host.Keeps (fun _ => True) fun _ activity =>
      ∃ rest, activity.rest.AtMost counted rest ∧ activity.calls.countP counted + rest ≤ limit :=
    { arrive := fun {state input} _ => ⟨limit, bounded input, by simp [Host.start]⟩
      answer := by
        rintro state following activity op next answer - ⟨rest, remains, fits⟩ pending served
        rw [pending] at remains
        obtain ⟨fewer, smaller, continues⟩ := remains
        refine ⟨trivial, fewer, continues answer, ?_⟩
        change (op :: activity.calls).countP counted + fewer ≤ limit
        rw [List.countP_cons]
        split at smaller
        · rename_i held
          rw [if_pos held]
          omega
        · rename_i held
          rw [if_neg held]
          omega
      others := fun _ _ _ held => held
      drift := fun _ _ => ⟨trivial, fun _ _ held => held⟩ }
  obtain ⟨rest, remains, fits⟩ := (keeps.reached trivial reached).holds activity inside
  omega

end Host
end Counts
end Meadowlark.Systems
