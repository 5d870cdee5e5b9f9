import Meadowlark.Systems.Program

namespace Meadowlark.Systems.Program
variable {Op : Type} {Answer : Op → Type} {A B L Error : Type}
  {possible : (op : Op) → Answer op → Prop} {advance : L → (op : Op) → Answer op → L}
  {allowed : L → Op → Prop} {progress : L}

/-- Every call is allowed by the progress that the answers before it have made. -/
def Follows (possible : (op : Op) → Answer op → Prop) (advance : L → (op : Op) → Answer op → L)
    (allowed : L → Op → Prop) (post : A → L → Prop) : Program Op Answer A → L → Prop
  | .pure value, progress => post value progress
  | .call op next, progress => allowed progress op ∧ ∀ answer, possible op answer →
      (next answer).Follows possible advance allowed post (advance progress op answer)

section Programs
variable {program : Program Op Answer A}

theorem Follows.then {post : B → L → Prop} {f : A → Program Op Answer B}
    (first : program.Follows possible advance allowed
      (fun value last => (f value).Follows possible advance allowed post last) progress) :
    (program >>= f).Follows possible advance allowed post progress := by
  induction program generalizing progress with
  | pure value => exact first
  | call op next ih =>
      exact ⟨first.1, fun answer answered => ih answer (first.2 answer answered)⟩

theorem Follows.mono {post weaker : A → L → Prop}
    (follows : program.Follows possible advance allowed post progress)
    (implies : ∀ value last, post value last → weaker value last) :
    program.Follows possible advance allowed weaker progress := by
  induction program generalizing progress with
  | pure value => exact implies value progress follows
  | call op next ih =>
      exact ⟨follows.1, fun answer answered => ih answer (follows.2 answer answered)⟩

/-- Calls that are always allowed and make no progress can be skipped. -/
theorem Within.follows {quiet : Op → Prop} {returns : A → Prop} {post : A → L → Prop}
    (within : program.Within quiet returns)
    (free : ∀ op progress, quiet op → allowed progress op)
    (still : ∀ op progress answer, quiet op → advance progress op answer = progress)
    (done : ∀ value, returns value → post value progress) :
    program.Follows possible advance allowed post progress := by
  induction program with
  | pure value => exact done value within
  | call op next ih =>
      refine ⟨free op progress within.1, fun answer answered => ?_⟩
      rw [still op progress answer within.1]
      exact ih answer (within.2 answer)

end Programs

section Throwing
variable {program : ExceptT Error (Program Op Answer) A}

theorem follows_bind {post : Except Error B → L → Prop}
    {f : A → ExceptT Error (Program Op Answer) B}
    (first : program.run.Follows possible advance allowed (fun outcome last =>
      match outcome with
      | .ok value => (f value).run.Follows possible advance allowed post last
      | .error error => post (.error error) last) progress) :
    (program >>= f).run.Follows possible advance allowed post progress := by
  rw [ExceptT.run_bind]
  apply Follows.then
  apply first.mono
  intro outcome last holds
  cases outcome with
  | ok value => exact holds
  | error error => exact holds

theorem follows_tryCatch {post : Except Error A → L → Prop}
    {handle : Error → ExceptT Error (Program Op Answer) A}
    (first : program.run.Follows possible advance allowed (fun outcome last =>
      match outcome with
      | .ok value => post (.ok value) last
      | .error error => (handle error).run.Follows possible advance allowed post last) progress) :
    (tryCatch program handle).run.Follows possible advance allowed post progress := by
  rw [ExceptT.run_tryCatch]
  apply Follows.then
  apply first.mono
  intro outcome last holds
  cases outcome with
  | ok value => exact holds
  | error error => exact holds

end Throwing
end Meadowlark.Systems.Program
