import Meadowlark.Systems.SnapshotHistory

namespace Meadowlark.Systems
variable {Item Key Op Error Input Result Call Seed : Type} {Answer : Op → Type} [Keyed Item Key]

/-- A procedure runs attempts of a call until one decides its result.
Every attempt has its own seed, and an error that is never overcome becomes a failure. -/
structure Procedure (Item : Type) {Key : Type} [Keyed Item Key] (Op : Type) (Answer : Op → Type)
    (Error Input Result Call Seed : Type) where
  service : Service Item Op Answer Error Input Result
  input : Call → Seed → Input
  initial : Call → Result
  failure : Call → Error → Result
  failure_fails (call : Call) (error : Error) : service.commits (failure call error) = false

/-- The retry loop waits between two attempts.
The callback of an attempt runs and then aborts its transaction or hands it over for commit. -/
inductive Phase (Item : Type) {Key : Type} [Keyed Item Key] (Op : Type) (Answer : Op → Type)
    (Result : Type) where
  | waiting
  | running (attempt : Attempt Item Op Answer Result)
  | aborting
  | committing (transaction : Transaction Item) (computed : Result)
  | resolved
  | returned (response : Result)
  | rejected

/-- The response of a call that has returned. -/
def Phase.response? : Phase Item Op Answer Result → Option Result
  | .returned response => some response
  | _ => none

theorem Phase.response?_eq {phase : Phase Item Op Answer Result} {response : Result} :
    phase.response? = some response ↔ phase = .returned response := by
  cases phase <;> simp [Phase.response?]

/-- All attempts of a call assign the one result variable. -/
structure Caller (Item : Type) {Key : Type} [Keyed Item Key] (Op : Type) (Answer : Op → Type)
    (Result Call : Type) where
  call : Call
  result : Result
  phase : Phase Item Op Answer Result

/-- Another commit exposes the transaction that a caller has open. -/
def Phase.expose (written : List Key) : Phase Item Op Answer Result → Phase Item Op Answer Result
  | .running attempt =>
      .running { attempt with transaction := attempt.transaction.expose written }
  | .committing transaction computed => .committing (transaction.expose written) computed
  | phase => phase

def Caller.expose (written : List Key) (caller : Caller Item Op Answer Result Call) :
    Caller Item Op Answer Result Call := { caller with phase := caller.phase.expose written }

/-- A commit remembers the caller, its transaction and the result that the attempt computed. -/
structure Commit (Item : Type) {Key : Type} [Keyed Item Key] (Result : Type) where
  caller : Nat
  transaction : Transaction Item
  computed : Result

/-- The callers with the committed store and the commits that led to it, the last one first. -/
structure Callers (Item : Type) {Key : Type} [Keyed Item Key] (Op : Type) (Answer : Op → Type)
    (Result Call : Type) where
  committed : Database Item
  callers : List (Caller Item Op Answer Result Call)
  commits : List (Commit Item Result)

def Callers.empty : Callers Item Op Answer Result Call := ⟨Database.empty, [], []⟩

/-- The actions of one caller that leave the committed store alone. -/
inductive Action (Seed Error : Type) where
  | attempt (seed : Seed)
  | step
  | settle
  | abort
  | throw
  | respond
  | giveUp (error : Error)
  | reject

inductive CallEvent (Call Seed Error : Type) where
  | arrive (call : Call)
  | act (index : Nat) (action : Action Seed Error)
  | commit (index : Nat)

/-- What the callers hold together is what the commits wrote, each over the ones before it. -/
def replay [DecidableEq Key] : List (Commit Item Result) → Database Item
  | [] => Database.empty
  | commit :: earlier =>
      (replay earlier).install commit.transaction.view commit.transaction.written

namespace Procedure
variable (procedure : Procedure Item Op Answer Error Input Result Call Seed)

/-- One action of a caller.
A thrown error ends the attempt, and the loop starts another one or gives up. -/
def act (committed : Database Item) (caller : Caller Item Op Answer Result Call) :
    Action Seed Error → Option (Caller Item Op Answer Result Call)
  | .attempt seed =>
      match caller.phase with
      | .waiting => some { caller with
          phase := .running ⟨Transaction.start committed,
            procedure.service.transaction (procedure.input caller.call seed)⟩ }
      | _ => none
  | .step =>
      match caller.phase with
      | .running ⟨transaction, .call op next⟩ =>
          match procedure.service.advance committed transaction op next with
          | some attempt => some { caller with phase := .running attempt }
          | none => some { caller with phase := .waiting }
      | _ => none
  | .settle =>
      match caller.phase with
      | .running ⟨transaction, .pure computed⟩ => some { caller with
          result := computed
          phase := if procedure.service.commits computed then .committing transaction computed
            else .aborting }
      | _ => none
  | .abort =>
      match caller.phase with
      | .aborting => some { caller with phase := .resolved }
      | _ => none
  | .throw =>
      match caller.phase with
      | .running _ => some { caller with phase := .waiting }
      | .aborting => some { caller with phase := .waiting }
      | .committing _ _ => some { caller with phase := .waiting }
      | _ => none
  | .respond =>
      match caller.phase with
      | .resolved => some { caller with phase := .returned caller.result }
      | _ => none
  | .giveUp error =>
      match caller.phase with
      | .waiting => some { caller with phase := .returned (procedure.failure caller.call error) }
      | _ => none
  | .reject =>
      match caller.phase with
      | .waiting => some { caller with phase := .rejected }
      | _ => none

variable [DecidableEq Key]

/-- The event is refused when the caller is not in the phase it needs. -/
def next (system : Callers Item Op Answer Result Call) :
    CallEvent Call Seed Error → Option (Callers Item Op Answer Result Call)
  | .arrive call =>
      some { system with
        callers := system.callers ++ [⟨call, procedure.initial call, .waiting⟩] }
  | .act index action =>
      match system.callers[index]? with
      | some caller =>
          match procedure.act system.committed caller action with
          | some moved => some { system with callers := system.callers.set index moved }
          | none => none
      | none => none
  | .commit index =>
      match system.callers[index]? with
      | some ⟨call, result, .committing transaction computed⟩ =>
          if transaction.Compatible then
            some {
              committed := system.committed.install transaction.view transaction.written
              callers := (system.callers.map (Caller.expose transaction.written)).set index
                ⟨call, result, .resolved⟩
              commits := ⟨index, transaction, computed⟩ :: system.commits }
          else none
      | _ => none

/-- The events run in order and each one is accepted. -/
def runEvents (system : Callers Item Op Answer Result Call) :
    List (CallEvent Call Seed Error) → Option (Callers Item Op Answer Result Call)
  | [] => some system
  | event :: rest =>
      match procedure.next system event with
      | some following => runEvents following rest
      | none => none

end Procedure

/-- The commits of one caller. -/
def commitsOf (commits : List (Commit Item Result)) (index : Nat) : List (Commit Item Result) :=
  commits.filter (·.caller = index)

theorem commitsOf_cons_self (commits : List (Commit Item Result)) (commit : Commit Item Result) :
    commitsOf (commit :: commits) commit.caller = commit :: commitsOf commits commit.caller :=
  List.filter_cons_of_pos (by simp)

theorem commitsOf_cons_ne (commits : List (Commit Item Result)) (commit : Commit Item Result)
    {index : Nat} (different : commit.caller ≠ index) :
    commitsOf (commit :: commits) index = commitsOf commits index :=
  List.filter_cons_of_neg (by simpa using different)

section Soundness
variable (procedure : Procedure Item Op Answer Error Input Result Call Seed)

/-- A success has one commit, which computed it, and a failure has none. -/
def Procedure.Decided (response : Result) (own : List (Commit Item Result)) : Prop :=
  if procedure.service.commits response then ∃ commit, own = [commit] ∧ commit.computed = response
  else own = []

/-- What a caller has committed so far agrees with its phase. -/
inductive Procedure.Sound (committed : Database Item) :
    List (Commit Item Result) → Caller Item Op Answer Result Call → Prop where
  | waiting {call : Call} {result : Result} : Sound committed [] ⟨call, result, .waiting⟩
  | running {call : Call} {result : Result} {attempt : Attempt Item Op Answer Result} (seed : Seed)
      (follows : Follows procedure.service committed (procedure.input call seed) attempt) :
      Sound committed [] ⟨call, result, .running attempt⟩
  | aborting {call : Call} {result : Result} (fails : procedure.service.commits result = false) :
      Sound committed [] ⟨call, result, .aborting⟩
  | committing {call : Call} {transaction : Transaction Item} {computed : Result} (seed : Seed)
      (follows : Follows procedure.service committed (procedure.input call seed)
        ⟨transaction, .pure computed⟩)
      (succeeds : procedure.service.commits computed = true) :
      Sound committed [] ⟨call, computed, .committing transaction computed⟩
  | resolved {call : Call} {result : Result} {own : List (Commit Item Result)}
      (decided : procedure.Decided result own) : Sound committed own ⟨call, result, .resolved⟩
  | returned {call : Call} {result response : Result} {own : List (Commit Item Result)}
      (decided : procedure.Decided response own) :
      Sound committed own ⟨call, result, .returned response⟩
  | rejected {call : Call} {result : Result} : Sound committed [] ⟨call, result, .rejected⟩

variable {procedure} {committed : Database Item} {own : List (Commit Item Result)}
  {caller moved : Caller Item Op Answer Result Call}

theorem Procedure.decided_fails {response : Result}
    (fails : procedure.service.commits response = false) :
    procedure.Decided response ([] : List (Commit Item Result)) := by
  unfold Procedure.Decided
  rw [fails]
  rfl

/-- Every action keeps a caller sound. -/
theorem Procedure.Sound.act (sound : procedure.Sound committed own caller)
    {action : Action Seed Error} (done : procedure.act committed caller action = some moved) :
    procedure.Sound committed own moved := by
  cases action with
  | attempt seed =>
      cases sound <;> cases done
      exact .running seed (follows_begin procedure.service committed _)
  | step =>
      cases sound with
      | running seed follows =>
          rename_i call result attempt
          obtain ⟨transaction, program⟩ := attempt
          cases program with
          | pure computed => cases done
          | call op next =>
              simp only [Procedure.act] at done
              split at done
              · rename_i advanced
                cases done
                exact .running seed (follows.advance advanced)
              · cases done
                exact .waiting
      | _ => cases done
  | settle =>
      cases sound with
      | running seed follows =>
          rename_i call result attempt
          obtain ⟨transaction, program⟩ := attempt
          cases program with
          | pure computed =>
              cases commits : procedure.service.commits computed with
              | true =>
                  simp only [Procedure.act, commits] at done
                  cases done
                  exact .committing seed follows commits
              | false =>
                  simp only [Procedure.act, commits] at done
                  cases done
                  exact .aborting commits
          | call op next => cases done
      | _ => cases done
  | abort =>
      cases sound with
      | aborting fails =>
          cases done
          exact .resolved (Procedure.decided_fails fails)
      | _ => cases done
  | throw =>
      cases sound <;> cases done <;> exact .waiting
  | respond =>
      cases sound with
      | resolved decided =>
          cases done
          exact .returned decided
      | _ => cases done
  | giveUp error =>
      cases sound <;> cases done
      exact .returned (Procedure.decided_fails (procedure.failure_fails _ error))
  | reject =>
      cases sound <;> cases done
      exact .rejected

variable [DecidableEq Key]

/-- The commit of another caller keeps a caller sound. -/
theorem Procedure.Sound.expose (sound : procedure.Sound committed own caller)
    (view : Database Item) (written : List Key) :
    procedure.Sound (committed.install view written) own (caller.expose written) := by
  cases sound with
  | waiting => exact .waiting
  | running seed follows => exact .running seed (follows.expose view written)
  | aborting fails => exact .aborting fails
  | committing seed follows succeeds =>
      exact .committing seed (follows.expose view written) succeeds
  | resolved decided => exact .resolved decided
  | returned decided => exact .returned decided
  | rejected => exact .rejected

/-- The commits are the whole story of the committed store, and every caller agrees with its own. -/
structure Procedure.Consistent
    (procedure : Procedure Item Op Answer Error Input Result Call Seed)
    (system : Callers Item Op Answer Result Call) : Prop where
  replayed : system.committed = replay system.commits
  known : ∀ commit ∈ system.commits, commit.caller < system.callers.length
  sound : ∀ index caller, system.callers[index]? = some caller →
    procedure.Sound system.committed (commitsOf system.commits index) caller

variable {system following : Callers Item Op Answer Result Call}

theorem Procedure.Consistent.arrive (consistent : procedure.Consistent system) (call : Call) :
    procedure.Consistent { system with
      callers := system.callers ++ [⟨call, procedure.initial call, .waiting⟩] } where
  replayed := consistent.replayed
  known commit inside := by
    rw [List.length_append]
    have before := consistent.known commit inside
    omega
  sound index caller present := by
    rcases Nat.lt_or_ge index system.callers.length with old | new
    · rw [List.getElem?_append_left old] at present
      exact consistent.sound index caller present
    · have none : commitsOf system.commits index = [] := by
        apply List.filter_eq_nil_iff.mpr
        intro commit inside
        have before := consistent.known commit inside
        simp only [decide_eq_true_eq]
        omega
      rw [List.getElem?_append_right new, List.getElem?_singleton] at present
      split at present
      · cases present
        change procedure.Sound _ (commitsOf system.commits index) _
        rw [none]
        exact .waiting
      · cases present

theorem Procedure.Consistent.act (consistent : procedure.Consistent system) {index : Nat}
    {caller moved : Caller Item Op Answer Result Call} {action : Action Seed Error}
    (present : system.callers[index]? = some caller)
    (done : procedure.act system.committed caller action = some moved) :
    procedure.Consistent { system with callers := system.callers.set index moved } where
  replayed := consistent.replayed
  known commit inside := by
    rw [List.length_set]
    exact consistent.known commit inside
  sound other another otherPresent := by
    by_cases same : index = other
    · subst same
      obtain rfl : moved = another := by
        rw [List.getElem?_set_self (List.getElem?_eq_some_iff.mp present).1] at otherPresent
        exact Option.some.inj otherPresent
      exact (consistent.sound index caller present).act done
    · rw [List.getElem?_set_ne same] at otherPresent
      exact consistent.sound other another otherPresent

theorem Procedure.Consistent.commit (consistent : procedure.Consistent system) {index : Nat}
    {call : Call} {result computed : Result} {transaction : Transaction Item}
    (present : system.callers[index]? = some ⟨call, result, .committing transaction computed⟩) :
    procedure.Consistent {
      committed := system.committed.install transaction.view transaction.written
      callers := (system.callers.map (Caller.expose transaction.written)).set index
        ⟨call, result, .resolved⟩
      commits := ⟨index, transaction, computed⟩ :: system.commits } where
  replayed := by rw [consistent.replayed, replay]
  known commit inside := by
    rw [List.length_set, List.length_map]
    rcases List.mem_cons.mp inside with rfl | old
    · exact (List.getElem?_eq_some_iff.mp present).1
    · exact consistent.known commit old
  sound other caller otherPresent := by
    have bound := (List.getElem?_eq_some_iff.mp present).1
    by_cases same : index = other
    · subst same
      rw [List.getElem?_set_self (by rwa [List.length_map])] at otherPresent
      cases otherPresent
      rw [commitsOf_cons_self system.commits ⟨index, transaction, computed⟩]
      have sound := consistent.sound index _ present
      generalize commitsOf system.commits index = own at sound ⊢
      cases sound with
      | committing seed follows succeeds =>
          apply Procedure.Sound.resolved
          unfold Procedure.Decided
          rw [if_pos succeeds]
          exact ⟨_, rfl, rfl⟩
    · rw [List.getElem?_set_ne same, List.getElem?_map] at otherPresent
      obtain ⟨before, beforePresent, rfl⟩ := Option.map_eq_some_iff.mp otherPresent
      rw [commitsOf_cons_ne system.commits ⟨index, transaction, computed⟩ same]
      exact (consistent.sound other before beforePresent).expose _ _

theorem Procedure.Consistent.next (consistent : procedure.Consistent system)
    {event : CallEvent Call Seed Error} (moved : procedure.next system event = some following) :
    procedure.Consistent following := by
  cases event with
  | arrive call =>
      cases moved
      exact consistent.arrive call
  | act index action =>
      simp only [Procedure.next] at moved
      split at moved
      · rename_i caller present
        split at moved
        · rename_i changed done
          cases moved
          exact consistent.act present done
        · cases moved
      · cases moved
  | commit index =>
      simp only [Procedure.next] at moved
      split at moved
      · rename_i call result transaction computed present
        split at moved
        · cases moved
          exact consistent.commit present
        · cases moved
      · cases moved

theorem Procedure.consistent_empty : procedure.Consistent Callers.empty where
  replayed := rfl
  known commit inside := absurd inside List.not_mem_nil
  sound index caller present := by cases present

/-- Every run of the callers is consistent. -/
theorem Procedure.Consistent.runEvents {events : List (CallEvent Call Seed Error)}
    (consistent : procedure.Consistent system)
    (done : procedure.runEvents system events = some following) :
    procedure.Consistent following := by
  induction events generalizing system with
  | nil => exact (Option.some.inj done) ▸ consistent
  | cons event rest ih =>
      unfold Procedure.runEvents at done
      split at done
      · rename_i middle moved
        exact ih (consistent.next moved) done
      · cases done

theorem Procedure.commits_suffix_next {event : CallEvent Call Seed Error}
    (moved : procedure.next system event = some following) :
    system.commits <:+ following.commits := by
  cases event with
  | arrive call =>
      cases moved
      exact List.suffix_rfl
  | act index action =>
      simp only [Procedure.next] at moved
      split at moved
      · split at moved
        · cases moved
          exact List.suffix_rfl
        · cases moved
      · cases moved
  | commit index =>
      simp only [Procedure.next] at moved
      split at moved
      · split at moved
        · cases moved
          exact List.suffix_cons _ _
        · cases moved
      · cases moved

/-- A commit stays in the story for good. -/
theorem Procedure.commits_suffix {events : List (CallEvent Call Seed Error)}
    (done : procedure.runEvents system events = some following) :
    system.commits <:+ following.commits := by
  induction events generalizing system with
  | nil => exact (Option.some.inj done) ▸ List.suffix_rfl
  | cons event rest ih =>
      unfold Procedure.runEvents at done
      split at done
      · rename_i middle moved
        exact (Procedure.commits_suffix_next moved).trans (ih done)
      · cases done

/-- What every finished attempt keeps holds of every committed store. -/
theorem Procedure.Consistent.committed_holds {holds : Database Item → Prop}
    {events : List (CallEvent Call Seed Error)}
    (keeps : ∀ committed input transaction computed, holds committed →
      Follows procedure.service committed input ⟨transaction, .pure computed⟩ →
      transaction.Compatible → holds (committed.install transaction.view transaction.written))
    (consistent : procedure.Consistent system) (before : holds system.committed)
    (done : procedure.runEvents system events = some following) : holds following.committed := by
  induction events generalizing system with
  | nil => exact (Option.some.inj done) ▸ before
  | cons event rest ih =>
      unfold Procedure.runEvents at done
      split at done
      · rename_i middle moved
        apply ih (consistent.next moved) _ done
        cases event with
        | arrive call =>
            cases moved
            exact before
        | act index action =>
            simp only [Procedure.next] at moved
            split at moved
            · split at moved
              · cases moved
                exact before
              · cases moved
            · cases moved
        | commit index =>
            simp only [Procedure.next] at moved
            split at moved
            · rename_i call result transaction computed present
              split at moved
              · rename_i compatible
                cases moved
                have sound := consistent.sound index _ present
                generalize commitsOf system.commits index = own at sound
                cases sound with
                | committing seed follows succeeds =>
                    exact keeps _ _ transaction _ before follows compatible
              · cases moved
            · cases moved
      · cases done

end Soundness
end Meadowlark.Systems
