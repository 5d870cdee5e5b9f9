import Meadowlark.Systems.SnapshotLogic

namespace Meadowlark.Systems
variable {Item Key Op Error Input Result : Type} {Answer : Op → Type} [Keyed Item Key]

/-- The protocol that restricts nothing. -/
def Protocol.free : Protocol Item Op where
  allowsCall _ _ _ := True
  allowsCommit _ _ := True
  promise _ _ _ := True
  invariant _ _ := True
  settled _ _ := True

/-- The attempt still meets every stable postcondition of its transaction function. -/
structure Follows (service : Service Item Op Answer Error Input Result) (committed : Database Item)
    (input : Input) (attempt : Attempt Item Op Answer Result) : Prop where
  aligned : attempt.transaction.Aligned committed
  continues (post : Result → Database Item → Transaction Item → Prop)
    (stable : ∀ value, (Protocol.free : Protocol Item Op).Stable (post value))
    (meets : ∀ start, Protocol.free.wp service.driver post (service.transaction input) start
      (Transaction.start start)) :
    Protocol.free.wp service.driver post attempt.program committed attempt.transaction

section Attempts
variable {service : Service Item Op Answer Error Input Result} {committed : Database Item}
  {input : Input} {attempt : Attempt Item Op Answer Result}

theorem follows_begin (service : Service Item Op Answer Error Input Result)
    (committed : Database Item) (input : Input) :
    Follows service committed input
      ⟨Transaction.start committed, service.transaction input⟩ where
  aligned := Transaction.aligned_start committed
  continues _ _ meets := meets committed

theorem Follows.advance {transaction : Transaction Item} {op : Op}
    {next : Answer op → Program Op Answer Result}
    (follows : Follows service committed input ⟨transaction, .call op next⟩)
    (moved : service.advance committed transaction op next = some attempt) :
    Follows service committed input attempt where
  aligned := (Service.advance_aligned follows.aligned moved).2
  continues post stable meets :=
    Service.advance_wp follows.aligned (follows.continues post stable meets) trivial moved

theorem Follows.expose [DecidableEq Key] (follows : Follows service committed input attempt)
    (view : Database Item) (written : List Key) :
    Follows service (committed.install view written) input
      { attempt with transaction := attempt.transaction.expose written } where
  aligned := follows.aligned.install view written
  continues post stable meets :=
    Protocol.wp_stable stable (follows.continues post stable meets) (.commit trivial (.refl _ _))

/-- A call in the session moves the view of its attempt. -/
theorem Service.advance_inSession {transaction : Transaction Item} {op : Op}
    {next : Answer op → Program Op Answer Result} (inside : service.driver.inSession op = true)
    (moved : service.advance committed transaction op next = some attempt) :
    ∃ view written answer,
      service.driver.perform op transaction.view = .ok (view, written, answer) ∧
        attempt = ⟨transaction.advance view written, next answer⟩ := by
  unfold Service.advance at moved
  rw [if_pos inside] at moved
  split at moved
  · cases moved
  · rename_i view written answer done
    exact ⟨view, written, answer, done, (Option.some.inj moved).symm⟩

/-- A finished attempt meets the postconditions. -/
theorem Follows.finished {transaction : Transaction Item} {result : Result}
    (follows : Follows service committed input ⟨transaction, .pure result⟩)
    {post : Result → Database Item → Transaction Item → Prop}
    (stable : ∀ value, (Protocol.free : Protocol Item Op).Stable (post value))
    (meets : ∀ start, Protocol.free.wp service.driver post (service.transaction input) start
      (Transaction.start start)) : post result committed transaction :=
  follows.continues post stable meets

end Attempts

section Lists
variable {First Second : Type} {related : First → Second → Prop} {firsts : List First}
  {seconds : List Second}

theorem forall₂_eraseIdx (all : List.Forall₂ related firsts seconds) (index : Nat) :
    List.Forall₂ related (firsts.eraseIdx index) (seconds.eraseIdx index) := by
  induction all generalizing index with
  | nil => exact .nil
  | cons first rest ih =>
      cases index with
      | zero => exact rest
      | succ index => exact .cons first (ih index)

theorem forall₂_set (all : List.Forall₂ related firsts seconds) {index : Nat} {old new : Second}
    (present : seconds[index]? = some old) (replaced : ∀ first, related first old → related first new) :
    List.Forall₂ related firsts (seconds.set index new) := by
  induction all generalizing index with
  | nil => cases present
  | cons first rest ih =>
      cases index with
      | zero =>
          cases present
          exact .cons (replaced _ first) rest
      | succ index => exact .cons first (ih present)

end Lists

section Runs
variable [DecidableEq Key] (service : Service Item Op Answer Error Input Result)

def Event.begins : Event Input → List Input
  | .begin input => [input]
  | _ => []

/-- The inputs of the attempts in progress after an event. -/
def Service.relabel (system : System Item Op Answer Result) (labels : List Input) :
    Event Input → List Input
  | .begin input => labels ++ [input]
  | .step index =>
      match system.attempts[index]? with
      | some ⟨transaction, .call op next⟩ =>
          match service.advance system.committed transaction op next with
          | some _ => labels
          | none => labels.eraseIdx index
      | _ => labels
  | .commit index => labels.eraseIdx index
  | .abort index => labels.eraseIdx index

/-- The events lead from the empty store to a system, whose attempts carry their inputs. -/
inductive Service.Labelled : System Item Op Answer Result → List Input → List Input → Prop where
  | empty : Labelled System.empty [] []
  | next {system following : System Item Op Answer Result} {labels begun : List Input}
      {event : Event Input} (reached : Labelled system labels begun)
      (moved : service.next system event = some following) :
      Labelled following (service.relabel system labels event) (begun ++ event.begins)

variable {service} {system following : System Item Op Answer Result} {labels begun : List Input}

theorem Service.Labelled.runEvents {events : List (Event Input)}
    (reached : service.Labelled system labels begun)
    (done : service.runEvents system events = some following) :
    ∃ labels, service.Labelled following labels (begun ++ events.flatMap Event.begins) := by
  induction events generalizing system labels begun with
  | nil =>
      obtain rfl := Option.some.inj done
      exact ⟨labels, by simpa using reached⟩
  | cons event rest ih =>
      unfold Service.runEvents at done
      split at done
      · rename_i middle moved
        obtain ⟨last, labelled⟩ := ih (reached.next moved) done
        exact ⟨last, by simpa [List.append_assoc] using labelled⟩
      · cases done

/-- Only a commit changes the committed store. -/
theorem Service.next_cases {event : Event Input} (moved : service.next system event = some following) :
    following.committed = system.committed ∨
      ∃ index transaction result, event = .commit index ∧
        system.attempts[index]? = some ⟨transaction, .pure result⟩ ∧
        service.commits result = true ∧ transaction.Compatible ∧
        following.committed = system.committed.install transaction.view transaction.written := by
  cases event with
  | begin input =>
      cases moved
      exact .inl rfl
  | step index =>
      simp only [Service.next] at moved
      split at moved
      · split at moved <;> cases moved <;> exact .inl rfl
      · cases moved
  | commit index =>
      simp only [Service.next] at moved
      split at moved
      · rename_i transaction result present
        split at moved
        · rename_i possible
          cases moved
          exact .inr ⟨index, transaction, result, rfl, present, possible.1, possible.2, rfl⟩
        · cases moved
      · cases moved
  | abort index =>
      simp only [Service.next] at moved
      split at moved
      · cases moved
        exact .inl rfl
      · cases moved

omit [DecidableEq Key] in
/-- Only a new attempt adds a label. -/
theorem Service.relabel_sublist (system : System Item Op Answer Result) (labels : List Input)
    (event : Event Input) :
    (service.relabel system labels event).Sublist (labels ++ event.begins) := by
  have same : labels.Sublist (labels ++ []) := by
    rw [List.append_nil]
  have erased : ∀ index, (labels.eraseIdx index).Sublist (labels ++ []) := fun index =>
    (List.eraseIdx_sublist _ _).trans same
  cases event with
  | begin input => exact List.Sublist.refl _
  | step index =>
      simp only [Service.relabel]
      split
      · split
        · exact same
        · exact erased index
      · exact same
  | commit index => exact erased index
  | abort index => exact erased index

/-- Every attempt in progress has begun. -/
theorem Service.Labelled.sublist (reached : service.Labelled system labels begun) :
    labels.Sublist begun := by
  induction reached with
  | empty => exact .slnil
  | @next system following labels begun event reached moved ih =>
      have added := ih.append (List.Sublist.refl event.begins)
      exact (Service.relabel_sublist system labels event).trans added

/-- Every attempt in progress follows its input. -/
theorem Service.Labelled.follows (reached : service.Labelled system labels begun) :
    List.Forall₂ (Follows service system.committed) labels system.attempts := by
  induction reached with
  | empty => exact .nil
  | @next system following labels begun event reached moved ih =>
      cases event with
      | begin input =>
          cases moved
          exact List.rel_append ih (.cons (follows_begin service system.committed input) .nil)
      | step index =>
          simp only [Service.next] at moved
          split at moved
          · rename_i transaction op next present
            cases advanced : service.advance system.committed transaction op next with
            | some attempt =>
                simp only [advanced] at moved
                cases moved
                simp only [Service.relabel, present, advanced]
                exact forall₂_set ih present fun _ follows => follows.advance advanced
            | none =>
                simp only [advanced] at moved
                cases moved
                simp only [Service.relabel, present, advanced]
                exact forall₂_eraseIdx ih index
          · cases moved
      | commit index =>
          simp only [Service.next] at moved
          split at moved
          · rename_i transaction result present
            split at moved
            · cases moved
              apply List.forall₂_map_right_iff.mpr
              exact (forall₂_eraseIdx ih index).imp fun _ _ follows => follows.expose _ _
            · cases moved
          · cases moved
      | abort index =>
          simp only [Service.next] at moved
          split at moved
          · cases moved
            exact forall₂_eraseIdx ih index
          · cases moved

/-- The attempt at an index has the input at that index. -/
theorem Service.Labelled.follows_at (reached : service.Labelled system labels begun) {index : Nat}
    {attempt : Attempt Item Op Answer Result} (present : system.attempts[index]? = some attempt) :
    ∃ input, labels[index]? = some input ∧ Follows service system.committed input attempt := by
  have all := reached.follows
  obtain ⟨inside, same⟩ := List.getElem?_eq_some_iff.mp present
  have bound : index < labels.length := all.length_eq ▸ inside
  refine ⟨labels[index], List.getElem?_eq_getElem bound, ?_⟩
  rw [← same]
  exact all.get bound inside

/-- A commit returns the result of its attempt. -/
def Event.returns (system : System Item Op Answer Result) : Event Input → List Result
  | .commit index =>
      match system.attempts[index]? with
      | some ⟨_, .pure result⟩ => [result]
      | _ => []
  | _ => []

variable (service) in
/-- Allowed events lead from the empty store to a system after the listed results. -/
inductive Service.Answered (allowed : System Item Op Answer Result → Event Input → Prop) :
    System Item Op Answer Result → List Result → Prop where
  | empty : Answered allowed System.empty []
  | next {system following : System Item Op Answer Result} {results : List Result}
      {event : Event Input} (reached : Answered allowed system results)
      (permitted : allowed system event) (moved : service.next system event = some following) :
      Answered allowed following (results ++ event.returns system)

variable {allowed : System Item Op Answer Result → Event Input → Prop} {results : List Result}

section Executable
variable (service) (allowed) [∀ system event, Decidable (allowed system event)]

/-- The events run in order as long as they are allowed, and their results are collected. -/
def Service.collect (system : System Item Op Answer Result) :
    List (Event Input) → Option (System Item Op Answer Result × List Result)
  | [] => some (system, [])
  | event :: rest =>
      if allowed system event then
        (service.next system event).bind fun middle =>
          (Service.collect middle rest).map fun last => (last.1, event.returns system ++ last.2)
      else none

variable {service allowed}

theorem Service.Answered.collect {events : List (Event Input)} {added : List Result}
    (reached : service.Answered allowed system results)
    (done : service.collect allowed system events = some (following, added)) :
    service.Answered allowed following (results ++ added) := by
  induction events generalizing system results added with
  | nil =>
      cases done
      simpa using reached
  | cons event rest ih =>
      unfold Service.collect at done
      split at done
      · rename_i permitted
        obtain ⟨middle, moved, later⟩ := Option.bind_eq_some_iff.mp done
        obtain ⟨last, collected, same⟩ := Option.map_eq_some_iff.mp later
        cases same
        rw [← List.append_assoc]
        exact ih (reached.next permitted moved) collected
      · cases done

end Executable

end Runs
end Meadowlark.Systems
