import Meadowlark.Construction.Mongo.Sessions

namespace Meadowlark.Mongo
open Meadowlark.Core Systems

section Calls
variable [NodeRuntime] {request : RepositoryRequest} {execution : Execution}
  {executions : List Execution}

/-- One execution of the callback ends without an exception, and so does its abort or commit. -/
def Execution.Completes (request : RepositoryRequest) (execution : Execution) : Prop :=
  (∃ result, execution.run (repositoryTransaction (request.attempt execution.generated)) =
    .ok result) ∧ execution.endError = none

/-- The outcome of an execution that completes. -/
theorem withTransaction_completes (completes : execution.Completes request) :
    ∃ result state, request.withTransaction execution executions = (.ok result, state) := by
  obtain ⟨⟨result, done⟩, ended⟩ := completes
  have called : ∃ state, request.callback execution = (.ok result, state) := by
    unfold RepositoryRequest.callback
    rw [done, ended]
    simp only [TransactionState.abortTransaction]
    split
    · exact ⟨_, rfl⟩
    · exact ⟨_, rfl⟩
  obtain ⟨state, called⟩ := called
  cases executions with
  | nil =>
      unfold RepositoryRequest.withTransaction
      rw [called, ended]
      cases state <;> exact ⟨_, _, rfl⟩
  | cons next rest =>
      unfold RepositoryRequest.withTransaction
      rw [called, ended]
      cases state <;> exact ⟨_, _, rfl⟩

/-- The callback of an execution that does not complete throws, or its commit does. -/
theorem callback_throws (incomplete : ¬ execution.Completes request) :
    (∃ error state, request.callback execution = (.error error, state)) ∨
      ∃ result error, request.callback execution = (.ok result, .inProgress) ∧
        execution.endError = some error := by
  unfold RepositoryRequest.callback
  cases done : execution.run (repositoryTransaction (request.attempt execution.generated)) with
  | error error => exact .inl ⟨error, _, rfl⟩
  | ok result =>
      cases ended : execution.endError with
      | none => exact absurd ⟨⟨result, done⟩, ended⟩ incomplete
      | some error =>
          by_cases succeeded : result.succeeded = true
          · right
            exact ⟨result, error, by simp [succeeded], rfl⟩
          · left
            exact ⟨error, .aborted, by simp [succeeded, TransactionState.abortTransaction]⟩

/-- Without a further execution the error is thrown, and the transaction has ended. -/
theorem withTransaction_throws (incomplete : ¬ execution.Completes request) :
    ∃ error state, request.withTransaction execution [] = (.error error, state) ∧
      state ≠ .inProgress := by
  unfold RepositoryRequest.withTransaction
  rcases callback_throws incomplete with ⟨error, state, called⟩ | ⟨result, error, called, ended⟩
  · rw [called]
    exact ⟨error, .aborted, rfl, nofun⟩
  · rw [called, ended]
    exact ⟨error, .committed, rfl, nofun⟩

theorem withTransaction_repeats {next : Execution} (incomplete : ¬ execution.Completes request) :
    request.withTransaction execution (next :: executions) =
      request.withTransaction next executions := by
  conv_lhs => unfold RepositoryRequest.withTransaction
  rcases callback_throws incomplete with ⟨error, state, called⟩ | ⟨result, error, called, ended⟩
  · rw [called]
  · rw [called, ended]

/-- One call of `withTransaction` resolves when one of its executions completes.
Otherwise it throws after its transaction has ended. -/
theorem withTransaction_cases (request : RepositoryRequest) (execution : Execution)
    (executions : List Execution) :
    ((∃ completed ∈ execution :: executions, completed.Completes request) ∧
        ∃ result state, request.withTransaction execution executions = (.ok result, state)) ∨
      ((¬ ∃ completed ∈ execution :: executions, completed.Completes request) ∧
        ∃ error state, request.withTransaction execution executions = (.error error, state) ∧
          state ≠ .inProgress) := by
  induction executions generalizing execution with
  | nil =>
      by_cases completes : execution.Completes request
      · exact .inl ⟨⟨execution, List.mem_cons_self, completes⟩, withTransaction_completes completes⟩
      · right
        refine ⟨?_, withTransaction_throws completes⟩
        rintro ⟨completed, inside, completedIs⟩
        rw [List.mem_singleton.mp inside] at completedIs
        exact completes completedIs
  | cons next rest inductionHypothesis =>
      by_cases completes : execution.Completes request
      · exact .inl ⟨⟨execution, List.mem_cons_self, completes⟩, withTransaction_completes completes⟩
      · rw [withTransaction_repeats completes, List.exists_mem_cons_iff, or_iff_right completes]
        exact inductionHypothesis next

/-- Some execution of the attempt completes. -/
def Executions.Completes (request : RepositoryRequest) (attempt : Executions) : Prop :=
  ∃ execution ∈ attempt.all, execution.Completes request

/-- The last attempt resolves when some attempt completes.
Otherwise it throws after its transaction has ended. -/
theorem lastAttempt_cases (request : RepositoryRequest) (attempt : Executions)
    (rest : List Executions) :
    ((∃ completed ∈ attempt :: rest, completed.Completes request) ∧
        ∃ result state, request.lastAttempt attempt rest = (.ok result, state)) ∨
      ((¬ ∃ completed ∈ attempt :: rest, completed.Completes request) ∧
        ∃ error state, request.lastAttempt attempt rest = (.error error, state) ∧
          state ≠ .inProgress) := by
  induction rest generalizing attempt with
  | nil =>
      have single : (∃ completed ∈ [attempt], completed.Completes request) ↔
          attempt.Completes request := by simp
      rw [single]
      exact withTransaction_cases request attempt.first attempt.repeats
  | cons next rest inductionHypothesis =>
      rw [List.exists_mem_cons_iff]
      unfold RepositoryRequest.lastAttempt
      rcases withTransaction_cases request attempt.first attempt.repeats with
        ⟨completes, result, state, done⟩ | ⟨incomplete, error, state, thrown, -⟩
      · rw [done]
        exact .inl ⟨.inl completes, result, state, rfl⟩
      · rw [thrown]
        have unfinished : ¬ attempt.Completes request := incomplete
        rw [or_iff_right unfinished]
        exact inductionHypothesis next

omit [NodeRuntime] in
/-- A transaction that has ended cannot be aborted. -/
theorem abortTransaction_ended {state : TransactionState} (ended : state ≠ .inProgress)
    (thrown : Option DriverError) : ∃ error, (state.abortTransaction thrown).1 = .error error := by
  cases state with
  | inProgress => exact absurd rfl ended
  | committed => exact ⟨_, rfl⟩
  | aborted => exact ⟨_, rfl⟩

/-- The promise resolves, and it reports the write conflict of a last attempt that has failed. -/
def Settles (request : RepositoryRequest) (mainError : List DriverError → DriverError)
    (attempt : Executions) (rest : List Executions) (abortError : Option DriverError) : Prop :=
  ∃ result, request.settle mainError attempt rest abortError = .ok result ∧
    ∀ error, (request.lastAttempt attempt rest).1 = .error error →
      error.codeName = "WriteConflict" → result = request.failure error

/-- A call settles as it should exactly when one execution of its callback completes. -/
theorem settles_iff (request : RepositoryRequest) (mainError : List DriverError → DriverError)
    (attempt : Executions) (rest : List Executions) (abortError : Option DriverError) :
    Settles request mainError attempt rest abortError ↔
      ∃ completed ∈ attempt :: rest, completed.Completes request := by
  unfold Settles RepositoryRequest.settle
  rcases lastAttempt_cases request attempt rest with
    ⟨completes, result, state, done⟩ | ⟨incomplete, error, state, thrown, ended⟩
  · rw [done]
    exact iff_of_true ⟨result, rfl, nofun⟩ completes
  · obtain ⟨refusal, refused⟩ := abortTransaction_ended ended abortError
    rw [thrown]
    simp only [refused]
    apply iff_of_false ?_ incomplete
    rintro ⟨result, resolved, -⟩
    cases resolved

end Calls

section Examples
open Core.Sample

private def conflicted : Execution where
  generated := documentUuid "000000000001"
  answers _ _ := .error ⟨"WriteConflict", "WriteConflict error"⟩
  endError := none

private def sessionUpsert : RepositoryRequest :=
  .upsert (upsertRequest (resource "School") "schoolId" "1" [] none 1 "client")

/-- The promise of an upsert whose only attempt meets a write conflict rejects. -/
theorem write_conflict_rejects :
    @RepositoryRequest.settle runtime sessionUpsert
        (fun errors => errors.headD ⟨"WriteConflict", "WriteConflict error"⟩) ⟨conflicted, []⟩ []
        none =
      .error ⟨"", "Cannot call abortTransaction twice"⟩ := by
  decide +kernel

end Examples
end Meadowlark.Mongo
