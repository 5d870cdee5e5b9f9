import Meadowlark.Construction.Mongo.Retries

namespace Meadowlark.Mongo
open Meadowlark.Core Systems

/-- What the driver does in one execution of the callback: the answer or the exception of every
call by its position, and the exception of the abort or of the commit. -/
structure Execution where
  generated : DocumentUuid
  answers : Nat → (call : Call) → Except DriverError call.Answer
  endError : Option DriverError

/-- The executions of the callback by one call of `withTransaction`. -/
structure Executions where
  first : Execution
  repeats : List Execution

def Executions.all (executions : Executions) : List Execution :=
  executions.first :: executions.repeats

def Execution.handler (execution : Execution) (call : Call) :
    StateT Nat (Except DriverError) call.Answer := fun position =>
  (execution.answers position call).map fun answer => (answer, position + 1)

/-- The program of the transaction against the answers of the driver. -/
def Execution.run {A : Type} (execution : Execution) (program : Session A) : Except DriverError A :=
  (program.interpret execution.handler 0).map Prod.fst

section Calls
variable [NodeRuntime]

/-- The callback ends the transaction itself when its result is a failure. -/
def RepositoryRequest.callback (request : RepositoryRequest) (execution : Execution) :
    Except DriverError RepositoryResult × TransactionState :=
  match execution.run (repositoryTransaction (request.attempt execution.generated)) with
  | .error error => (.error error, .inProgress)
  | .ok result =>
      if result.succeeded then (.ok result, .inProgress)
      else
        match TransactionState.inProgress.abortTransaction execution.endError with
        | (.ok (), state) => (.ok result, state)
        | (.error error, state) => (.error error, state)

/-- The driver commits what the callback has not ended.
It aborts a transaction whose callback throws, and it repeats the callback or throws the error. -/
def RepositoryRequest.withTransaction (request : RepositoryRequest) (execution : Execution) :
    List Execution → Except DriverError RepositoryResult × TransactionState
  | [] =>
      match request.callback execution, execution.endError with
      | (.error error, _), _ => (.error error, .aborted)
      | (.ok result, .inProgress), none => (.ok result, .committed)
      | (.ok _, .inProgress), some error => (.error error, .committed)
      | (.ok result, state), _ => (.ok result, state)
  | next :: rest =>
      match request.callback execution, execution.endError with
      | (.error _, _), _ => request.withTransaction next rest
      | (.ok result, .inProgress), none => (.ok result, .committed)
      | (.ok _, .inProgress), some _ => request.withTransaction next rest
      | (.ok result, state), _ => (.ok result, state)

/-- The last attempt that `retry` makes: the first one that does not throw, if there is one. -/
def RepositoryRequest.lastAttempt (request : RepositoryRequest) (attempt : Executions) :
    List Executions → Except DriverError RepositoryResult × TransactionState
  | [] => request.withTransaction attempt.first attempt.repeats
  | next :: rest =>
      match request.withTransaction attempt.first attempt.repeats with
      | (.ok result, state) => (.ok result, state)
      | (.error _, _) => request.lastAttempt next rest

/-- The errors of the attempts. -/
def RepositoryRequest.thrown (request : RepositoryRequest) (attempts : List Executions) :
    List DriverError :=
  attempts.filterMap fun attempt =>
    match (request.withTransaction attempt.first attempt.repeats).1 with
    | .ok _ => none
    | .error error => some error

/-- The promise of a repository function: a result when it resolves, an error when it rejects.
The catch block ends the transaction before it looks at the error that `retry` throws. -/
def RepositoryRequest.settle (request : RepositoryRequest)
    (mainError : List DriverError → DriverError) (attempt : Executions) (rest : List Executions)
    (abortError : Option DriverError) : Except DriverError RepositoryResult :=
  match request.lastAttempt attempt rest with
  | (.ok result, _) => .ok result
  | (.error _, state) =>
      match (state.abortTransaction abortError).1 with
      | .error error => .error error
      | .ok () => .ok (request.failure (mainError (request.thrown (attempt :: rest))))

end Calls
end Meadowlark.Mongo
