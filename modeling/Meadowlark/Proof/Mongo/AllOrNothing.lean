import Meadowlark.Construction.Mongo.Retries
import Meadowlark.Proof.Mongo.ConcurrentUuids

namespace Meadowlark.Mongo
open Meadowlark.Core Systems

/-- No concurrency record is visible. -/
def Unlocked (store : Store) : Prop :=
  ∀ documentUuid, .concurrency documentUuid ∉ store.items

section Runs
variable [NodeRuntime] {system : Callers Record Call Call.Answer RepositoryResult RepositoryRequest}
  {events : List (CallEvent RepositoryRequest DocumentUuid DriverError)}

/-- A finished attempt brings no concurrency record into the committed store. -/
theorem Unlocked.commit {committed : Store} (unlocked : Unlocked committed) {call : RepositoryCall}
    {transaction : Transaction Record} {computed : RepositoryResult}
    (follows : Follows repository committed call ⟨transaction, .pure computed⟩)
    (compatible : transaction.Compatible) :
    Unlocked (committed.install transaction.view transaction.written) := by
  have effect := follows.finished (fun _ => netEffect_stable call.generated?)
    (repositoryTransaction_netEffect call)
  have change := effect.commit follows.aligned compatible
  intro documentUuid stored
  exact unlocked documentUuid (change.unlocked documentUuid stored)

theorem Unlocked.runEvents
    (done : repositoryProcedure.runEvents Callers.empty events = some system) :
    Unlocked system.committed := by
  apply Procedure.Consistent.committed_holds _ Procedure.consistent_empty _ done
  · exact fun committed call transaction computed unlocked follows compatible =>
      unlocked.commit follows compatible
  · exact fun documentUuid stored => absurd stored List.not_mem_nil

/-- At every point of a run the committed store consists of what the commits up to it wrote.
A call that returned a success has exactly one commit, which computed its response, and a call that
returned anything else has none. -/
theorem calls_all_or_nothing {more : List (CallEvent RepositoryRequest DocumentUuid DriverError)}
    {following : Callers Record Call Call.Answer RepositoryResult RepositoryRequest}
    (done : repositoryProcedure.runEvents Callers.empty events = some system)
    (rest : repositoryProcedure.runEvents system more = some following) :
    system.committed = replay system.commits ∧ system.commits <:+ following.commits ∧
      Unlocked system.committed ∧
      ∀ index caller response, following.callers[index]? = some caller →
        caller.phase = .returned response →
          (response.succeeded = false → commitsOf following.commits index = []) ∧
          (response.succeeded = true → ∃ commit, commitsOf following.commits index = [commit] ∧
            commit.computed = response) := by
  have consistent := Procedure.consistent_empty.runEvents done
  refine ⟨consistent.replayed, Procedure.commits_suffix rest, Unlocked.runEvents done, ?_⟩
  intro index caller response present returned
  have sound := (consistent.runEvents rest).sound index caller present
  generalize commitsOf following.commits index = own at sound ⊢
  cases sound with
  | returned decided =>
      cases returned
      unfold Procedure.Decided at decided
      change (if response.succeeded then _ else _) at decided
      constructor
      · intro fails
        rw [fails] at decided
        exact decided
      · intro succeeds
        rw [succeeds] at decided
        exact decided
  | _ => cases returned

end Runs

section Examples
open Sample

private def sessionRequest (name : String) (timestamp : Int) : UpsertRequest :=
  upsertRequest { resource "Session" with allowIdentityUpdates := true } "sessionName" name [] none
    timestamp "client"

private def acts (index count : Nat) : List (CallEvent RepositoryRequest DocumentUuid DriverError) :=
  List.replicate count (.act index .step)

private def inserts (index : Nat) (generated name : String) (timestamp : Int) :
    List (CallEvent RepositoryRequest DocumentUuid DriverError) :=
  [.arrive (.upsert (sessionRequest name timestamp)), .act index (.attempt (documentUuid generated))] ++
    acts index 7 ++ [.act index .settle, .commit index, .act index .respond]

/-- The update moves the first session to the identity of the second one.
Its first attempt is interrupted, and the second attempt deletes the old document in vain. -/
private def refusedMove : List (CallEvent RepositoryRequest DocumentUuid DriverError) :=
  [.arrive (.update
      { sessionRequest "second" 3 with documentUuid := documentUuid "000000000001" }),
    .act 2 (.attempt (documentUuid "000000000003"))] ++ acts 2 2 ++
    [.act 2 .throw, .act 2 (.attempt (documentUuid "000000000004"))] ++ acts 2 13 ++
    [.act 2 .settle, .act 2 .abort, .act 2 .respond]

private def twoSessions : List (CallEvent RepositoryRequest DocumentUuid DriverError) :=
  inserts 0 "000000000001" "first" 1 ++ inserts 1 "000000000002" "second" 5

theorem calls_all_or_nothing_refusedMove :
    ∃ system following caller response,
      (@repositoryProcedure runtime).runEvents Callers.empty twoSessions = some system ∧
      (@repositoryProcedure runtime).runEvents system refusedMove = some following ∧
      following.callers[2]? = some caller ∧ caller.phase = .returned response ∧
      (documents following.committed).length = 2 ∧ commitsOf following.commits 2 = [] := by
  have refused : ∃ system ∈ (@repositoryProcedure runtime).runEvents Callers.empty twoSessions,
      ∃ following ∈ (@repositoryProcedure runtime).runEvents system refusedMove,
        (documents following.committed).length = 2 ∧
          ∃ caller ∈ following.callers[2]?,
            caller.phase.response?.map RepositoryResult.succeeded = some false := by decide +kernel
  obtain ⟨system, done, following, rest, stored, caller, present, failed⟩ := refused
  obtain ⟨response, returned, fails⟩ := Option.map_eq_some_iff.mp failed
  have phase := Phase.response?_eq.mp returned
  have outcome := @calls_all_or_nothing runtime system twoSessions refusedMove following done rest
  exact ⟨system, following, caller, response, done, rest, present, phase, stored,
    (outcome.2.2.2 2 caller response present phase).1 fails⟩

end Examples
end Meadowlark.Mongo
