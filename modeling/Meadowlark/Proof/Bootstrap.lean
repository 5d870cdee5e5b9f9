import Meadowlark.Proof.Mongo.Bootstrap
import Meadowlark.Proof.Postgres.Bootstrap

namespace Meadowlark
open Meadowlark.Core Systems Authorization

/-- While no other write falls between the check of a request and its own insert, both stores give
at most one request a new client, and they hold at most one admin. -/
theorem bootstrap_admin_unique [NodeRuntime] [ServerLibrary] [TokenLibrary] [Postgres.ColumnTypes]
    (config : Config) :
    (∀ system results,
      (Mongo.createClientService config).Answered
          (fun system event => Mongo.Anonymous event ∧ Mongo.CommitsUndisturbed system event)
          system results →
        results.countP isCreated ≤ 1 ∧ Mongo.countBootstrapAdmins system.committed ≤ 1) ∧
    ∀ system,
      (Postgres.createClientHost config).Reached
          (fun system move => Postgres.Anonymous move ∧ Postgres.InsertsUndisturbed system move)
          .empty system →
        system.activities.countP Postgres.hasCreated ≤ 1 ∧
          Postgres.countBootstrapAdmins system.state ≤ 1 := by
  constructor
  · intro system results reached
    have invariant := Mongo.bootstrapInvariant_answered reached
    exact ⟨invariant.answered.trans invariant.admins, invariant.admins⟩
  · intro system reached
    have invariant := Postgres.bootstrapInvariant_reached rfl reached
    exact ⟨invariant.created.trans invariant.admins, invariant.admins⟩

section Examples
open Authorization.Sample

private abbrev mongoService := @Mongo.createClientService Core.Sample.runtime library adminTokens config

private abbrev postgresHost :=
  @Postgres.createClientHost Core.Sample.runtime library adminTokens Postgres.Sample.columns config

private def adminRequest : AuthorizationRequest :=
  ⟨"/oauth/clients", ⟨"trace"⟩,
    some "\x7b\"clientName\": \"Admin\", \"roles\": [\"admin\"]\x7d", [], [], "local"⟩

private def firstCaller : AuthorizationRequest × Entropy := (adminRequest, entropy)

private def secondCaller : AuthorizationRequest × Entropy :=
  (adminRequest, { entropy with clientId := "00000000-0000-4000-8000-000000000002" })

/-- The statements are sent and none is lost. -/
private abbrev reply (statement : Postgres.Statement) (tables : Postgres.Tables) :
    Option (statement.Answer × Postgres.Tables) :=
  let sent := @Postgres.Connection.send Postgres.Sample.columns ⟨tables, .idle⟩ statement
  some (sent.1, sent.2.committed)

private theorem reply_possible : Host.Possible postgresHost reply := by
  rintro statement tables answer following ⟨⟩
  exact @Postgres.Tables.Autocommits.sent Postgres.Sample.columns statement tables

private abbrev hasReturned (activity : Postgres.CreateClientActivity) : Bool :=
  activity.rest.Stops fun _ => false

private theorem collected_single :
    (mongoService.collect
        (fun system event => Mongo.Anonymous event ∧ Mongo.CommitsUndisturbed system event)
        System.empty
        [.begin firstCaller, .step 0, .commit 0, .begin secondCaller, .step 0, .commit 0]).map
      (fun last => (last.2.length, last.2.countP isCreated,
        Mongo.countBootstrapAdmins last.1.committed)) = some (2, 1, 1) := by decide +kernel

private theorem played_single :
    (postgresHost.playAll reply
        (fun system move => Postgres.Anonymous move ∧ Postgres.InsertsUndisturbed system move)
        ⟨.empty, []⟩
        [.arrive firstCaller, .arrive secondCaller, .resume 0, .resume 0, .resume 1]).map
      (fun last => (last.activities.countP hasReturned,
        last.activities.countP Postgres.hasCreated,
        Postgres.countBootstrapAdmins last.state)) = some (2, 1, 1) := by decide +kernel

/-- Both callers are answered, and one of them becomes the only admin of either store. -/
theorem bootstrap_admin_created :
    (∃ results : List (Except Exception AuthorizationResponse),
        results.length = 2 ∧ results.countP isCreated = 1 ∧ results.countP isCreated ≤ 1) ∧
      ∃ system : Postgres.CreateClientHosted, system.activities.countP hasReturned = 2 ∧
        system.activities.countP Postgres.hasCreated = 1 ∧
          Postgres.countBootstrapAdmins system.state ≤ 1 := by
  have unique := @bootstrap_admin_unique Core.Sample.runtime library adminTokens
    Postgres.Sample.columns config
  constructor
  · obtain ⟨⟨system, results⟩, collected, counted⟩ := Option.map_eq_some_iff.mp collected_single
    have reached := Service.Answered.collect Service.Answered.empty collected
    obtain ⟨answered, counts⟩ := Prod.mk.inj counted
    exact ⟨results, answered, congrArg Prod.fst counts, (unique.1 _ _ reached).1⟩
  · obtain ⟨system, played, counted⟩ := Option.map_eq_some_iff.mp played_single
    have reached := Host.Reached.playAll reply_possible .start played
    obtain ⟨returned, counts⟩ := Prod.mk.inj counted
    exact ⟨system, returned, congrArg Prod.fst counts, (unique.2 _ reached).2⟩

private theorem collected_double :
    (mongoService.collect (fun _ event => Mongo.Anonymous event) System.empty
        [.begin firstCaller, .begin secondCaller, .step 0, .step 1, .commit 0, .commit 0]).map
      (fun last => (last.2.countP isCreated, Mongo.countBootstrapAdmins last.1.committed)) =
        some (2, 2) := by decide +kernel

private theorem played_double :
    (postgresHost.playAll reply (fun _ move => Postgres.Anonymous move) ⟨.empty, []⟩
        [.arrive firstCaller, .arrive secondCaller, .resume 0, .resume 1, .resume 0, .resume 1]).map
      (fun last => (last.activities.countP Postgres.hasCreated,
        Postgres.countBootstrapAdmins last.state)) = some (2, 2) := by decide +kernel

/-- Two callers that both look before either inserts become admins of either store. -/
theorem two_bootstrap_admins :
    (∃ system results, mongoService.Answered (fun _ event => Mongo.Anonymous event) system results ∧
      results.countP isCreated = 2 ∧ Mongo.countBootstrapAdmins system.committed = 2) ∧
    ∃ system, postgresHost.Reached (fun _ move => Postgres.Anonymous move) .empty system ∧
      system.activities.countP Postgres.hasCreated = 2 ∧
        Postgres.countBootstrapAdmins system.state = 2 := by
  constructor
  · obtain ⟨⟨system, results⟩, collected, counted⟩ := Option.map_eq_some_iff.mp collected_double
    have reached := Service.Answered.collect Service.Answered.empty collected
    exact ⟨system, [] ++ results, reached, congrArg Prod.fst counted, congrArg Prod.snd counted⟩
  · obtain ⟨system, played, counted⟩ := Option.map_eq_some_iff.mp played_double
    have reached := Host.Reached.playAll reply_possible .start played
    exact ⟨system, reached, congrArg Prod.fst counted, congrArg Prod.snd counted⟩

example : Postgres.countBootstrapAdmins Postgres.Tables.empty = 0 := by decide +kernel

end Examples
end Meadowlark
