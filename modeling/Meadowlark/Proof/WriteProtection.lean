import Meadowlark.Proof.Mongo.Deposits
import Meadowlark.Proof.Mongo.WriteProtection
import Meadowlark.Proof.Postgres.WriteProtection

namespace Meadowlark
open Meadowlark.Core Systems

/-- In either backend a request under the ownership strategy leaves the documents of other clients
as they are, unless a POST names a uuid in its path or a PUT takes over an identity in use.
A client therefore keeps its documents along every run of such requests of other clients. -/
theorem write_protection [NodeRuntime] [DocumentProcessing] [Postgres.ColumnTypes]
    {Memory : Type} (services : Services Memory) :
    ((∀ (world : Mongo.Store × Memory) (turn : Turn Mongo.GeneratedUuids) clientId,
      Mongo.Orderly world.1 → (turn.entryPoint = .query → turn.queryHandler.Quiet) →
      turn.ServesOwner services world.2 clientId →
      (Mongo.SparesOthers clientId world.1 (turn.take Mongo.documentStore services world).1 ↔
        ¬ turn.Intrudes Mongo.documentStore services world (Mongo.Takes clientId world.1))) ∧
    ∀ owner (start : List Mongo.GeneratedUuids × (Mongo.Store × Memory)) used world,
      Mongo.Orderly start.2.1 →
      Served Mongo.documentStore services (fun _ world turn => turn.Stays Mongo.documentStore
        services Mongo.Takes Mongo.FitsFresh owner world) start used world →
      ∀ document ∈ Mongo.documents start.2.1, document.createdBy = owner →
        document ∈ Mongo.documents world.1) ∧
    (∀ (world : Postgres.Connection × Memory) (turn : Turn DocumentUuid) clientId,
      Postgres.Kempt world.1 → (turn.entryPoint = .query → turn.queryHandler.Quiet) →
      turn.ServesOwner services world.2 clientId →
      (Postgres.SparesOthers clientId world.1.committed
          (turn.take Postgres.documentStore services world).1.committed ↔
        ¬ turn.Intrudes Postgres.documentStore services world
          (Postgres.Takes clientId world.1.committed))) ∧
    ∀ owner (start : List DocumentUuid × (Postgres.Connection × Memory)) used world,
      Postgres.Kempt start.2.1 →
      Served Postgres.documentStore services (fun _ world turn => turn.Stays Postgres.documentStore
        services (fun clientId connection => Postgres.Takes clientId connection.committed)
        Postgres.FitsNamed owner world) start used world →
      ∀ document ∈ start.2.1.committed.documents, document.createdBy = owner →
        Postgres.KeepsRow start.2.1.committed world.1.committed document := by
  refine ⟨⟨?_, ?_⟩, ?_, ?_⟩
  · intro world turn clientId orderly quiet serves
    exact Mongo.turn_sparesOthers_iff quiet orderly serves
  · intro owner start used world orderly served document stored own
    exact Mongo.served_sparesOwner served orderly stored own
  · intro world turn clientId kempt quiet serves
    exact Postgres.turn_sparesOthers_iff quiet kempt serves
  · intro owner start used world kempt served document stored own
    exact Postgres.served_sparesOwner served kempt stored own

/-- Whatever earlier requests have left, a POST, PUT or DELETE under the ownership strategy leaves the
documents of other clients as they are exactly when it does not intrude. -/
theorem reached_protection_iff [NodeRuntime] [DocumentProcessing] [Postgres.ColumnTypes]
    {Memory : Type} (services : Services Memory) :
    (∀ memory used (world : Mongo.Store × Memory) (turn : Turn Mongo.GeneratedUuids) clientId,
      Served Mongo.documentStore services
          (fun _ world turn => turn.Fits Mongo.documentStore services Mongo.FitsFresh world)
          ([], (Database.empty, memory)) used world →
      turn.entryPoint.writes = true → turn.ServesOwner services world.2 clientId →
      (Mongo.SparesOthers clientId world.1 (turn.take Mongo.documentStore services world).1 ↔
        ¬ turn.Intrudes Mongo.documentStore services world (Mongo.Takes clientId world.1))) ∧
    ∀ memory used (world : Postgres.Connection × Memory) (turn : Turn DocumentUuid) clientId,
      Served Postgres.documentStore services
          (fun _ world turn => turn.Fits Postgres.documentStore services Postgres.FitsNamed world)
          ([], (⟨Postgres.Tables.empty, .idle⟩, memory)) used world →
      turn.entryPoint.writes = true → turn.ServesOwner services world.2 clientId →
      (Postgres.SparesOthers clientId world.1.committed
          (turn.take Postgres.documentStore services world).1.committed ↔
        ¬ turn.Intrudes Postgres.documentStore services world
          (Postgres.Takes clientId world.1.committed)) := by
  have quiet {entryPoint : EntryPoint} {queryHandler : QueryHandlerPlugin}
      (writes : entryPoint.writes = true) : entryPoint = .query → queryHandler.Quiet := by
    rintro rfl
    cases writes
  constructor
  · intro memory used world turn clientId served writes serves
    have orderly := Mongo.served_orderly served Mongo.orderly_empty
    exact Mongo.turn_sparesOthers_iff (quiet writes) orderly serves
  · intro memory used world turn clientId served writes serves
    have kempt := Postgres.served_kempt served Postgres.kempt_start
    exact Postgres.turn_sparesOthers_iff (quiet writes) kempt serves

section Examples
open Sample Postgres.Sample

private def ownSchool : DocumentUuid := documentUuid "000000000001"

private def otherUuid : DocumentUuid := documentUuid "000000000002"

private def quietQueries : QueryHandlerPlugin := ⟨fun _ => pure ⟨.querySuccess, [], none, none⟩⟩

/-- A client posts the school on some path. -/
private def postOf {Generated : Type} (generated : Generated) (path clientId : String) :
    Turn Generated :=
  ⟨generated, quietQueries, .upsert, request path clientId (some "\x7b\"schoolId\": \"1\"\x7d")⟩

private def schoolsPath : String := "/v3.3b/ed-fi/schools"

@[irreducible] private def mongoFirst : Mongo.Store × Int :=
  @Turn.take runtime processing _ _ _ (@Mongo.documentStore runtime) services
    (postOf ⟨ownSchool, []⟩ schoolsPath "first") (Database.empty, 1)

@[irreducible] private def postgresFirst : Postgres.Connection × Int :=
  @Turn.take runtime processing _ _ _ (@Postgres.documentStore runtime columns) services
    (postOf ownSchool schoolsPath "first") (⟨Postgres.Tables.empty, .idle⟩, 1)

/-- The client, the uuid of the path and the id of the document of an admitted request. -/
private def admittedAs (frontendRequest : FrontendRequest) (time : Int) :
    Option (Security × Option DocumentUuid × MeadowlarkId) :=
  (@EntryPoint.admission runtime processing _ services .upsert frontendRequest time).map
    fun validated => (validated.middleware.security,
      validated.middleware.pathComponents.documentUuid,
      (@upsertRequestFrom runtime validated).meadowlarkId)

private def secondPost {Generated : Type} (generated : Generated) : Turn Generated :=
  postOf generated schoolsPath "second"

private def intrudingPost {Generated : Type} (generated : Generated) : Turn Generated :=
  postOf generated (schoolsPath ++ "/" ++ otherUuid.value) "second"

private abbrev mongoAfter (turn : Turn Mongo.GeneratedUuids) : Mongo.Store × Int :=
  @Turn.take runtime processing _ _ _ (@Mongo.documentStore runtime) services turn mongoFirst

private abbrev postgresAfter (turn : Turn DocumentUuid) : Postgres.Connection × Int :=
  @Turn.take runtime processing _ _ _ (@Postgres.documentStore runtime columns) services turn
    postgresFirst

/-- The request is admitted for the client, and its path names no uuid. -/
private def isPlain (clientId : String)
    (admitted : Option (Security × Option DocumentUuid × MeadowlarkId)) : Bool :=
  admitted.any fun admitted =>
    admitted.1 = ⟨.ownershipBased, clientId⟩ ∧ admitted.2.1 = none ∧ admitted.2.2 ≠ ⟨""⟩

private def plainPost (clientId : String) (time : Int) : Bool :=
  isPlain clientId (admittedAs (postOf ownSchool schoolsPath clientId).frontendRequest time)

/-- The second client is admitted with a uuid in the path of its post. -/
private def intrudesAs (time : Int) : Option Security :=
  (admittedAs (intrudingPost ownSchool).frontendRequest time).map (·.1)

/-- The first client has stored the school. The second one posts it without a uuid in vain, and
with a uuid that no document has it takes the school over. -/
private theorem posted_twice :
    ((∃ document ∈ Mongo.documents mongoFirst.1, document.createdBy = "first") ∧
      (∀ document ∈ Mongo.documents mongoFirst.1, document.documentUuid ≠ otherUuid) ∧
      (Mongo.documents (mongoAfter (intrudingPost ⟨otherUuid, []⟩)).1).map (·.createdBy) =
        ["second"] ∧ plainPost "second" mongoFirst.2 = true ∧
      intrudesAs mongoFirst.2 = some ⟨.ownershipBased, "second"⟩) ∧
    (∃ document ∈ postgresFirst.1.committed.documents, document.createdBy = "first") ∧
      ((postgresAfter (intrudingPost otherUuid)).1.committed.documents).map (·.createdBy) =
        ["second"] ∧ plainPost "second" postgresFirst.2 = true ∧ plainPost "first" 1 = true ∧
      intrudesAs postgresFirst.2 = some ⟨.ownershipBased, "second"⟩ := by
  decide +kernel

section Turns
variable {Generated Contents : Type} {documentStore : Generated → DocumentStore Contents}
  {generated : Generated} {world : Contents × Int} {clientId : String}

private theorem admitted_plain {validated : FrontendRequest} {following : Int}
    (plain : plainPost clientId world.2 = true)
    (admitted : @EntryPoint.Admits runtime _ processing services .upsert
      (postOf generated schoolsPath clientId).frontendRequest world.2 validated following) :
    validated.middleware.security = ⟨.ownershipBased, clientId⟩ ∧
      validated.middleware.pathComponents.documentUuid = none ∧
      (@upsertRequestFrom runtime validated).meadowlarkId ≠ ⟨""⟩ := by
  unfold plainPost isPlain admittedAs at plain
  have found := Option.mem_def.mp
    (@EntryPoint.Admits.admission runtime processing _ _ _ _ _ _ _ admitted)
  rw [show (postOf ownSchool schoolsPath clientId).frontendRequest =
    (postOf generated schoolsPath clientId).frontendRequest from rfl, found] at plain
  simpa using plain

private theorem servesOwner_plain (plain : plainPost clientId world.2 = true) :
    @Turn.ServesOwner runtime processing _ _ services (postOf generated schoolsPath clientId)
      world.2 clientId :=
  fun _ _ admitted => (admitted_plain plain admitted).1

private theorem servesOwner_intruding
    (admitted : intrudesAs world.2 = some ⟨.ownershipBased, "second"⟩) :
    @Turn.ServesOwner runtime processing _ _ services (intrudingPost generated) world.2 "second" := by
  intro validated following admits
  unfold intrudesAs admittedAs at admitted
  have found : @EntryPoint.admission runtime processing _ services .upsert
      (intrudingPost generated).frontendRequest world.2 = some validated :=
    Option.mem_def.mp (@EntryPoint.Admits.admission runtime processing _ _ _ _ _ _ _ admits)
  rw [show (intrudingPost ownSchool).frontendRequest =
    (intrudingPost generated).frontendRequest from rfl, found] at admitted
  exact Option.some.inj admitted

private theorem not_intrudes {takes : WriteRequest → Prop}
    (plain : plainPost clientId world.2 = true) :
    ¬ @Turn.Intrudes runtime processing _ _ _ documentStore services
      (postOf generated schoolsPath clientId) world takes := by
  rintro ⟨validated, checked, write, ⟨⟨following, admitted, -⟩, -⟩, named, -⟩
  have path := named rfl
  rw [(admitted_plain plain admitted).2.1] at path
  cases path

end Turns

private theorem fitsNamed_plain {generated : DocumentUuid} {world : Postgres.Connection × Int}
    {clientId : String} (plain : plainPost clientId world.2 = true)
    {checked : Postgres.Connection} {write : WriteRequest}
    (makes : @Turn.Makes runtime processing _ _ _ (@Postgres.documentStore runtime columns) services
      (postOf generated schoolsPath clientId) world checked write) :
    Postgres.FitsNamed generated checked write := by
  obtain ⟨validated, result, ⟨following, admitted, planned, -⟩, -⟩ := makes
  cases planned
  exact (admitted_plain plain admitted).2.2

private theorem mongoFirst_served :
    @Served runtime processing _ _ _ (@Mongo.documentStore runtime) services
      (fun _ world turn => @Turn.Fits runtime processing _ _ _ (@Mongo.documentStore runtime) services
        Mongo.FitsFresh world turn) ([], (Database.empty, 1)) [⟨ownSchool, []⟩] mongoFirst := by
  unfold mongoFirst
  refine @Served.turn runtime processing _ _ _ (@Mongo.documentStore runtime) services _
    ([], (Database.empty, 1)) _ _ (postOf ⟨ownSchool, []⟩ schoolsPath "first")
    (@Served.start runtime processing _ _ _ _ _ _ _) ?_
  apply @Turn.Fits.mk runtime processing
  · exact fun same => nomatch same
  · rintro checked write ⟨validated, result, -, answered, -⟩
    obtain rfl : Database.empty = checked :=
      (@Mongo.guardAnswer_store runtime Database.empty ⟨ownSchool, []⟩ validated).symm.trans
        (congrArg Prod.snd answered)
    exact fun _ _ _ stored => nomatch stored

private theorem mongoFirst_orderly : Mongo.Orderly mongoFirst.1 :=
  @Mongo.served_orderly runtime processing _ _ _ _ _ mongoFirst_served Mongo.orderly_empty

private abbrev emptyWorld : Postgres.Connection × Int := (⟨Postgres.Tables.empty, .idle⟩, 1)

private theorem postgresFirst_served :
    @Served runtime processing _ _ _ (@Postgres.documentStore runtime columns) services
      (fun _ world turn => @Turn.Fits runtime processing _ _ _
        (@Postgres.documentStore runtime columns) services Postgres.FitsNamed world turn)
      ([], emptyWorld) [ownSchool] postgresFirst := by
  have plain : plainPost "first" emptyWorld.2 = true := posted_twice.2.2.2.2.1
  unfold postgresFirst
  refine @Served.turn runtime processing _ _ _ (@Postgres.documentStore runtime columns) services _
    ([], emptyWorld) _ _ (postOf ownSchool schoolsPath "first")
    (@Served.start runtime processing _ _ _ _ _ _ _) ?_
  apply @Turn.Fits.mk runtime processing
  · exact fun same => nomatch same
  · intro checked write makes
    exact fitsNamed_plain plain makes

private theorem postgresFirst_kempt : @Postgres.Kempt columns postgresFirst.1 :=
  @Postgres.served_kempt runtime columns processing _ _ _ _ _ postgresFirst_served
    (@Postgres.kempt_start columns)

private theorem mongoIntruding_owner :
    @Turn.ServesOwner runtime processing _ _ services
      (intrudingPost (Mongo.GeneratedUuids.mk otherUuid [])) mongoFirst.2 "second" :=
  servesOwner_intruding posted_twice.1.2.2.2.2

private theorem postgresIntruding_owner :
    @Turn.ServesOwner runtime processing _ _ services (intrudingPost otherUuid) postgresFirst.2
      "second" := servesOwner_intruding posted_twice.2.2.2.2.2

private theorem secondPost_fresh {checked : Mongo.Store} {write : WriteRequest}
    (makes : @Turn.Makes runtime processing _ _ _ (@Mongo.documentStore runtime) services
      (secondPost ⟨otherUuid, []⟩) mongoFirst checked write) :
    Mongo.FitsFresh ⟨otherUuid, []⟩ checked write := by
  obtain ⟨validated, result, -, answered, -⟩ := makes
  obtain rfl : mongoFirst.1 = checked :=
    (@Mongo.guardAnswer_store runtime mongoFirst.1 ⟨otherUuid, []⟩ validated).symm.trans
      (congrArg Prod.snd answered)
  unfold Mongo.FitsFresh Mongo.FreshUuids
  rw [Mongo.callOf_generated]
  intro documentUuid inside document stored
  obtain rfl := List.mem_singleton.mp inside
  exact posted_twice.1.2.1 document stored

private theorem secondPost_served_mongo :
    @Served runtime processing _ _ _ (@Mongo.documentStore runtime) services
      (fun _ world turn => @Turn.Stays runtime processing _ _ _ (@Mongo.documentStore runtime)
        services (@Mongo.Takes runtime) Mongo.FitsFresh "first" world turn) ([], mongoFirst)
      [⟨otherUuid, []⟩] (mongoAfter (secondPost ⟨otherUuid, []⟩)) := by
  have plain : plainPost "second" mongoFirst.2 = true := posted_twice.1.2.2.2.1
  refine @Served.turn runtime processing _ _ _ (@Mongo.documentStore runtime) services _
    ([], mongoFirst) _ _ (secondPost ⟨otherUuid, []⟩)
    (@Served.start runtime processing _ _ _ _ _ _ _) ?_
  apply @Turn.Stays.mk runtime processing
  · exact fun same => nomatch same
  · exact ⟨"second", by decide, servesOwner_plain plain, not_intrudes plain⟩
  · intro checked write makes
    exact secondPost_fresh makes

private theorem secondPost_served_postgres :
    @Served runtime processing _ _ _ (@Postgres.documentStore runtime columns) services
      (fun _ world turn => @Turn.Stays runtime processing _ _ _
        (@Postgres.documentStore runtime columns) services
        (fun clientId connection => @Postgres.Takes runtime columns clientId connection.committed)
        Postgres.FitsNamed "first" world turn) ([], postgresFirst) [otherUuid]
      (postgresAfter (secondPost otherUuid)) := by
  have plain : plainPost "second" postgresFirst.2 = true := posted_twice.2.2.2.1
  refine @Served.turn runtime processing _ _ _ (@Postgres.documentStore runtime columns) services _
    ([], postgresFirst) _ _ (secondPost otherUuid)
    (@Served.start runtime processing _ _ _ _ _ _ _) ?_
  apply @Turn.Stays.mk runtime processing
  · exact fun same => nomatch same
  · exact ⟨"second", by decide, servesOwner_plain plain, not_intrudes plain⟩
  · intro checked write makes
    exact fitsNamed_plain plain makes

theorem write_protection_of_school :
    (Mongo.SparesOthers "second" mongoFirst.1 (mongoAfter (secondPost ⟨otherUuid, []⟩)).1 ∧
      ∀ document ∈ Mongo.documents mongoFirst.1, document.createdBy = "first" →
        document ∈ Mongo.documents (mongoAfter (secondPost ⟨otherUuid, []⟩)).1) ∧
    Postgres.SparesOthers "second" postgresFirst.1.committed
        (postgresAfter (secondPost otherUuid)).1.committed ∧
      ∀ document ∈ postgresFirst.1.committed.documents, document.createdBy = "first" →
        Postgres.KeepsRow postgresFirst.1.committed (postgresAfter (secondPost otherUuid)).1.committed
          document := by
  have protection := @write_protection runtime processing columns _ services
  have mongoPlain : plainPost "second" mongoFirst.2 = true := posted_twice.1.2.2.2.1
  have postgresPlain : plainPost "second" postgresFirst.2 = true := posted_twice.2.2.2.1
  refine ⟨⟨?_, ?_⟩, ?_, ?_⟩
  · exact (protection.1.1 mongoFirst (secondPost ⟨otherUuid, []⟩) "second" mongoFirst_orderly
      (fun same => nomatch same) (servesOwner_plain mongoPlain)).mpr (not_intrudes mongoPlain)
  · exact protection.1.2 "first" ([], mongoFirst) [⟨otherUuid, []⟩]
      (mongoAfter (secondPost ⟨otherUuid, []⟩)) mongoFirst_orderly secondPost_served_mongo
  · have spares := protection.2.1 postgresFirst (secondPost otherUuid) "second" postgresFirst_kempt
      (fun same => nomatch same) (servesOwner_plain postgresPlain)
    rw [spares]
    exact not_intrudes postgresPlain
  · exact protection.2.2 "first" ([], postgresFirst) [otherUuid]
      (postgresAfter (secondPost otherUuid)) postgresFirst_kempt secondPost_served_postgres

/-- A post without a uuid in its path spares the school of the first client. -/
theorem reached_protection_school :
    (Mongo.SparesOthers "second" mongoFirst.1 (mongoAfter (secondPost ⟨otherUuid, []⟩)).1 ∧
      (Mongo.SparesOthers "second" mongoFirst.1 (mongoAfter (intrudingPost ⟨otherUuid, []⟩)).1 ↔
        ¬ @Turn.Intrudes runtime processing _ _ _ (@Mongo.documentStore runtime) services
          (intrudingPost ⟨otherUuid, []⟩) mongoFirst (@Mongo.Takes runtime "second" mongoFirst.1))) ∧
    Postgres.SparesOthers "second" postgresFirst.1.committed
        (postgresAfter (secondPost otherUuid)).1.committed ∧
      (Postgres.SparesOthers "second" postgresFirst.1.committed
          (postgresAfter (intrudingPost otherUuid)).1.committed ↔
        ¬ @Turn.Intrudes runtime processing _ _ _ (@Postgres.documentStore runtime columns) services
          (intrudingPost otherUuid) postgresFirst
          (@Postgres.Takes runtime columns "second" postgresFirst.1.committed)) := by
  have protection := @reached_protection_iff runtime processing columns _ services
  have mongoPlain : plainPost "second" mongoFirst.2 = true := posted_twice.1.2.2.2.1
  have postgresPlain : plainPost "second" postgresFirst.2 = true := posted_twice.2.2.2.1
  refine ⟨⟨?_, ?_⟩, ?_, ?_⟩
  · exact (protection.1 1 _ mongoFirst (secondPost ⟨otherUuid, []⟩) "second" mongoFirst_served rfl
      (servesOwner_plain mongoPlain)).mpr (not_intrudes mongoPlain)
  · exact protection.1 1 _ mongoFirst (intrudingPost ⟨otherUuid, []⟩) "second" mongoFirst_served rfl
      mongoIntruding_owner
  · have spares := protection.2 1 _ postgresFirst (secondPost otherUuid) "second"
      postgresFirst_served rfl (servesOwner_plain postgresPlain)
    rw [spares]
    exact not_intrudes postgresPlain
  · have spares := protection.2 1 _ postgresFirst (intrudingPost otherUuid) "second"
      postgresFirst_served rfl postgresIntruding_owner
    rw [spares]

private theorem first_absent {created : List String} (second : created = ["second"]) :
    "first" ∉ created := by
  rw [second]
  decide

private theorem not_sparesMongo {store following : Mongo.Store}
    (owned : ∃ document ∈ Mongo.documents store, document.createdBy = "first")
    (taken : (Mongo.documents following).map (·.createdBy) = ["second"]) :
    ¬ Mongo.SparesOthers "second" store following := by
  intro spares
  obtain ⟨document, stored, first⟩ := owned
  have left := spares document stored (by rw [first]; decide)
  exact first_absent taken (List.mem_map.mpr ⟨document, left, first⟩)

private theorem not_sparesPostgres {tables following : Postgres.Tables}
    (owned : ∃ document ∈ tables.documents, document.createdBy = "first")
    (taken : following.documents.map (·.createdBy) = ["second"]) :
    ¬ Postgres.SparesOthers "second" tables following := by
  intro spares
  obtain ⟨document, stored, first⟩ := owned
  have left := (spares document stored (by rw [first]; decide)).stored
  exact first_absent taken (List.mem_map.mpr ⟨document, left, first⟩)

/-- A post that names a uuid in its path takes over the school of the first client. -/
theorem posted_uuid_takes_school :
    (@Served runtime processing _ _ _ (@Mongo.documentStore runtime) services
        (fun _ world turn => @Turn.Fits runtime processing _ _ _ (@Mongo.documentStore runtime)
          services Mongo.FitsFresh world turn) ([], (Database.empty, 1)) [⟨ownSchool, []⟩]
        mongoFirst ∧
      @Turn.ServesOwner runtime processing _ _ services
        (intrudingPost (Mongo.GeneratedUuids.mk otherUuid [])) mongoFirst.2 "second" ∧
      ¬ Mongo.SparesOthers "second" mongoFirst.1 (mongoAfter (intrudingPost ⟨otherUuid, []⟩)).1) ∧
    @Served runtime processing _ _ _ (@Postgres.documentStore runtime columns) services
        (fun _ world turn => @Turn.Fits runtime processing _ _ _
          (@Postgres.documentStore runtime columns) services Postgres.FitsNamed world turn)
        ([], emptyWorld) [ownSchool] postgresFirst ∧
      @Turn.ServesOwner runtime processing _ _ services (intrudingPost otherUuid) postgresFirst.2
        "second" ∧
      ¬ Postgres.SparesOthers "second" postgresFirst.1.committed
        (postgresAfter (intrudingPost otherUuid)).1.committed := by
  refine ⟨⟨mongoFirst_served, mongoIntruding_owner, ?_⟩, postgresFirst_served,
    postgresIntruding_owner, ?_⟩
  · exact not_sparesMongo posted_twice.1.1 posted_twice.1.2.2.1
  · exact not_sparesPostgres posted_twice.2.1 posted_twice.2.2.1

end Examples
end Meadowlark
