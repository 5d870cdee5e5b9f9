import Meadowlark.Proof.Core.ReadProtection
import Meadowlark.Proof.Mongo.Requests
import Meadowlark.Proof.Postgres.Confinement

namespace Meadowlark
open Meadowlark.Core Systems

namespace Mongo
variable [NodeRuntime] {store : Store}

/-- A document that is no descriptor is found under the uuid. -/
def Stores (store : Store) (documentUuid : DocumentUuid) (stored : StoredDocument) : Prop :=
  ∃ document, findDocument store (.documentUuid documentUuid) = some document ∧
    document.isDescriptor = false ∧ storedDocument document = stored

theorem serves_stores (generated : GeneratedUuids) {documentUuid : DocumentUuid}
    {stored : StoredDocument} (stores : Stores store documentUuid stored) :
    (documentStore generated).Serves store documentUuid stored := by
  obtain ⟨document, found, -, rfl⟩ := stores
  exact serves_of_found generated found

end Mongo

namespace Postgres
variable [NodeRuntime] [ColumnTypes] {connection : Connection}

/-- A row of a document that is no descriptor is found under the uuid. -/
def Stores (tables : Tables) (given : DocumentUuid) (stored : StoredDocument) : Prop :=
  ∃ document, NamedRow tables document given ∧ document.isDescriptor = false ∧
    storedDocument document = stored

theorem serves_stores (generated : DocumentUuid) (clean : connection.Clean)
    {given : DocumentUuid} {stored : StoredDocument}
    (stores : Stores connection.committed given stored) :
    (documentStore generated).Serves connection given stored := by
  obtain ⟨document, ⟨documentUuid, converted, found⟩, -, rfl⟩ := stores
  exact serves_of_found generated clean converted found

theorem readProtected_settled_iff [DocumentProcessing] {Memory : Type} {services : Services Memory}
    {memory : Memory} {frontendRequest : FrontendRequest} {queryHandler : QueryHandlerPlugin}
    (generated : DocumentUuid) (settled : connection.Settled) :
    ReadProtected (documentStore generated) (Stores connection.committed) services connection memory
        frontendRequest queryHandler ↔
      ¬ (connection.Clean ∧
        Discloses (Stores connection.committed) services memory frontendRequest) := by
  rcases settled with clean | failed
  · rw [and_iff_right clean]
    exact readProtected_iff fun _ _ => serves_stores generated clean
  · obtain ⟨committed, block⟩ := connection
    obtain rfl : block = .failed := failed
    refine iff_of_true (fails_of_failed generated committed).readProtected ?_
    rintro ⟨clean | clean, -⟩
    · cases clean
    · cases clean

end Postgres

/-- In either backend a read under the rule of ownership is protected exactly when its path does
not name a descriptor resource together with another client's document. -/
theorem read_protection [NodeRuntime] [DocumentProcessing] [Postgres.ColumnTypes]
    {Memory : Type} (services : Services Memory) :
    (∀ store memory frontendRequest queryHandler generated,
      ReadProtected (Mongo.documentStore generated) (Mongo.Stores store) services store memory
          frontendRequest queryHandler ↔
        ¬ Discloses (Mongo.Stores store) services memory frontendRequest) ∧
    (∀ connection memory frontendRequest queryHandler generated,
      Postgres.Connection.Settled connection →
      (ReadProtected (Postgres.documentStore generated) (Postgres.Stores connection.committed)
          services connection memory frontendRequest queryHandler ↔
        ¬ (connection.Clean ∧ Discloses (Postgres.Stores connection.committed) services memory
          frontendRequest))) ∧
    ∀ memory used world, Served Postgres.documentStore services
        (fun _ _ turn => turn.entryPoint = .query → turn.queryHandler.Quiet)
        ([], (⟨Postgres.Tables.empty, .idle⟩, memory)) used world →
      world.1.Settled := by
  refine ⟨?_, ?_, ?_⟩
  · intro store memory frontendRequest queryHandler generated
    exact readProtected_iff fun _ _ => Mongo.serves_stores generated
  · intro connection memory frontendRequest queryHandler generated settled
    exact Postgres.readProtected_settled_iff generated settled
  · intro memory used world served
    exact Postgres.served_settled (fun _ _ _ quiet => quiet) served (.inl (.inl rfl))

section Examples
open Sample Postgres.Sample

/-- The schools and the students, with the descriptors of grade levels. -/
private def descriptorSchema : ProjectSchema :=
  { projectSchema with
    resourceSchemas := ⟨["schools", "students", "gradeLevelDescriptors"], fun endpointName =>
      if endpointName = "gradeLevelDescriptors" then
        some { resourceSchema "GradeLevelDescriptor" with isDescriptor := true }
      else projectSchema.resourceSchemas.property endpointName⟩ }

private def descriptorServices : Services Int where
  answer
    | .findApiSchema _, time => (.ok ⟨⟨["ed-fi"], fun _ => some descriptorSchema⟩,
        ⟨[], fun _ => none⟩⟩, time)
    | call, time => services.answer call time

private def ownedSchool : DocumentUuid := documentUuid "000000000001"

private def silentHandler : QueryHandlerPlugin := ⟨fun _ => pure ⟨.querySuccess, [], none, none⟩⟩

/-- The first client stores a school. -/
private def postSchool {Generated : Type} (generated : Generated) : Turn Generated :=
  ⟨generated, silentHandler, .upsert,
    request "/v3.3b/ed-fi/schools" "first" (some "\x7b\"schoolId\": \"1\"\x7d")⟩

/-- Another client reads the school as if it were a descriptor. -/
private def getDescriptor : FrontendRequest :=
  request ("/v3.3b/ed-fi/gradeLevelDescriptors/" ++ ownedSchool.value) "second" none

@[irreducible] private def mongoOwned : Mongo.Store × Int :=
  @Turn.take runtime processing _ _ _ (@Mongo.documentStore runtime) descriptorServices
    (postSchool ⟨ownedSchool, []⟩) (Database.empty, 1)

@[irreducible] private def postgresOwned : Postgres.Connection × Int :=
  @Turn.take runtime processing _ _ _ (@Postgres.documentStore runtime columns) descriptorServices
    (postSchool ownedSchool) (⟨Postgres.Tables.empty, .idle⟩, 1)

private theorem served_postSchool {Generated Contents : Type}
    {documentStore : Generated → DocumentStore Contents} (generated : Generated)
    (world : Contents × Int) :
    @Served runtime processing _ _ _ documentStore descriptorServices
      (fun _ _ turn => turn.entryPoint = .query → turn.queryHandler.Quiet) ([], world) [generated]
      (@Turn.take runtime processing _ _ _ documentStore descriptorServices (postSchool generated)
        world) :=
  @Served.turn runtime processing _ _ _ documentStore descriptorServices _ ([], world) _ _
    (postSchool generated) (@Served.start runtime processing _ _ _ _ _ _ _) fun same => nomatch same

/-- The requests as their paths are parsed. -/
private def parsedOf (frontendRequest : FrontendRequest) : FrontendRequest :=
  (@parsePath runtime ⟨frontendRequest, none⟩).frontendRequest

private theorem gets_parsedOf {frontendRequest : FrontendRequest}
    (valid : (@parsePath runtime ⟨frontendRequest, none⟩).frontendResponse.isNone = true)
    (named : (parsedOf frontendRequest).middleware.pathComponents.documentUuid = some ownedSchool) :
    @Gets runtime frontendRequest (parsedOf frontendRequest) ownedSchool := by
  have posted := Option.isNone_iff_eq_none.mp valid
  exact ⟨congrArg (MiddlewareModel.mk (parsedOf frontendRequest)) posted, named⟩

private theorem ok_of_toOption {Error Value : Type} {outcome : Except Error Value} {value : Value}
    (found : outcome.toOption = some value) : outcome = .ok value := by
  cases outcome with
  | error error => cases found
  | ok other => exact congrArg Except.ok (Option.some.inj found)

/-- The path of the second client is read without a check, and it names the school. -/
private theorem unprotected_of_found {Contents : Type} {documentStore : DocumentStore Contents}
    {stored : DocumentUuid → StoredDocument → Prop} {contents : Contents} {time : Int}
    {document : StoredDocument} (inside : stored ownedSchool document)
    (first : document.createdBy = "first")
    (named : (@EntryPoint.admission runtime processing _ descriptorServices .getById
      (parsedOf getDescriptor) time).map (·.middleware.security) =
        some ⟨.ownershipBased, "second"⟩)
    (found : (documentStore.run descriptorServices (@get runtime processing backendFacade
      silentHandler getDescriptor) (contents, time)).1.toOption.map (·.statusCode) = some 200) :
    ¬ @ReadProtected runtime processing _ _ documentStore stored descriptorServices contents time
      getDescriptor silentHandler := by
  intro shielded
  have gets := @gets_parsedOf getDescriptor (by decide +kernel)
    (by decide +kernel)
  obtain ⟨validated, admission, security⟩ := Option.map_eq_some_iff.mp named
  obtain ⟨following, admitted⟩ := @EntryPoint.admits_of_admission runtime processing _ _ _ _ _ _
    admission
  obtain ⟨frontendResponse, answered, status⟩ := Option.map_eq_some_iff.mp found
  have responded := ok_of_toOption answered
  have own := shielded (parsedOf getDescriptor) ownedSchool validated following document
    frontendResponse gets admitted (congrArg Security.authorizationStrategy security) inside
    responded status
  rw [first, security] at own
  exact absurd own (by decide)

theorem school_read_as_descriptor :
    (∃ used world, @Served runtime processing _ _ _ (@Mongo.documentStore runtime)
        descriptorServices (fun _ _ turn => turn.entryPoint = .query → turn.queryHandler.Quiet)
        ([], (Database.empty, 1)) used world ∧
      ∃ generated, ¬ @ReadProtected runtime processing _ _ (@Mongo.documentStore runtime generated)
        (Mongo.Stores world.1) descriptorServices world.1 world.2 getDescriptor silentHandler) ∧
    ∃ used world, @Served runtime processing _ _ _ (@Postgres.documentStore runtime columns)
        descriptorServices (fun _ _ turn => turn.entryPoint = .query → turn.queryHandler.Quiet)
        ([], (⟨Postgres.Tables.empty, .idle⟩, 1)) used world ∧
      ∃ generated, ¬ @ReadProtected runtime processing _ _
        (@Postgres.documentStore runtime columns generated)
        (@Postgres.Stores columns world.1.committed) descriptorServices world.1 world.2
        getDescriptor silentHandler := by
  constructor
  · have served : @Served runtime processing _ _ _ (@Mongo.documentStore runtime)
        descriptorServices (fun _ _ turn => turn.entryPoint = .query → turn.queryHandler.Quiet)
        ([], (Database.empty, 1)) [⟨ownedSchool, []⟩] mongoOwned := by
      unfold mongoOwned
      exact served_postSchool _ _
    obtain ⟨document, found⟩ := Option.isSome_iff_exists.mp (by decide +kernel :
      (Mongo.findDocument mongoOwned.1 (.documentUuid ownedSchool)).isSome = true)
    have stored : (Mongo.findDocument mongoOwned.1 (.documentUuid ownedSchool)).map
        (fun document => (document.isDescriptor, document.createdBy)) = some (false, "first") := by
      decide +kernel
    rw [found, Option.map_some, Option.some.injEq, Prod.mk.injEq] at stored
    refine ⟨_, mongoOwned, served, ⟨ownedSchool, []⟩, ?_⟩
    exact unprotected_of_found ⟨document, found, stored.1, rfl⟩ stored.2 (by decide +kernel)
      (by decide +kernel)
  · have served : @Served runtime processing _ _ _ (@Postgres.documentStore runtime columns)
        descriptorServices (fun _ _ turn => turn.entryPoint = .query → turn.queryHandler.Quiet)
        ([], (⟨Postgres.Tables.empty, .idle⟩, 1)) [ownedSchool] postgresOwned := by
      unfold postgresOwned
      exact served_postSchool _ _
    obtain ⟨document, found⟩ := Option.isSome_iff_exists.mp (by decide +kernel :
      (Postgres.documentByUuid postgresOwned.1.committed ownedSchool).isSome = true)
    have stored : (Postgres.documentByUuid postgresOwned.1.committed ownedSchool).map
        (fun document => (document.isDescriptor, document.createdBy)) = some (false, "first") := by
      decide +kernel
    rw [found, Option.map_some, Option.some.injEq, Prod.mk.injEq] at stored
    refine ⟨_, postgresOwned, served, ownedSchool, ?_⟩
    exact unprotected_of_found ⟨document, ⟨ownedSchool, rfl, found⟩, stored.1, rfl⟩ stored.2
      (by decide +kernel) (by decide +kernel)

/-- Another client reads the school through its own endpoint. -/
private def getSchoolOfAnother : FrontendRequest :=
  request ("/v3.3b/ed-fi/schools/" ++ ownedSchool.value) "second" none

private theorem school_undisclosed {stored : DocumentUuid → StoredDocument → Prop} {time : Int}
    (named : (@EntryPoint.admission runtime processing _ descriptorServices .getById
      (parsedOf getSchoolOfAnother) time).map (·.middleware.resourceInfo.isDescriptor) =
        some false) :
    ¬ @Discloses runtime processing _ stored descriptorServices time getSchoolOfAnother := by
  apply @not_discloses runtime processing
  rintro parsed documentUuid validated following ⟨parses, -⟩ admitted
  obtain rfl : parsedOf getSchoolOfAnother = parsed :=
    congrArg MiddlewareModel.frontendRequest parses
  rw [Option.mem_def.mp (@EntryPoint.Admits.admission runtime processing _ _ _ _ _ _ _ admitted)]
    at named
  exact Option.some.inj named

theorem read_protection_schools :
    (∀ generated, @ReadProtected runtime processing _ _ (@Mongo.documentStore runtime generated)
      (Mongo.Stores mongoOwned.1) descriptorServices mongoOwned.1 mongoOwned.2 getSchoolOfAnother
      silentHandler) ∧
    ∀ generated, @ReadProtected runtime processing _ _
      (@Postgres.documentStore runtime columns generated)
      (@Postgres.Stores columns postgresOwned.1.committed) descriptorServices postgresOwned.1
      postgresOwned.2 getSchoolOfAnother silentHandler := by
  constructor
  · intro generated
    exact ((@read_protection runtime processing columns _ descriptorServices).1 _ _ _ _ _).mpr
      (school_undisclosed (by decide +kernel))
  · intro generated
    have served : @Served runtime processing _ _ _ (@Postgres.documentStore runtime columns)
        descriptorServices (fun _ _ turn => turn.entryPoint = .query → turn.queryHandler.Quiet)
        ([], (⟨Postgres.Tables.empty, .idle⟩, 1)) [ownedSchool] postgresOwned := by
      unfold postgresOwned
      exact served_postSchool _ _
    have settled := (@read_protection runtime processing columns _ descriptorServices).2.2 1 _ _
      served
    exact ((@read_protection runtime processing columns _ descriptorServices).2.1 _ _ _ _ _
      settled).mpr fun discloses => school_undisclosed (by decide +kernel) discloses.2

example : (@parsePath runtime ⟨newFrontendRequest, none⟩).frontendResponse.map (·.statusCode) =
    some 404 := by decide +kernel

end Examples
end Meadowlark
