import Meadowlark.Proof.Mongo.Confinement
import Meadowlark.Proof.Postgres.Confinement

namespace Meadowlark
open Meadowlark.Core Systems

/-- In either backend a request through another resource is confined exactly when it does not come
to the document, and a run of requests that keep resources keeps the resource of every uuid. -/
theorem resource_confinement [NodeRuntime] [DocumentProcessing] [Postgres.ColumnTypes]
    {Memory : Type} (services : Services Memory) :
    ((∀ store memory entryPoint frontendRequest document queryHandler,
        EntryPoint.addressed entryPoint = true →
        Foreign (fun documentUuid =>
            Mongo.findDocument store (.documentUuid documentUuid) = some document)
          services entryPoint frontendRequest memory (Mongo.storedDocument document) →
        ((∀ generated, Confined id store ((Mongo.documentStore generated).run services
            (entryPoint.run queryHandler frontendRequest) (store, memory))) ↔
          ¬ Acts (Mongo.WriteAccepted store) services entryPoint frontendRequest memory
            (Mongo.storedDocument document))) ∧
      ∀ memory earlier before used after,
        Served Mongo.documentStore services (Mongo.KeepsResources services)
          ([], (Database.empty, memory)) earlier before →
        Served Mongo.documentStore services (Mongo.KeepsResources services)
          (earlier, before) used after →
        ∀ documentUuid resource other, Mongo.Tagged before.1 documentUuid resource →
          Mongo.Tagged after.1 documentUuid other → other = resource) ∧
    (∀ connection memory entryPoint frontendRequest document queryHandler,
        Postgres.Connection.Settled connection → EntryPoint.addressed entryPoint = true →
        Foreign (Postgres.NamedRow connection.committed document) services entryPoint
          frontendRequest memory (Postgres.storedDocument document) →
        ((∀ generated, Confined Postgres.Connection.committed connection
            ((Postgres.documentStore generated).run services
              (entryPoint.run queryHandler frontendRequest) (connection, memory))) ↔
          ¬ (connection.Clean ∧ Acts (Postgres.WriteAccepted connection.committed) services
            entryPoint frontendRequest memory (Postgres.storedDocument document)))) ∧
      ∀ memory earlier before used after,
        Served Postgres.documentStore services (Postgres.KeepsResources services)
          ([], (⟨Postgres.Tables.empty, .idle⟩, memory)) earlier before →
        Served Postgres.documentStore services (Postgres.KeepsResources services)
          (earlier, before) used after →
        ∀ documentUuid resource other, Postgres.Tagged before.1.committed documentUuid resource →
          Postgres.Tagged after.1.committed documentUuid other → other = resource := by
  refine ⟨⟨?_, ?_⟩, ?_, ?_⟩
  · intro store memory entryPoint frontendRequest document queryHandler addressed foreign
    exact Mongo.request_confined_iff addressed foreign
  · intro memory earlier before used after reached served documentUuid resource other
    exact Mongo.served_resource reached served
  · intro connection memory entryPoint frontendRequest document queryHandler settled addressed
      foreign
    exact Postgres.request_confined_iff settled addressed foreign
  · intro memory earlier before used after reached served documentUuid resource other
    exact Postgres.served_resource reached served

section Examples
open Sample Postgres.Sample

private def school : DocumentUuid := documentUuid "000000000001"

private def schoolBody : String := "\x7b\"schoolId\": \"1\"\x7d"

private def quietHandler : QueryHandlerPlugin := ⟨fun _ => pure ⟨.querySuccess, [], none, none⟩⟩

/-- The first client stores a school. -/
private def post {Generated : Type} (generated : Generated) : Turn Generated :=
  ⟨generated, quietHandler, .upsert, request "/v3.3b/ed-fi/schools" "first" (some schoolBody)⟩

/-- The school is updated as if it were a student. -/
private def putStudent : FrontendRequest :=
  request ("/v3.3b/ed-fi/students/" ++ school.value) "first"
    (some ("\x7b\"id\": \"" ++ school.value ++ "\", \"studentId\": \"1\"\x7d"))

/-- The schools of the first client in either backend. -/
@[irreducible] private def mongoSchools : Mongo.Store × Int :=
  @Turn.take runtime processing _ _ _ (@Mongo.documentStore runtime) services
    (post ⟨school, []⟩) (Database.empty, 1)

@[irreducible] private def postgresSchools : Postgres.Connection × Int :=
  @Turn.take runtime processing _ _ _ (@Postgres.documentStore runtime columns) services
    (post school) (⟨Postgres.Tables.empty, .idle⟩, 1)

private theorem mongoSchools_served : ∃ used, @Served runtime processing _ _ _
    (@Mongo.documentStore runtime) services (fun _ _ _ => True) ([], (Database.empty, 1)) used
      mongoSchools := by
  unfold mongoSchools
  exact ⟨_, @Served.turn runtime processing _ _ _ (@Mongo.documentStore runtime) services
    (fun _ _ _ => True) ([], (Database.empty, 1)) _ _ (post ⟨school, []⟩)
    (@Served.start runtime processing _ _ _ _ _ _ _) trivial⟩

private theorem postgresSchools_served : ∃ used, @Served runtime processing _ _ _
    (@Postgres.documentStore runtime columns) services (fun _ _ _ => True)
      ([], (⟨Postgres.Tables.empty, .idle⟩, 1)) used postgresSchools := by
  unfold postgresSchools
  exact ⟨_, @Served.turn runtime processing _ _ _ (@Postgres.documentStore runtime columns) services
    (fun _ _ _ => True) ([], (⟨Postgres.Tables.empty, .idle⟩, 1)) _ _ (post school)
    (@Served.start runtime processing _ _ _ _ _ _ _) trivial⟩

private theorem apart : (("Ed-Fi", "School") : String × String) ≠ ("Ed-Fi", "Student") := by decide

theorem put_changes_resource :
    (∃ used world document, @Served runtime processing _ _ _ (@Mongo.documentStore runtime) services
        (fun _ _ _ => True) ([], (Database.empty, 1)) used world ∧
      @Foreign runtime processing _ (fun documentUuid =>
        Mongo.findDocument world.1 (.documentUuid documentUuid) = some document) services .update
        putStudent world.2 (Mongo.storedDocument document) ∧
      ∃ generated, ¬ Confined id world.1 ((@Mongo.documentStore runtime generated).run services
        (@EntryPoint.run runtime processing quietHandler .update putStudent) world)) ∧
    ∃ used world document, @Served runtime processing _ _ _
        (@Postgres.documentStore runtime columns) services (fun _ _ _ => True)
        ([], (⟨Postgres.Tables.empty, .idle⟩, 1)) used world ∧
      @Foreign runtime processing _ (@Postgres.NamedRow columns world.1.committed document)
        services .update putStudent world.2 (Postgres.storedDocument document) ∧
      ∃ generated, ¬ Confined Postgres.Connection.committed world.1
        ((@Postgres.documentStore runtime columns generated).run services
          (@EntryPoint.run runtime processing quietHandler .update putStudent) world) := by
  constructor
  · obtain ⟨used, served⟩ := mongoSchools_served
    obtain ⟨document, found⟩ := Option.isSome_iff_exists.mp (by decide +kernel :
      (Mongo.findDocument mongoSchools.1 (.documentUuid school)).isSome = true)
    have stored : (Mongo.findDocument mongoSchools.1 (.documentUuid school)).map
        (fun document => (document.projectName, document.resourceName)) =
          some ("Ed-Fi", "School") := by decide +kernel
    have before : (Mongo.documents mongoSchools.1).map (·.resourceName) = ["School"] := by
      decide +kernel
    have after : (Mongo.documents ((@Mongo.documentStore runtime ⟨school, []⟩).run services
        (@EntryPoint.run runtime processing quietHandler .update putStudent)
          mongoSchools).2.1).map (·.resourceName) = ["Student"] := by decide +kernel
    have named : (@EntryPoint.admission runtime processing _ services .update putStudent
        mongoSchools.2).map target = some (("Ed-Fi", "Student"), some school) := by decide +kernel
    refine ⟨used, mongoSchools, document, served, ?_, ⟨school, []⟩, ?_⟩
    · refine @foreign_of_target runtime processing _ _ _ _ _ _ _ _ _ _ named ?_ found
      rw [found] at stored
      exact fun same => apart ((Option.some.inj stored).symm.trans same)
    · rintro ⟨kept, -⟩
      have same := congrArg (fun store => (Mongo.documents store).map (·.resourceName)) kept
      exact absurd (after.symm.trans (same.trans before)) (by decide)
  · obtain ⟨used, served⟩ := postgresSchools_served
    obtain ⟨document, found⟩ := Option.isSome_iff_exists.mp (by decide +kernel :
      (Postgres.documentByUuid postgresSchools.1.committed school).isSome = true)
    have stored : (Postgres.documentByUuid postgresSchools.1.committed school).map
        (fun document => (document.projectName, document.resourceName)) =
          some ("Ed-Fi", "School") := by decide +kernel
    have before : postgresSchools.1.committed.documents.map (·.resourceName) = ["School"] := by
      decide +kernel
    have after : ((@Postgres.documentStore runtime columns school).run services
        (@EntryPoint.run runtime processing quietHandler .update putStudent)
          postgresSchools).2.1.committed.documents.map (·.resourceName) = ["Student"] := by
      decide +kernel
    have named : (@EntryPoint.admission runtime processing _ services .update putStudent
        postgresSchools.2).map target = some (("Ed-Fi", "Student"), some school) := by decide +kernel
    refine ⟨used, postgresSchools, document, served, ?_, school, ?_⟩
    · refine @foreign_of_target runtime processing _ _ _ _ _ _ _ _ _ _ named ?_ ⟨school, rfl, found⟩
      rw [found] at stored
      exact fun same => apart ((Option.some.inj stored).symm.trans same)
    · rintro ⟨kept, -⟩
      have same := congrArg (fun tables => tables.documents.map (·.resourceName)) kept
      exact absurd (after.symm.trans (same.trans before)) (by decide)

/-- Another client deletes the school as if it were a student. -/
private def deleteStudent : FrontendRequest :=
  request ("/v3.3b/ed-fi/students/" ++ school.value) "second" none

/-- The first client reads its school. -/
private def getSchool {Generated : Type} (generated : Generated) : Turn Generated :=
  ⟨generated, quietHandler, .getById, request ("/v3.3b/ed-fi/schools/" ++ school.value) "first" none⟩

private theorem keeping_post {Generated Contents : Type}
    {documentStore : Generated → DocumentStore Contents} {claims : Generated → DocumentUuid → Prop}
    {keeps : Contents → WriteRequest → Prop} (generated : Generated) {world : Contents × Int}
    (kept : ∀ checked write, @Turn.Makes runtime processing _ _ _ documentStore services
      (post generated) world checked write → keeps checked write) :
    @KeepsTags runtime processing _ _ _ _ documentStore services claims keeps [] world
      (post generated) :=
  @KeepsTags.mk runtime processing _ _ _ _ documentStore services claims keeps [] world
    (post generated) (fun same => nomatch same) (fun _ _ _ inside => absurd inside List.not_mem_nil)
    kept

private theorem served_get {Generated Contents : Type}
    {documentStore : Generated → DocumentStore Contents} {claims : Generated → DocumentUuid → Prop}
    {keeps : Contents → WriteRequest → Prop} (generated : Generated) (used : List Generated)
    (world : Contents × Int)
    (fresh : ∀ key, claims generated key → ∀ earlier ∈ used, ¬ claims earlier key) :
    @Served runtime processing _ _ _ documentStore services
      (@KeepsTags runtime processing _ _ _ _ documentStore services claims keeps) (used, world)
      (generated :: used)
      (@Turn.take runtime processing _ _ _ documentStore services (getSchool generated) world) := by
  refine @Served.turn runtime processing _ _ _ documentStore services _ (used, world) used world
    (getSchool generated) (@Served.start runtime processing _ _ _ _ _ _ (used, world)) ?_
  refine @KeepsTags.mk runtime processing _ _ _ _ documentStore services claims keeps used world
    (getSchool generated) (fun same => nomatch same) fresh ?_
  rintro checked write ⟨validated, result, ⟨following, -, planned, -⟩, -⟩
  cases planned

/-- The request is admitted, but the check denies it for the documents of the first client. -/
private theorem acts_not {time : Int} {accepted : WriteRequest → Prop} {document : StoredDocument}
    (first : document.createdBy = "first")
    (refused : (@EntryPoint.admission runtime processing _ services .deleteIt deleteStudent
      time).map (fun validated => decide (Permitted validated "first")) = some false) :
    ¬ @Acts runtime processing _ accepted services .deleteIt deleteStudent time document := by
  rintro (⟨same, -⟩ | ⟨validated, write, ⟨following, admitted, -⟩, permitted, -⟩)
  · cases same
  · rw [Option.mem_def.mp (@EntryPoint.Admits.admission runtime processing _ _ _ _ _ _ _ admitted),
      Option.map_some, Option.some.injEq, decide_eq_false_iff_not] at refused
    rw [first] at permitted
    exact refused permitted

private theorem mongoSchools_keeping : @Served runtime processing _ _ _
    (@Mongo.documentStore runtime) services (@Mongo.KeepsResources runtime processing _ services)
      ([], (Database.empty, 1)) [⟨school, []⟩] mongoSchools := by
  unfold mongoSchools
  refine @Served.turn runtime processing _ _ _ (@Mongo.documentStore runtime) services _
    ([], (Database.empty, 1)) _ _ (post ⟨school, []⟩)
    (@Served.start runtime processing _ _ _ _ _ _ _) (keeping_post _ ?_)
  rintro checked write ⟨validated, result, -, answered, -⟩
  have same := @Mongo.guardAnswer_store runtime Database.empty ⟨school, []⟩ validated
  obtain rfl : Database.empty = checked := same.symm.trans (congrArg Prod.snd answered)
  intro accepted
  cases write with
  | upsert request => exact fun existing stored => absurd stored List.not_mem_nil
  | update request => exact fun existing stored => absurd stored List.not_mem_nil
  | delete request => trivial

private theorem postgresSchools_keeping : @Served runtime processing _ _ _
    (@Postgres.documentStore runtime columns) services
      (@Postgres.KeepsResources runtime columns processing _ services)
      ([], (⟨Postgres.Tables.empty, .idle⟩, 1)) [school] postgresSchools := by
  unfold postgresSchools
  refine @Served.turn runtime processing _ _ _ (@Postgres.documentStore runtime columns) services _
    ([], (⟨Postgres.Tables.empty, .idle⟩, 1)) _ _ (post school)
    (@Served.start runtime processing _ _ _ _ _ _ _) (keeping_post _ ?_)
  rintro checked write ⟨validated, result, -, answered, -⟩
  have same := (@Postgres.guardAnswer_settled runtime columns ⟨Postgres.Tables.empty, .idle⟩ school
    validated (.inl (.inl rfl))).2
  have empty : checked.committed = Postgres.Tables.empty :=
    (congrArg (fun answer => answer.2.committed) answered).symm.trans same
  rw [empty]
  intro accepted
  cases write with
  | upsert request => exact fun existing stored => absurd stored List.not_mem_nil
  | update request => exact fun existing stored => absurd stored List.not_mem_nil
  | delete request => trivial

@[irreducible] private def mongoRead : Mongo.Store × Int :=
  @Turn.take runtime processing _ _ _ (@Mongo.documentStore runtime) services
    (getSchool ⟨documentUuid "000000000002", []⟩) mongoSchools

@[irreducible] private def postgresRead : Postgres.Connection × Int :=
  @Turn.take runtime processing _ _ _ (@Postgres.documentStore runtime columns) services
    (getSchool (documentUuid "000000000002")) postgresSchools

private theorem mongoRead_served : @Served runtime processing _ _ _
    (@Mongo.documentStore runtime) services (@Mongo.KeepsResources runtime processing _ services)
      ([⟨school, []⟩], mongoSchools) [⟨documentUuid "000000000002", []⟩, ⟨school, []⟩] mongoRead := by
  unfold mongoRead
  apply served_get
  intro key inside earlier earlierInside
  rw [List.mem_singleton.mp earlierInside]
  rw [List.mem_singleton.mp inside]
  decide +kernel

private theorem postgresRead_served : @Served runtime processing _ _ _
    (@Postgres.documentStore runtime columns) services
      (@Postgres.KeepsResources runtime columns processing _ services)
      ([school], postgresSchools) [documentUuid "000000000002", school] postgresRead := by
  unfold postgresRead
  apply served_get
  intro key claimed earlier earlierInside
  rw [List.mem_singleton.mp earlierInside]
  obtain rfl : documentUuid "000000000002" = key := Except.ok.inj claimed
  exact fun same => absurd (Except.ok.inj same) (by decide +kernel)

theorem resource_confinement_schools :
    ((∀ generated, Confined id mongoSchools.1 ((@Mongo.documentStore runtime generated).run services
        (@EntryPoint.run runtime processing quietHandler .deleteIt deleteStudent)
          (mongoSchools.1, mongoSchools.2))) ∧
      ∀ other, Mongo.Tagged mongoRead.1 school other → other = ("Ed-Fi", "School")) ∧
    (∀ generated, Confined Postgres.Connection.committed postgresSchools.1
        ((@Postgres.documentStore runtime columns generated).run services
          (@EntryPoint.run runtime processing quietHandler .deleteIt deleteStudent)
            (postgresSchools.1, postgresSchools.2))) ∧
      ∀ other, Postgres.Tagged postgresRead.1.committed school other →
        other = ("Ed-Fi", "School") := by
  refine ⟨⟨?_, ?_⟩, ?_, ?_⟩
  · obtain ⟨document, found⟩ := Option.isSome_iff_exists.mp (by decide +kernel :
      (Mongo.findDocument mongoSchools.1 (.documentUuid school)).isSome = true)
    have stored : (Mongo.findDocument mongoSchools.1 (.documentUuid school)).map (fun document =>
        (document.createdBy, document.projectName, document.resourceName)) =
          some ("first", "Ed-Fi", "School") := by decide +kernel
    have named : (@EntryPoint.admission runtime processing _ services .deleteIt deleteStudent
        mongoSchools.2).map target = some (("Ed-Fi", "Student"), some school) := by decide +kernel
    have refused : (@EntryPoint.admission runtime processing _ services .deleteIt deleteStudent
        mongoSchools.2).map (fun validated => decide (Permitted validated "first")) =
          some false := by decide +kernel
    rw [found, Option.map_some, Option.some.injEq, Prod.mk.injEq] at stored
    have foreign : @Foreign runtime processing _ (fun documentUuid =>
        Mongo.findDocument mongoSchools.1 (.documentUuid documentUuid) = some document) services
        .deleteIt deleteStudent mongoSchools.2 (Mongo.storedDocument document) :=
      @foreign_of_target runtime processing _ _ _ _ _ _ _ _ _ _ named
        (fun same => apart (stored.2.symm.trans same)) found
    exact ((@resource_confinement runtime processing columns _ services).1.1 mongoSchools.1
      mongoSchools.2 .deleteIt deleteStudent document quietHandler rfl foreign).mpr
      (acts_not stored.1 refused)
  · intro other after
    have before : Mongo.Tagged mongoSchools.1 school ("Ed-Fi", "School") := by decide +kernel
    exact (@resource_confinement runtime processing columns _ services).1.2 1 _ mongoSchools _
      mongoRead mongoSchools_keeping mongoRead_served school _ other before after
  · obtain ⟨document, found⟩ := Option.isSome_iff_exists.mp (by decide +kernel :
      (Postgres.documentByUuid postgresSchools.1.committed school).isSome = true)
    have stored : (Postgres.documentByUuid postgresSchools.1.committed school).map (fun document =>
        (document.createdBy, document.projectName, document.resourceName)) =
          some ("first", "Ed-Fi", "School") := by decide +kernel
    have idle : (match postgresSchools.1.block with
        | .idle => true
        | _ => false) = true := by decide +kernel
    have settled : postgresSchools.1.Settled := by
      left
      left
      split at idle
      · assumption
      · cases idle
    have named : (@EntryPoint.admission runtime processing _ services .deleteIt deleteStudent
        postgresSchools.2).map target = some (("Ed-Fi", "Student"), some school) := by decide +kernel
    have refused : (@EntryPoint.admission runtime processing _ services .deleteIt deleteStudent
        postgresSchools.2).map (fun validated => decide (Permitted validated "first")) =
          some false := by decide +kernel
    rw [found, Option.map_some, Option.some.injEq, Prod.mk.injEq] at stored
    have foreign : @Foreign runtime processing _
        (@Postgres.NamedRow columns postgresSchools.1.committed document) services .deleteIt
        deleteStudent postgresSchools.2 (Postgres.storedDocument document) :=
      @foreign_of_target runtime processing _ _ _ _ _ _ _ _ _ _ named
        (fun same => apart (stored.2.symm.trans same)) ⟨school, rfl, found⟩
    exact ((@resource_confinement runtime processing columns _ services).2.1 postgresSchools.1
      postgresSchools.2 .deleteIt deleteStudent document quietHandler settled rfl foreign).mpr
      fun acts => acts_not stored.1 refused acts.2
  · intro other after
    have before : Postgres.Tagged postgresSchools.1.committed school ("Ed-Fi", "School") := by
      decide +kernel
    exact (@resource_confinement runtime processing columns _ services).2.2 1 _ postgresSchools _
      postgresRead postgresSchools_keeping postgresRead_served school _ other before after

example : Mongo.GeneratedUuids.all ⟨documentUuid "000000000001", []⟩ =
    [documentUuid "000000000001"] := by decide +kernel

end Examples
end Meadowlark
