import Meadowlark.Proof.Mongo.LateListeners
import Meadowlark.Proof.Postgres.LateListeners

namespace Meadowlark
open Meadowlark.Core Systems

section Stores
variable [NodeRuntime] [Postgres.ColumnTypes] {Engine : Type} {client : Search.Client Engine}
  {view : Engine → Search.EngineContents} {resources : Set ResourceInfo}

/-- Whenever no request is in progress, the indexes show the documents of either backend, if the
listeners of one document run in the order of its writes and every write can be shown. -/
theorem overlapped_requests_mirrored (reaches : client.Reaches view)
    (apart : Search.IndexesApart resources) :
    (∀ engine store heard, view engine = (fun _ => none) →
      Search.Overlapped Mongo.documentStore (Mongo.WritesSearched resources) client
        (InTurn ListenerEvent.writtenUuid) (Database.empty, engine) ⟨store, [], heard⟩ →
      Search.IndexesMirror resources id (Mongo.searchedDocuments store) (view heard)) ∧
    ∀ engine connection heard, view engine = (fun _ => none) →
      Search.Overlapped Postgres.documentStore (Postgres.WritesSearched resources) client
        (InTurn ListenerEvent.writtenUuid) (⟨Postgres.Tables.empty, .idle⟩, engine)
        ⟨connection, [], heard⟩ →
      Search.IndexesMirror resources Postgres.keptDocument (Postgres.searchedDocuments connection)
        (view heard) := by
  constructor
  · intro engine store heard empty reached
    refine (Mongo.showable resources).reached apart reaches ⟨Mongo.deposited_empty, ?_⟩ empty reached
    exact fun document inside => absurd inside List.not_mem_nil
  · intro engine connection heard empty reached
    exact (Postgres.showable resources).reached apart reaches
      ⟨Postgres.regular_start, Postgres.deposited_empty⟩ empty reached

end Stores

section Examples
open Sample Postgres.Sample

private def firstSchool : DocumentUuid := documentUuid "000000000001"

private def secondSchool : DocumentUuid := documentUuid "000000000002"

/-- A client writes a school with a name. -/
private def schoolRequest (schoolId name clientId : String) (requestTimestamp : Int) :
    UpsertRequest :=
  { upsertRequest (resource "School") "schoolId" schoolId [] none requestTimestamp clientId with
    edfiDoc := .object [("schoolId", .string schoolId), ("nameOfInstitution", .string name)]
    security := ⟨.fullAccess, clientId⟩ }

private def renameSchool (documentUuid : DocumentUuid) (schoolId name clientId : String)
    (requestTimestamp : Int) : WriteRequest :=
  .update { schoolRequest schoolId name clientId requestTimestamp with documentUuid := documentUuid }

private def removeSchool (resourceName : String) (documentUuid : DocumentUuid) : WriteRequest :=
  .delete (deleteRequest (resource resourceName) documentUuid "first")

/-- The resources of the paths. -/
private def pathResources : List ResourceInfo := [resource "School", resource "Student"]

private abbrev served : Set ResourceInfo := {resourceInfo | resourceInfo ∈ pathResources}

private theorem served_apart : @Search.IndexesApart runtime served := by
  have apart : ∀ first ∈ pathResources, ∀ second ∈ pathResources,
      @Search.indexFromResourceInfo runtime first = @Search.indexFromResourceInfo runtime second →
        first.projectName = second.projectName ∧ first.resourceVersion = second.resourceVersion ∧
          first.resourceName = second.resourceName := by decide +kernel
  exact apart

private abbrev mongoServed := @Mongo.documentStore runtime

private abbrev postgresServed := @Postgres.documentStore runtime columns

private def freshEngine : Search.EngineContents := fun _ => none

section Runs
variable {Generated Contents : Type}

/-- A tested write with its report. -/
private def leadTested (documentStore : Generated → DocumentStore Contents)
    (test : Generated → Contents → WriteRequest → Bool) (act : Generated × WriteRequest)
    (contents : Contents) : Option (Option ListenerEvent × Contents) :=
  if test act.1 contents act.2 = true then
    some (act.2.report (documentStore act.1) contents, act.2.contents (documentStore act.1) contents)
  else none

/-- The moves of requests whose writes pass the test, and of listeners in a turn they may have. -/
private def playTested (documentStore : Generated → DocumentStore Contents)
    (test : Generated → Contents → WriteRequest → Bool)
    (due : List ListenerEvent → ListenerEvent → Bool) (start : Contents)
    (moves : List (Following.Move (Generated × WriteRequest))) :
    Option (Following Contents ListenerEvent Search.EngineContents) :=
  Following.play (leadTested documentStore test)
    (fun event engine => ((@Search.listener runtime _ Search.engineClient).hear event engine).2) due
    ⟨start, [], freshEngine⟩ moves

private theorem overlapped_tested {documentStore : Generated → DocumentStore Contents}
    {test : Generated → Contents → WriteRequest → Bool}
    {permitted : Generated → Contents → WriteRequest → Prop}
    {due : List ListenerEvent → ListenerEvent → Bool}
    {may : List ListenerEvent → ListenerEvent → Prop} {start : Contents}
    {moves : List (Following.Move (Generated × WriteRequest))}
    {last : Following Contents ListenerEvent Search.EngineContents}
    (sound : ∀ generated contents write, test generated contents write = true →
      permitted generated contents write)
    (timely : ∀ earlier event, due earlier event = true → may earlier event)
    (played : playTested documentStore test due start moves = some last) :
    @Search.Overlapped runtime _ _ _ documentStore permitted Search.engineClient may
      (start, freshEngine) last := by
  refine Following.Reached.play ?_ timely .start played
  intro act contents report next led
  unfold leadTested at led
  split at led
  · rename_i passed
    cases led
    exact .written (sound _ _ _ passed)
  · cases led

end Runs

private def inTurn (earlier : List ListenerEvent) (event : ListenerEvent) : Bool :=
  decide (InTurn ListenerEvent.writtenUuid earlier event)

/-- The engine can show the document of the write. -/
private def shownTest (documents : List Search.SearchedDocument) (write : WriteRequest) : Bool :=
  (write.deposit.all fun request =>
    decide (request.resourceInfo ∈ pathResources) && (request.edfiDoc.field? "info").isNone) &&
  decide (∀ document ∈ documents, document.WrittenBy write → document.IsOf write.resourceInfo)

private theorem writesShown_tested {documents : List Search.SearchedDocument} {write : WriteRequest}
    (passed : shownTest documents write = true) : Search.WritesShown served documents write := by
  unfold shownTest at passed
  simp only [Bool.and_eq_true, decide_eq_true_eq] at passed
  obtain ⟨deposit, named⟩ := passed
  have own (request : UpsertRequest) (stores : write.deposit = some request) :
      request.resourceInfo ∈ pathResources ∧ request.edfiDoc.field? "info" = none := by
    rw [stores, Option.all_some, Bool.and_eq_true, decide_eq_true_eq] at deposit
    exact ⟨deposit.1, Option.isNone_iff_eq_none.mp deposit.2⟩
  exact ⟨fun request stores => (own request stores).1, fun request stores => (own request stores).2,
    named⟩

/-- The write generates fresh uuids, and an update keeps the identity of a document of the client. -/
private def mongoTest (generated : Mongo.GeneratedUuids) (store : Mongo.Store)
    (write : WriteRequest) : Bool :=
  decide (Mongo.FreshUuids store (@Mongo.callOf generated write)) &&
    (shownTest (Mongo.searchedDocuments store) write &&
      match write with
      | .update request => (Mongo.findDocument store (.id request.meadowlarkId)).any fun document =>
          document.documentUuid = request.documentUuid ∧
            document.createdBy = request.security.clientId
      | _ => true)

private theorem writesSearched_mongo [NodeRuntime] {generated : Mongo.GeneratedUuids}
    {store : Mongo.Store} {write : WriteRequest} (passed : mongoTest generated store write = true) :
    Mongo.WritesSearched served generated store write := by
  unfold mongoTest at passed
  simp only [Bool.and_eq_true, decide_eq_true_eq] at passed
  obtain ⟨fresh, shown, own⟩ := passed
  have owned (request : UpdateRequest) (updates : write = .update request) :
      ∃ document, Mongo.findDocument store (.id request.meadowlarkId) = some document ∧
        document.documentUuid = request.documentUuid ∧
        document.createdBy = request.security.clientId := by
    subst updates
    simpa only [Option.any_eq_true, decide_eq_true_eq] using own
  refine ⟨⟨fresh, ?_⟩, fun _ => writesShown_tested shown, ?_⟩
  · rintro request updates ⟨existing, other, overwrites⟩
    obtain ⟨document, found, named, -⟩ := owned request updates
    obtain rfl : document = other := Option.some.inj (found.symm.trans overwrites.claimed)
    exact overwrites.different named
  · intro request updates admitted document replaced
    obtain ⟨stored, sameId, -⟩ := Mongo.replaceable_some replaced
    obtain ⟨other, found, -, created⟩ := owned request updates
    obtain ⟨otherStored, otherId⟩ := Mongo.findDocument_id found
    obtain rfl : document = other :=
      Mongo.documents_eq_of_id stored otherStored (sameId.trans otherId.symm)
    exact created

private def postgresTest (_ : DocumentUuid) (connection : Postgres.Connection)
    (write : WriteRequest) : Bool :=
  shownTest (Postgres.searchedDocuments connection) write

private theorem writesSearched_postgres {generated : DocumentUuid}
    {connection : Postgres.Connection} {write : WriteRequest}
    (passed : postgresTest generated connection write = true) :
    @Postgres.WritesSearched runtime columns served generated connection write :=
  @Postgres.WritesSearched.mk runtime columns _ _ _ _
    (@Postgres.WritesPlain.mk columns _ _ rfl fun _ _ _ converted => (Except.ok.inj converted).symm)
    fun _ => writesShown_tested passed

/-- Two schools are stored. The first one is renamed before the listener of its insert runs, and the
second one is removed before the listener of the rename runs. -/
private def schoolMoves {Generated : Type} (generated : DocumentUuid → Generated) :
    List (Following.Move (Generated × WriteRequest)) :=
  [.lead (generated firstSchool, .upsert (schoolRequest "1" "one" "first" 1)),
    .lead (generated secondSchool, .upsert (schoolRequest "2" "two" "first" 2)),
    .hear 1,
    .lead (generated (documentUuid "000000000003"), renameSchool firstSchool "1" "uno" "first" 3),
    .hear 0,
    .lead (generated (documentUuid "000000000004"), removeSchool "School" secondSchool),
    .hear 1, .hear 0]

private def entryOfSchool (documentUuid : DocumentUuid) : Search.EngineRequest :=
  @Search.engineRequestFrom runtime (resource "School") documentUuid

/-- Everything has been heard, and the engine has the first school alone. -/
private def holdsFirst {Contents : Type}
    (last : Following Contents ListenerEvent Search.EngineContents) : Bool :=
  last.unheard.isEmpty && (last.follower (entryOfSchool firstSchool)).isSome &&
    (last.follower (entryOfSchool secondSchool)).isNone

private theorem heard_all {Contents : Type}
    {last : Following Contents ListenerEvent Search.EngineContents}
    (held : last.unheard.isEmpty = true) : last = ⟨last.leader, [], last.follower⟩ := by
  obtain ⟨leader, unheard, follower⟩ := last
  obtain rfl : unheard = [] := List.isEmpty_iff.mp held
  rfl

private theorem mongo_played : ∃ last, playTested mongoServed mongoTest inTurn Database.empty
    (schoolMoves fun documentUuid => ⟨documentUuid, []⟩) = some last ∧ holdsFirst last = true :=
  (Option.any_eq_true _ _).mp (by decide +kernel)

private theorem postgres_played : ∃ last, playTested postgresServed postgresTest inTurn
    ⟨Postgres.Tables.empty, .idle⟩ (schoolMoves id) = some last ∧ holdsFirst last = true :=
  (Option.any_eq_true _ _).mp (by decide +kernel)

theorem overlapped_requests_schools :
    (∃ store contents, (contents (entryOfSchool firstSchool)).isSome = true ∧
      (contents (entryOfSchool secondSchool)).isNone = true ∧
      @Search.IndexesMirror runtime served id (Mongo.searchedDocuments store) contents) ∧
    ∃ connection contents, (contents (entryOfSchool firstSchool)).isSome = true ∧
      (contents (entryOfSchool secondSchool)).isNone = true ∧
      @Search.IndexesMirror runtime served (@Postgres.keptDocument columns)
        (Postgres.searchedDocuments connection) contents := by
  have mirrored := @overlapped_requests_mirrored runtime columns _ Search.engineClient id served
    Search.engineClient_reaches served_apart
  have timely (earlier : List ListenerEvent) (event : ListenerEvent)
      (due : inTurn earlier event = true) : InTurn ListenerEvent.writtenUuid earlier event :=
    of_decide_eq_true due
  constructor
  · obtain ⟨last, played, held⟩ := mongo_played
    unfold holdsFirst at held
    simp only [Bool.and_eq_true] at held
    obtain ⟨⟨all, first⟩, second⟩ := held
    have reached := overlapped_tested (fun _ _ _ => @writesSearched_mongo runtime _ _ _) timely played
    rw [heard_all all] at reached
    exact ⟨last.leader, last.follower, first, second, mirrored.1 _ _ _ rfl reached⟩
  · obtain ⟨last, played, held⟩ := postgres_played
    unfold holdsFirst at held
    simp only [Bool.and_eq_true] at held
    obtain ⟨⟨all, first⟩, second⟩ := held
    have reached := overlapped_tested (fun _ _ _ => writesSearched_postgres) timely played
    rw [heard_all all] at reached
    exact ⟨last.leader, last.follower, first, second, mirrored.2 _ _ _ rfl reached⟩

private def freshTest (generated : Mongo.GeneratedUuids) (store : Mongo.Store)
    (write : WriteRequest) : Bool :=
  decide (Mongo.FreshUuids store (@Mongo.callOf generated write))

/-- Every listener runs at once. -/
private def atOnce (earlier : List ListenerEvent) (_ : ListenerEvent) : Bool := earlier.isEmpty

/-- The index of the schools has the first school only if it is stored, and it shows the schools as
they are stored. -/
private def showsSchools (documents : List Search.SearchedDocument)
    (contents : Search.EngineContents) : Bool :=
  ((contents (entryOfSchool firstSchool)).isNone ||
      documents.any fun document => document.documentUuid = firstSchool) &&
    documents.all fun document => !decide (document.IsOf (resource "School")) ||
      (contents (entryOfSchool document.documentUuid)).any fun entry =>
        entry.field? "createdBy" = some (.string document.createdBy) ∧
          entry.field? "info" =
            some (.string (Search.infoFrom document.documentUuid document.edfiDoc).stringify)

private theorem showsSchools_of_mirror {documents : List Search.SearchedDocument}
    {contents : Search.EngineContents}
    (mirror : @Search.IndexesMirror runtime served id documents contents) :
    showsSchools documents contents = true := by
  obtain ⟨stored, shown⟩ := mirror (resource "School") List.mem_cons_self
  unfold showsSchools
  rw [Bool.and_eq_true, Bool.or_eq_true, List.all_eq_true]
  constructor
  · cases found : contents (entryOfSchool firstSchool) with
    | none => exact .inl rfl
    | some entry =>
        obtain ⟨document, inside, -, named, -⟩ := stored firstSchool entry found
        exact .inr (List.any_eq_true.mpr ⟨document, inside, decide_eq_true named⟩)
  · intro document inside
    by_cases isOf : document.IsOf (resource "School")
    · obtain ⟨⟨entry, found, createdBy, edfiDoc, same, info⟩, -⟩ := shown document inside isOf
      have shownEntry : contents (entryOfSchool document.documentUuid) = some entry := found
      rw [shownEntry, same]
      simp only [id, createdBy, info, Option.any_some, and_self, decide_true, Bool.or_true]
    · rw [decide_eq_false isOf]
      rfl

/-- The moves can be made, and once everything has been heard an index does not mirror the
collection. -/
private def StraysAfter (due : List ListenerEvent → ListenerEvent → Bool)
    (moves : List (Following.Move (Mongo.GeneratedUuids × WriteRequest))) : Prop :=
  ∃ last, playTested mongoServed freshTest due Database.empty moves = some last ∧
    @Search.Overlapped runtime _ _ _ mongoServed
      (fun generated store write => Mongo.FreshUuids store (@Mongo.callOf generated write))
      Search.engineClient (fun earlier event => due earlier event = true)
      (Database.empty, freshEngine) last ∧
    last.unheard = [] ∧
    ¬ @Search.IndexesMirror runtime served id (Mongo.searchedDocuments last.leader) last.follower

private theorem strays_tested {due : List ListenerEvent → ListenerEvent → Bool}
    {moves : List (Following.Move (Mongo.GeneratedUuids × WriteRequest))}
    (passed : ((playTested mongoServed freshTest due Database.empty moves).any fun last =>
      last.unheard.isEmpty &&
        !showsSchools (Mongo.searchedDocuments last.leader) last.follower) = true) :
    StraysAfter due moves := by
  obtain ⟨last, played, strays⟩ := (Option.any_eq_true _ _).mp passed
  rw [Bool.and_eq_true, Bool.not_eq_true'] at strays
  refine ⟨last, played, overlapped_tested (fun _ _ _ => of_decide_eq_true) (fun _ _ => id) played,
    List.isEmpty_iff.mp strays.1, fun mirror => ?_⟩
  rw [showsSchools_of_mirror mirror] at strays
  cases strays.2

private def generatedUuids (documentUuid : DocumentUuid) : Mongo.GeneratedUuids :=
  ⟨documentUuid, []⟩

private def storeFirst : Following.Move (Mongo.GeneratedUuids × WriteRequest) :=
  .lead (generatedUuids firstSchool, .upsert (schoolRequest "1" "one" "first" 1))

private def renameFirst (name clientId : String) (requestTimestamp : Int) :
    Following.Move (Mongo.GeneratedUuids × WriteRequest) :=
  .lead (generatedUuids secondSchool, renameSchool firstSchool "1" name clientId requestTimestamp)

/-- The search index strays from the collection when a document is removed through the path of
another resource, when another client renames it, and when two renames are heard in reverse. -/
theorem indexes_stray_school :
    @Search.IndexesApart runtime served ∧
    StraysAfter atOnce [storeFirst, .hear 0,
      .lead (generatedUuids secondSchool, removeSchool "Student" firstSchool), .hear 0] ∧
    StraysAfter atOnce [storeFirst, .hear 0, renameFirst "uno" "second" 2, .hear 0] ∧
    StraysAfter (fun _ _ => true) [storeFirst, .hear 0, renameFirst "uno" "first" 2,
      renameFirst "eins" "first" 3, .hear 1, .hear 0] :=
  ⟨served_apart, strays_tested (by decide +kernel), strays_tested (by decide +kernel),
    strays_tested (by decide +kernel)⟩

end Examples
end Meadowlark
