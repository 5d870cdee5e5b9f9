import Meadowlark.Proof.Mongo.Deposits
import Meadowlark.Proof.Postgres.Deposits
import Meadowlark.Proof.Search.Mirror

namespace Meadowlark
open Meadowlark.Core Systems

namespace Mongo
variable [NodeRuntime] [DocumentProcessing] {Memory : Type}

/-- The requests of a run generate fresh uuids, and no update overwrites another document. -/
abbrev KeepsApart (services : Services Memory) :
    List GeneratedUuids → Store × Memory → Turn GeneratedUuids → Prop :=
  fun _ => Permits documentStore services WritesApart

theorem served_deposited {services : Services Memory} {memory : Memory}
    {used : List GeneratedUuids} {world : Store × (Deposits × Memory)}
    (served : Served documentStore (services.subscribe depositsListener)
      (KeepsApart (services.subscribe depositsListener))
      ([], (Database.empty, (fun _ => none, memory))) used world) :
    Deposited world.1 world.2.1 :=
  keptDeposited.served depositsListener_hearsReports served deposited_empty

/-- The engine holds the stored documents, each as its last write gave it. -/
def Mirrored (store : Store) (contents : Search.EngineContents) : Prop :=
  ∃ deposits, Deposited store deposits ∧ Search.Indexed deposits contents

end Mongo

namespace Postgres
variable [NodeRuntime] [DocumentProcessing] [ColumnTypes] {Memory : Type}

/-- The uuids of a run are spelled as their column gives them back. -/
abbrev KeepsPlain (services : Services Memory) :
    List DocumentUuid → Connection × Memory → Turn DocumentUuid → Prop :=
  fun _ => Permits documentStore services fun generated _ write => WritesPlain generated write

/-- The engine holds the documents of the rows, each as its last write gave it. -/
def Mirrored (tables : Tables) (contents : Search.EngineContents) : Prop :=
  ∃ deposits, Deposited tables deposits ∧ Search.Indexed deposits contents

theorem served_deposited {services : Services Memory} {memory : Memory}
    {used : List DocumentUuid} {world : Connection × (Deposits × Memory)}
    (served : Served documentStore (services.subscribe depositsListener)
      (KeepsPlain (services.subscribe depositsListener))
      ([], (⟨Tables.empty, .idle⟩, (fun _ => none, memory))) used world) :
    Regular world.1 ∧ Deposited world.1.committed world.2.1 :=
  keptDeposited.served depositsListener_hearsReports served ⟨regular_start, deposited_empty⟩

end Postgres

section Stores
variable [NodeRuntime] [DocumentProcessing] [Postgres.ColumnTypes] {Memory : Type}

/-- In either backend the published events tell exactly which documents are stored. -/
theorem published_writes_stored (services : Services Memory) :
    (∀ memory used world, Served Mongo.documentStore (services.subscribe depositsListener)
        (Mongo.KeepsApart (services.subscribe depositsListener))
        ([], (Database.empty, (fun _ => none, memory))) used world →
      Mongo.Deposited world.1 world.2.1) ∧
    ∀ memory used world, Served Postgres.documentStore (services.subscribe depositsListener)
        (Postgres.KeepsPlain (services.subscribe depositsListener))
        ([], (⟨Postgres.Tables.empty, .idle⟩, (fun _ => none, memory))) used world →
      Postgres.Deposited world.1.committed world.2.1 :=
  ⟨fun _ _ _ served => Mongo.served_deposited served,
    fun _ _ _ served => (Postgres.served_deposited served).2⟩

/-- In either backend a client reads the last write of a document. -/
theorem reads_answer_last_writes {services : Services Memory} (attentive : services.Attentive) :
    (∀ memory used world, Served Mongo.documentStore (services.subscribe depositsListener)
        (Mongo.KeepsApart (services.subscribe depositsListener))
        ([], (Database.empty, (fun _ => none, memory))) used world →
      ∀ generated queryHandler frontendRequest validated following documentUuid,
        EntryPoint.getById.Admits (services.subscribe depositsListener) frontendRequest world.2
          validated following →
        validated.middleware.pathComponents.documentUuid = some documentUuid →
        AnswersLastWrite id world.2.1 validated documentUuid
          ((Mongo.documentStore generated).run (services.subscribe depositsListener)
            (EntryPoint.getById.run queryHandler frontendRequest) world).1) ∧
    ∀ memory used world, Served Postgres.documentStore (services.subscribe depositsListener)
        (Postgres.KeepsPlain (services.subscribe depositsListener))
        ([], (⟨Postgres.Tables.empty, .idle⟩, (fun _ => none, memory))) used world →
      world.1.Clean →
      ∀ generated queryHandler frontendRequest validated following documentUuid,
        EntryPoint.getById.Admits (services.subscribe depositsListener) frontendRequest world.2
          validated following →
        validated.middleware.pathComponents.documentUuid = some documentUuid →
        Postgres.uuidColumn documentUuid = .ok documentUuid →
        AnswersLastWrite Postgres.keptDocument world.2.1 validated documentUuid
          ((Postgres.documentStore generated).run (services.subscribe depositsListener)
            (EntryPoint.getById.run queryHandler frontendRequest) world).1 := by
  have attends : (services.subscribe depositsListener).Attentive := attentive.subscribe fun _ _ => rfl
  constructor
  · intro memory used world served generated queryHandler frontendRequest validated following
      documentUuid admitted named
    have deposited := Mongo.served_deposited served
    exact getById_deposit attends admitted named (deposited.serves generated documentUuid)
  · intro memory used world served clean generated queryHandler frontendRequest validated following
      documentUuid admitted named plain
    have deposited := (Postgres.served_deposited served).2
    exact getById_deposit attends admitted named (deposited.serves clean generated plain)

end Stores

section Engine
variable [NodeRuntime] [DocumentProcessing] {Generated Contents Engine Memory : Type}
  {services : Services Memory} {client : Search.Client Engine} {view : Engine → Search.EngineContents}
  {memory : Memory}

/-- The events of the writes reach the engine and an account of the stored documents. -/
abbrev withEngine (client : Search.Client Engine) (services : Services Memory) :
    Services ((Deposits × Engine) × Memory) :=
  services.subscribe (depositsListener.and (Search.listener client))

/-- The permitted requests whose writes name the index of their documents. -/
def NamesIndexes (documentStore : Generated → DocumentStore Contents)
    (services : Services ((Deposits × Engine) × Memory))
    (permitted : Generated → Contents → WriteRequest → Prop)
    (world : Contents × ((Deposits × Engine) × Memory)) : Turn Generated → Prop :=
  Permits documentStore services (fun generated contents write =>
    permitted generated contents write ∧
      Search.TellsIndex world.2.1.1 (write.report (documentStore generated) contents)) world

/-- What holds of the document store and the deposits holds along a run with an engine,
and the engine keeps up. -/
theorem served_indexed {documentStore : Generated → DocumentStore Contents}
    {permitted : Generated → Contents → WriteRequest → Prop} {holds : Contents → Deposits → Prop}
    (kept : KeptByRequests documentStore depositsListener
      (fun generated contents _ write => permitted generated contents write) holds)
    (reaches : client.Reaches view) {start : Contents} (begun : holds start fun _ => none)
    {engine : Engine} (empty : view engine = fun _ => none) {used : List Generated}
    {world : Contents × ((Deposits × Engine) × Memory)}
    (served : Served documentStore (withEngine client services)
      (fun _ => NamesIndexes documentStore (withEngine client services) permitted)
      ([], (start, ((fun _ => none, engine), memory))) used world) :
    holds world.1 world.2.1.1 ∧ Search.Indexed world.2.1.1 (view world.2.1.2) := by
  have follows := kept.and fun report deposits engine
      (indexed : Search.Indexed deposits (view engine)) (tells : Search.TellsIndex deposits report) =>
    Search.indexed_told reaches report deposits engine indexed tells
  apply follows.served (depositsListener_hearsReports.and Search.listener_hearsReports) served
  refine ⟨begun, ?_⟩
  dsimp only
  rw [empty]
  exact Search.indexed_empty

/-- The engine holds exactly the stored documents, as long as every write names the index of its
document. A write that names another one is where the engine goes wrong. -/
theorem engine_mirrors_store [Postgres.ColumnTypes] (services : Services Memory)
    (reaches : client.Reaches view) :
    (∀ engine memory used world, view engine = (fun _ => none) →
      Served Mongo.documentStore (withEngine client services)
        (fun _ => NamesIndexes Mongo.documentStore (withEngine client services) Mongo.WritesApart)
        ([], (Database.empty, ((fun _ => none, engine), memory))) used world →
      Mongo.Mirrored world.1 (view world.2.1.2)) ∧
    (∀ engine memory used world, view engine = (fun _ => none) →
      Served Postgres.documentStore (withEngine client services)
        (fun _ => NamesIndexes Postgres.documentStore (withEngine client services)
          fun generated _ write => Postgres.WritesPlain generated write)
        ([], (⟨Postgres.Tables.empty, .idle⟩, ((fun _ => none, engine), memory))) used world →
      Postgres.Mirrored world.1.committed (view world.2.1.2)) ∧
    ∀ deposits engine event, Search.Indexed deposits (view engine) →
      (Search.Indexed (deposits.after event) (view ((Search.listener client).hear event engine).2) ↔
        Search.NamesIndex deposits event) := by
  refine ⟨?_, ?_, ?_⟩
  · intro engine memory used world empty served
    have held := served_indexed Mongo.keptDeposited reaches Mongo.deposited_empty empty served
    exact ⟨_, held⟩
  · intro engine memory used world empty served
    have held := served_indexed Postgres.keptDeposited reaches
      ⟨Postgres.regular_start, Postgres.deposited_empty⟩ empty served
    exact ⟨_, held.1.2, held.2⟩
  · intro deposits engine event indexed
    exact Search.indexed_hear_iff reaches indexed event

end Engine

section Examples
open Sample Postgres.Sample

private def keptSchool : DocumentUuid := documentUuid "000000000001"

private def removedSchool : DocumentUuid := documentUuid "000000000002"

private def noQueries : QueryHandlerPlugin := ⟨fun _ => pure ⟨.querySuccess, [], none, none⟩⟩

private def schoolPath (documentUuid : DocumentUuid) : String :=
  "/v3.3b/ed-fi/schools/" ++ documentUuid.value

private def storeSchool {Generated : Type} (generated : Generated) (schoolId : String) :
    Turn Generated :=
  ⟨generated, noQueries, .upsert, request "/v3.3b/ed-fi/schools" "first"
    (some ("\x7b\"schoolId\": \"" ++ schoolId ++ "\"\x7d"))⟩

private def putSchool {Generated : Type} (generated : Generated) (documentUuid : DocumentUuid)
    (schoolId : String) : Turn Generated :=
  ⟨generated, noQueries, .update, request (schoolPath documentUuid) "first"
    (some ("\x7b\"id\": \"" ++ documentUuid.value ++ "\", \"schoolId\": \"" ++ schoolId ++ "\"\x7d"))⟩

private def deleteSchool {Generated : Type} (generated : Generated) (documentUuid : DocumentUuid) :
    Turn Generated :=
  ⟨generated, noQueries, .deleteIt, request (schoolPath documentUuid) "first" none⟩

/-- A client stores two schools, gives the first one a new identity and deletes the second one. -/
private def schoolTurns {Generated : Type} (generated : DocumentUuid → Generated) :
    List (Turn Generated) :=
  [storeSchool (generated keptSchool) "1", storeSchool (generated removedSchool) "2",
    putSchool (generated (documentUuid "000000000003")) keptSchool "3",
    deleteSchool (generated (documentUuid "000000000004")) removedSchool]

section Runs
variable {Generated Contents State : Type} [NodeRuntime] [DocumentProcessing]
  {documentStore : Generated → DocumentStore Contents} {services : Services State}

/-- The write to which a turn comes, with the contents that its check leaves. -/
private def comesTo (documentStore : Generated → DocumentStore Contents) (services : Services State)
    (world : Contents × State) (turn : Turn Generated) : Option (Contents × WriteRequest) :=
  (turn.entryPoint.admission services turn.frontendRequest world.2).bind fun validated =>
    (plannedWrite turn.entryPoint validated).map fun write =>
      ((guardAnswer (documentStore turn.generated) validated world.1).2, write)

private theorem comesTo_makes {world : Contents × State} {turn : Turn Generated}
    {checked : Contents} {write : WriteRequest}
    (makes : turn.Makes documentStore services world checked write) :
    comesTo documentStore services world turn = some (checked, write) := by
  obtain ⟨validated, result, ⟨following, admitted, planned, -⟩, answered, -⟩ := makes
  have admission := Option.mem_def.mp admitted.admission
  unfold comesTo
  rw [admission, Option.bind_some, planned, Option.map_some, answered]

/-- The turns are taken as long as none is a query and each write meets the test. -/
private def takeTested (documentStore : Generated → DocumentStore Contents)
    (services : Services State)
    (test : Contents × State → Generated → Contents × WriteRequest → Bool) :
    Contents × State → List (Turn Generated) → Option (Contents × State)
  | world, [] => some world
  | world, turn :: turns =>
      if turn.entryPoint ≠ .query ∧
          (comesTo documentStore services world turn).all (test world turn.generated) = true then
        takeTested documentStore services test (turn.take documentStore services world) turns
      else none

private theorem served_tested {start : List Generated × (Contents × State)}
    {test : Contents × State → Generated → Contents × WriteRequest → Bool}
    {permitted : Contents × State → Generated → Contents → WriteRequest → Prop}
    (sound : ∀ world generated checked write, test world generated (checked, write) = true →
      permitted world generated checked write)
    (turns : List (Turn Generated)) {used : List Generated} {world last : Contents × State}
    (served : Served documentStore services
      (fun _ world => Permits documentStore services (permitted world) world) start used world)
    (taken : takeTested documentStore services test world turns = some last) :
    ∃ used, Served documentStore services
      (fun _ world => Permits documentStore services (permitted world) world) start used last := by
  induction turns generalizing used world with
  | nil =>
      obtain rfl := Option.some.inj taken
      exact ⟨used, served⟩
  | cons turn turns ih =>
      unfold takeTested at taken
      split at taken
      · rename_i passed
        apply ih (served.turn ?_) taken
        refine ⟨fun query => absurd query passed.1, fun checked write makes => ?_⟩
        have admitted := passed.2
        rw [comesTo_makes makes] at admitted
        exact sound world turn.generated checked write admitted
      · cases taken

private theorem served_taken {test : Contents × State → Generated → Contents × WriteRequest → Bool}
    {permitted : Contents × State → Generated → Contents → WriteRequest → Prop}
    (sound : ∀ world generated checked write, test world generated (checked, write) = true →
      permitted world generated checked write)
    {turns : List (Turn Generated)} {world last : Contents × State}
    (taken : takeTested documentStore services test world turns = some last) :
    ∃ used, Served documentStore services
      (fun _ world => Permits documentStore services (permitted world) world) ([], world) used last :=
  served_tested sound turns .start taken

end Runs

/-- The write generates fresh uuids, and the id of an update is free or its own. -/
private def apartTest (generated : Mongo.GeneratedUuids) (made : Mongo.Store × WriteRequest) :
    Bool :=
  decide (Mongo.FreshUuids made.1 (@Mongo.callOf generated made.2)) &&
    match made.2 with
    | .update updateRequest => (Mongo.findDocument made.1 (.id updateRequest.meadowlarkId)).all
        fun other => other.documentUuid = updateRequest.documentUuid
    | .upsert _ | .delete _ => true

private theorem writesApart_tested [NodeRuntime] {generated : Mongo.GeneratedUuids}
    {checked : Mongo.Store} {write : WriteRequest}
    (passed : apartTest generated (checked, write) = true) :
    Mongo.WritesApart generated checked write := by
  unfold apartTest at passed
  simp only [Bool.and_eq_true, decide_eq_true_eq] at passed
  obtain ⟨fresh, alone⟩ := passed
  refine ⟨fresh, ?_⟩
  rintro updateRequest rfl ⟨existing, other, overwrites⟩
  dsimp only at alone
  rw [overwrites.claimed, Option.all_some, decide_eq_true_eq] at alone
  exact overwrites.different alone

/-- A write that succeeds names the index of its deposit. -/
private def namesIndexTest [NodeRuntime] (deposits : Deposits) : ListenerEvent → Bool
  | .afterUpsertDocument request (.insertSuccess documentUuid)
  | .afterUpsertDocument request (.updateSuccess documentUuid) =>
      decide (Search.KeepsIndex deposits documentUuid request.resourceInfo)
  | .afterUpdateDocumentById request .updateSuccess =>
      decide (Search.KeepsIndex deposits request.documentUuid request.resourceInfo)
  | .afterDeleteDocumentById request .deleteSuccess =>
      decide (Search.KeepsIndex deposits request.documentUuid request.resourceInfo)
  | _ => true

private theorem tellsIndex_tested [NodeRuntime] {deposits : Deposits}
    {report : Option ListenerEvent} (passed : report.all (namesIndexTest deposits) = true) :
    Search.TellsIndex deposits report := by
  rintro event rfl
  rw [Option.all_some] at passed
  have keeps {documentUuid : DocumentUuid} {resourceInfo : ResourceInfo}
      (tested : decide (Search.KeepsIndex deposits documentUuid resourceInfo) = true) :
      Search.KeepsIndex deposits documentUuid resourceInfo := of_decide_eq_true tested
  cases event with
  | afterUpsertDocument request result =>
      cases result <;> first | trivial | exact keeps passed
  | afterUpdateDocumentById request result =>
      cases result <;> first | trivial | exact keeps passed
  | afterDeleteDocumentById request result =>
      cases result <;> first | trivial | exact keeps passed
  | _ => trivial

private theorem writesPlain_sample (generated : DocumentUuid) (write : WriteRequest) :
    @Postgres.WritesPlain columns generated write :=
  @Postgres.WritesPlain.mk columns _ _ rfl fun _ _ _ converted => (Except.ok.inj converted).symm

private abbrev accounted : Services (Deposits × Int) := services.subscribe depositsListener

private abbrev engineServices : Services ((Deposits × Search.EngineContents) × Int) :=
  @withEngine runtime _ _ Search.engineClient services

private abbrev mongoStore := @Mongo.documentStore runtime

private abbrev postgresStore := @Postgres.documentStore runtime columns

private abbrev mongoTurns : List (Turn Mongo.GeneratedUuids) :=
  schoolTurns fun documentUuid => ⟨documentUuid, []⟩

private abbrev postgresTurns : List (Turn DocumentUuid) := schoolTurns id

private def noDeposits : Deposits := fun _ => none

private def emptyEngine : Search.EngineContents := fun _ => none

/-- The client reads the school with this uuid. -/
private def readSchool (documentUuid : DocumentUuid) : FrontendRequest :=
  (@parsePath runtime ⟨request (schoolPath documentUuid) "first" none, none⟩).frontendRequest

/-- The uuid that a read names once it has been admitted. -/
private def readUuid (documentUuid : DocumentUuid) (state : Deposits × Int) :
    Option (Option DocumentUuid) :=
  (@EntryPoint.admission runtime processing _ accounted .getById (readSchool documentUuid) state).map
    (·.middleware.pathComponents.documentUuid)

private def schoolEntry (documentUuid : DocumentUuid) : Search.EngineRequest :=
  @Search.engineRequestFrom runtime (resource "School") documentUuid

private def isIdle : Postgres.TransactionBlock → Bool
  | .idle => true
  | _ => false

private theorem clean_of_isIdle {connection : Postgres.Connection}
    (idle : isIdle connection.block = true) : connection.Clean := by
  unfold Postgres.Connection.Clean
  cases same : connection.block <;> first | exact .inl rfl | (rw [same] at idle; cases idle)

/-- The first school is there with its new identity, and the second one is not. -/
private def isUpdated (deposits : Deposits) : Bool :=
  decide ((deposits keptSchool).map (·.documentInfo.documentIdentity) =
    some [("schoolId", .string "3")]) && (deposits removedSchool).isNone

private def holdsKept (contents : Search.EngineContents) : Bool :=
  (contents (schoolEntry keptSchool)).isSome && (contents (schoolEntry removedSchool)).isNone

private abbrev mongoTaken : Option (Mongo.Store × (Deposits × Int)) :=
  @takeTested _ _ _ runtime processing mongoStore accounted (fun _ => apartTest)
    (Database.empty, (noDeposits, 1)) mongoTurns

private abbrev postgresTaken : Option (Postgres.Connection × (Deposits × Int)) :=
  @takeTested _ _ _ runtime processing postgresStore accounted (fun _ _ _ => true)
    (⟨Postgres.Tables.empty, .idle⟩, (noDeposits, 1)) postgresTurns

private theorem mongo_taken : ∃ last, mongoTaken = some last ∧ isUpdated last.2.1 = true ∧
    ∀ documentUuid ∈ [keptSchool, removedSchool],
      readUuid documentUuid last.2 = some (some documentUuid) := by
  have taken : (mongoTaken.any fun last => isUpdated last.2.1 = true ∧
      ∀ documentUuid ∈ [keptSchool, removedSchool],
        readUuid documentUuid last.2 = some (some documentUuid)) = true := by decide +kernel
  simpa only [Option.any_eq_true, decide_eq_true_eq] using taken

private theorem postgres_taken : ∃ last, postgresTaken = some last ∧
    isUpdated last.2.1 = true ∧ isIdle last.1.block = true ∧
    ∀ documentUuid ∈ [keptSchool, removedSchool],
      readUuid documentUuid last.2 = some (some documentUuid) := by
  have taken : (postgresTaken.any fun last => isUpdated last.2.1 = true ∧
      isIdle last.1.block = true ∧ ∀ documentUuid ∈ [keptSchool, removedSchool],
        readUuid documentUuid last.2 = some (some documentUuid)) = true := by decide +kernel
  simpa only [Option.any_eq_true, decide_eq_true_eq] using taken

private def mongoEngineTest (world : Mongo.Store × ((Deposits × Search.EngineContents) × Int))
    (generated : Mongo.GeneratedUuids) (made : Mongo.Store × WriteRequest) : Bool :=
  apartTest generated made &&
    (made.2.report (mongoStore generated) made.1).all (@namesIndexTest runtime world.2.1.1)

private def postgresEngineTest
    (world : Postgres.Connection × ((Deposits × Search.EngineContents) × Int))
    (generated : DocumentUuid) (made : Postgres.Connection × WriteRequest) : Bool :=
  (made.2.report (postgresStore generated) made.1).all (@namesIndexTest runtime world.2.1.1)

private abbrev mongoIndexed : Option (Mongo.Store × ((Deposits × Search.EngineContents) × Int)) :=
  @takeTested _ _ _ runtime processing mongoStore engineServices mongoEngineTest
    (Database.empty, ((noDeposits, emptyEngine), 1)) mongoTurns

private abbrev postgresIndexed :
    Option (Postgres.Connection × ((Deposits × Search.EngineContents) × Int)) :=
  @takeTested _ _ _ runtime processing postgresStore engineServices postgresEngineTest
    (⟨Postgres.Tables.empty, .idle⟩, ((noDeposits, emptyEngine), 1)) postgresTurns

private theorem mongo_indexed :
    ∃ last, mongoIndexed = some last ∧ holdsKept last.2.1.2 = true :=
  (Option.any_eq_true _ _).mp (by decide +kernel)

private theorem postgres_indexed :
    ∃ last, postgresIndexed = some last ∧ holdsKept last.2.1.2 = true :=
  (Option.any_eq_true _ _).mp (by decide +kernel)

private theorem mongoTaken_served {last : Mongo.Store × (Deposits × Int)}
    (taken : mongoTaken = some last) : ∃ used,
    @Served runtime processing _ _ _ mongoStore accounted
      (@Mongo.KeepsApart runtime processing _ accounted) ([], (Database.empty, (noDeposits, 1))) used
      last := by
  refine @served_taken _ _ _ runtime processing mongoStore accounted (fun _ => apartTest)
    (fun _ => @Mongo.WritesApart runtime) ?_ mongoTurns _ _ taken
  intro world generated checked write passed
  exact @writesApart_tested runtime _ _ _ passed

private theorem postgresTaken_served {last : Postgres.Connection × (Deposits × Int)}
    (taken : postgresTaken = some last) : ∃ used,
    @Served runtime processing _ _ _ postgresStore accounted
      (@Postgres.KeepsPlain runtime processing columns _ accounted)
      ([], (⟨Postgres.Tables.empty, .idle⟩, (noDeposits, 1))) used last := by
  refine @served_taken _ _ _ runtime processing postgresStore accounted (fun _ _ _ => true)
    (fun _ generated _ write => @Postgres.WritesPlain columns generated write) ?_ postgresTurns _ _
    taken
  intro world generated checked write passed
  exact writesPlain_sample generated write

private theorem mongoIndexed_served {last : Mongo.Store × ((Deposits × Search.EngineContents) × Int)}
    (taken : mongoIndexed = some last) : ∃ used,
    @Served runtime processing _ _ _ mongoStore engineServices
      (fun _ => @NamesIndexes runtime processing _ _ _ _ mongoStore engineServices
        (@Mongo.WritesApart runtime))
      ([], (Database.empty, ((noDeposits, emptyEngine), 1))) used last := by
  refine @served_taken _ _ _ runtime processing mongoStore engineServices mongoEngineTest
    (fun world generated checked write => @Mongo.WritesApart runtime generated checked write ∧
      @Search.TellsIndex runtime world.2.1.1 (write.report (mongoStore generated) checked))
    ?_ mongoTurns _ _ taken
  intro world generated checked write passed
  obtain ⟨apart, tells⟩ := Bool.and_eq_true_iff.mp passed
  exact ⟨@writesApart_tested runtime _ _ _ apart, @tellsIndex_tested runtime _ _ tells⟩

private theorem postgresIndexed_served
    {last : Postgres.Connection × ((Deposits × Search.EngineContents) × Int)}
    (taken : postgresIndexed = some last) : ∃ used,
    @Served runtime processing _ _ _ postgresStore engineServices
      (fun _ => @NamesIndexes runtime processing _ _ _ _ postgresStore engineServices
        fun generated _ write => @Postgres.WritesPlain columns generated write)
      ([], (⟨Postgres.Tables.empty, .idle⟩, ((noDeposits, emptyEngine), 1))) used last := by
  refine @served_taken _ _ _ runtime processing postgresStore engineServices postgresEngineTest
    (fun world generated checked write => @Postgres.WritesPlain columns generated write ∧
      @Search.TellsIndex runtime world.2.1.1 (write.report (postgresStore generated) checked))
    ?_ postgresTurns _ _ taken
  intro world generated checked write passed
  exact ⟨writesPlain_sample generated write, @tellsIndex_tested runtime _ _ passed⟩

theorem published_school_stored :
    (∃ world : Mongo.Store × (Deposits × Int), isUpdated world.2.1 = true ∧
      @Mongo.Deposited runtime world.1 world.2.1) ∧
    ∃ world : Postgres.Connection × (Deposits × Int), isUpdated world.2.1 = true ∧
      @Postgres.Deposited columns world.1.committed world.2.1 := by
  have stored := @published_writes_stored runtime processing columns _ services
  obtain ⟨last, taken, updated⟩ := mongo_taken
  obtain ⟨used, served⟩ := mongoTaken_served taken
  obtain ⟨lastAgain, takenAgain, updatedAgain⟩ := postgres_taken
  obtain ⟨usedAgain, servedAgain⟩ := postgresTaken_served takenAgain
  exact ⟨⟨last, updated.1, stored.1 _ _ _ served⟩,
    ⟨lastAgain, updatedAgain.1, stored.2 _ _ _ servedAgain⟩⟩

/-- The read of the school after the run. -/
private abbrev readAfter {Generated Contents : Type}
    (documentStore : Generated → DocumentStore Contents) (generated : Generated)
    (documentUuid : DocumentUuid) (world : Contents × (Deposits × Int)) :
    Except Exception FrontendResponse :=
  ((documentStore generated).run accounted
    (@EntryPoint.run runtime processing noQueries .getById (readSchool documentUuid)) world).1

/-- The changed school and the deleted one are read by their last writes. -/
theorem last_write_of_school_read :
    (∃ world : Mongo.Store × (Deposits × Int), isUpdated world.2.1 = true ∧
      ∀ documentUuid ∈ [keptSchool, removedSchool], ∃ validated,
        @AnswersLastWrite runtime id world.2.1 validated documentUuid
          (readAfter mongoStore ⟨documentUuid, []⟩ documentUuid world)) ∧
    ∃ world : Postgres.Connection × (Deposits × Int), isUpdated world.2.1 = true ∧
      ∀ documentUuid ∈ [keptSchool, removedSchool], ∃ validated,
        @AnswersLastWrite runtime (@Postgres.keptDocument columns) world.2.1 validated documentUuid
          (readAfter postgresStore documentUuid documentUuid world) := by
  have attentive : services.Attentive := fun _ _ => rfl
  have answers := @reads_answer_last_writes runtime processing columns _ services attentive
  constructor
  · obtain ⟨last, taken, updated, readable⟩ := mongo_taken
    obtain ⟨used, served⟩ := mongoTaken_served taken
    refine ⟨last, updated, fun documentUuid listed => ?_⟩
    obtain ⟨validated, admission, named⟩ :=
      Option.map_eq_some_iff.mp (readable documentUuid listed)
    obtain ⟨following, admitted⟩ := @EntryPoint.admits_of_admission runtime processing _ _ _ _ _ _
      admission
    exact ⟨validated, answers.1 1 _ _ served _ noQueries _ validated following _ admitted named⟩
  · obtain ⟨last, taken, updated, idle, readable⟩ := postgres_taken
    obtain ⟨used, served⟩ := postgresTaken_served taken
    refine ⟨last, updated, fun documentUuid listed => ?_⟩
    obtain ⟨validated, admission, named⟩ :=
      Option.map_eq_some_iff.mp (readable documentUuid listed)
    obtain ⟨following, admitted⟩ := @EntryPoint.admits_of_admission runtime processing _ _ _ _ _ _
      admission
    exact ⟨validated, answers.2 1 _ _ served (clean_of_isIdle idle) _ noQueries _ validated
      following _ admitted named rfl⟩

theorem engine_mirrors_school :
    (∃ world : Mongo.Store × ((Deposits × Search.EngineContents) × Int),
      holdsKept world.2.1.2 = true ∧ @Mongo.Mirrored runtime world.1 world.2.1.2) ∧
    ∃ world : Postgres.Connection × ((Deposits × Search.EngineContents) × Int),
      holdsKept world.2.1.2 = true ∧
      @Postgres.Mirrored runtime columns world.1.committed world.2.1.2 := by
  have mirrors := @engine_mirrors_store runtime processing _ _ Search.engineClient id columns services
    Search.engineClient_reaches
  obtain ⟨last, taken, kept⟩ := mongo_indexed
  obtain ⟨used, served⟩ := mongoIndexed_served taken
  obtain ⟨lastAgain, takenAgain, keptAgain⟩ := postgres_indexed
  obtain ⟨usedAgain, servedAgain⟩ := postgresIndexed_served takenAgain
  exact ⟨⟨last, kept, mirrors.1 emptyEngine 1 _ _ rfl served⟩,
    ⟨lastAgain, keptAgain, mirrors.2.1 emptyEngine 1 _ _ rfl servedAgain⟩⟩

end Examples
end Meadowlark
