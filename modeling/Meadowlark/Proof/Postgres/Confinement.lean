import Meadowlark.Proof.Core.Confinement
import Meadowlark.Proof.Postgres.Exits
import Meadowlark.Proof.Postgres.Requests

namespace Meadowlark.Postgres
open Meadowlark.Core Systems
variable [NodeRuntime] [ColumnTypes]

section Settled
variable {connection : Connection} {Result : Type}

/-- The connection shows the committed tables, or a statement of its block has failed. -/
def Connection.Settled (connection : Connection) : Prop :=
  connection.Clean ∨ connection.block = .failed

/-- The session only selects rows. -/
abbrev Selects (session : Session Result) : Prop :=
  Program.Confined (fun statement => statement.reads = true) (fun _ => True) session

omit [NodeRuntime] in
theorem send_aborted {statement : Statement} (plain : statement.plain = true)
    (committed : Tables) : (⟨committed, .failed⟩ : Connection).send statement =
      (.error transactionAborted, ⟨committed, .failed⟩) := by
  cases statement <;> first | rfl | cases plain

omit [NodeRuntime] in
theorem send_reads {statement : Statement} (reads : statement.reads = true)
    (settled : connection.Settled) : (connection.send statement).2.Settled ∧
      (connection.send statement).2.committed = connection.committed := by
  obtain ⟨committed, block⟩ := connection
  have plain := Statement.reads_plain reads
  rcases settled with (same | same) | same
  · obtain rfl : block = .idle := same
    rw [send_plain_idle plain]
    cases executed : execute statement committed with
    | error error => exact ⟨.inl (.inl rfl), rfl⟩
    | ok answer =>
        obtain ⟨following, rows⟩ := answer
        obtain rfl := execute_reads reads executed
        exact ⟨.inl (.inl rfl), rfl⟩
  · obtain rfl : block = .active committed := same
    rw [send_plain plain]
    cases executed : execute statement committed with
    | error error => exact ⟨.inr rfl, rfl⟩
    | ok answer =>
        obtain ⟨following, rows⟩ := answer
        obtain rfl := execute_reads reads executed
        exact ⟨.inl (.inr rfl), rfl⟩
  · obtain rfl : block = .failed := same
    rw [send_aborted plain]
    exact ⟨.inr rfl, rfl⟩

omit [NodeRuntime] in
/-- A session that only selects rows leaves the committed tables and settles its block. -/
theorem Selects.run {session : Session Result} (selects : Selects session)
    (settled : connection.Settled) : (connection.run session).2.Settled ∧
      (connection.run session).2.committed = connection.committed := by
  rw [run_runState]
  refine @Program.Within.runState_state _ _ _ _ _ _ _ _ _
    (fun following : Connection => following.Settled ∧
      following.committed = connection.committed) _ selects ?_
    ⟨settled, rfl⟩
  rintro statement following reads ⟨settled, same⟩
  obtain ⟨settledAfter, kept⟩ := send_reads reads settled
  exact ⟨settledAfter, kept.trans same⟩

omit [NodeRuntime] in
theorem Selects.run_failed {session : Session Result} (selects : Selects session)
    (committed : Tables) : ((⟨committed, .failed⟩ : Connection).run session).2 =
      ⟨committed, .failed⟩ := by
  rw [run_runState]
  refine @Program.Within.runState_state _ _ _ _ _ _ _ _ _
    (fun following : Connection => following = ⟨committed, .failed⟩) _ selects ?_ rfl
  rintro statement _ reads rfl
  rw [send_aborted (Statement.reads_plain reads)]

omit [NodeRuntime] [ColumnTypes] in
theorem selects_query {statement : Statement} (reads : statement.reads = true) :
    Selects (query statement) := by
  refine ⟨reads, ?_⟩
  rintro (_ | _)
  · exact trivial
  · exact trivial

omit [ColumnTypes] in
theorem selects_rejectByOwnershipSecurity (frontendRequest : FrontendRequest) :
    Selects (rejectByOwnershipSecurity frontendRequest) := by
  have pure_selects (result : SecurityResult) : Selects (pure result : Session SecurityResult) :=
    Program.confined_pure trivial
  have access (createdBy : Option String) :
      Selects (pure (accessFor frontendRequest createdBy) : Session SecurityResult) :=
    Program.confined_pure trivial
  unfold rejectByOwnershipSecurity
  split
  · exact pure_selects _
  · apply Program.Confined.tryCatch
    · unfold tryOwnership
      split
      · rename_i documentUuid named
        have found : Selects (findOwnershipForDocumentByDocumentUuid documentUuid) :=
          Program.Confined.bind (selects_query rfl) fun _ _ => Program.confined_pure trivial
        exact Program.Confined.bind found fun createdBy _ => access createdBy
      · dsimp only
        split
        · exact pure_selects _
        · have found (meadowlarkId : MeadowlarkId) :
              Selects (findOwnershipForDocumentByMeadowlarkId meadowlarkId) :=
            Program.Confined.bind (selects_query rfl) fun _ _ => Program.confined_pure trivial
          exact Program.Confined.bind (found _) fun createdBy _ => access createdBy
    · exact fun _ => pure_selects _

omit [NodeRuntime] [ColumnTypes] in
theorem selects_getDocumentByDocumentUuid (getRequest : GetRequest) :
    Selects (getDocumentByDocumentUuid getRequest) := by
  apply Program.Confined.tryCatch
  · unfold tryGet
    have found : Selects (findDocumentByDocumentUuid getRequest.documentUuid) :=
      Program.Confined.bind (selects_query rfl) fun _ _ => Program.confined_pure trivial
    apply Program.Confined.bind found
    intro found _
    cases found with
    | none => exact Program.confined_pure trivial
    | some document => exact Program.confined_pure trivial
  · exact fun _ => Program.confined_pure trivial

theorem guardAnswer_settled (generated : DocumentUuid) (validated : FrontendRequest)
    (settled : connection.Settled) :
    (guardAnswer (documentStore generated) validated connection).2.Settled ∧
      (guardAnswer (documentStore generated) validated connection).2.committed =
        connection.committed := by
  unfold guardAnswer
  split
  · change (serveSession _ connection).2.Settled ∧ (serveSession _ connection).2.committed = _
    rw [serveSession_snd]
    exact (selects_rejectByOwnershipSecurity validated).run settled
  · exact ⟨settled, rfl⟩

theorem get_settled (generated : DocumentUuid) (getRequest : GetRequest)
    (settled : connection.Settled) :
    ((documentStore generated).getDocumentById getRequest connection).2.Settled ∧
      ((documentStore generated).getDocumentById getRequest connection).2.committed =
        connection.committed := by
  change (serveSession _ connection).2.Settled ∧ (serveSession _ connection).2.committed = _
  rw [serveSession_snd]
  exact (selects_getDocumentByDocumentUuid getRequest).run settled

/-- A failed block answers no call with a success, and the rollback ends it. -/
theorem repositorySession_failed (committed : Tables) (call : RepositoryCall) :
    ∃ result, (⟨committed, .failed⟩ : Connection).run (repositorySession call) =
      (.ok result, ⟨committed, .idle⟩) ∧ result.succeeded = false := by
  cases call with
  | upsert generated upsertRequest => exact ⟨_, rfl, rfl⟩
  | update updateRequest => exact ⟨_, rfl, rfl⟩
  | delete deleteRequest => exact ⟨_, rfl, rfl⟩

/-- A failed block fails every call of the frontend. -/
theorem fails_of_failed (generated : DocumentUuid) (committed : Tables) :
    (documentStore generated).Fails Connection.committed ⟨committed, .failed⟩ where
  checked validated := by
    unfold guardAnswer
    split
    · change (serveSession _ _).2 = _
      rw [serveSession_snd]
      exact (selects_rejectByOwnershipSecurity validated).run_failed committed
    · rfl
  read request := rfl
  kept write := by
    obtain ⟨result, done, -⟩ := repositorySession_failed committed (callOf generated write)
    rw [contents_callOf, done]
  failed write := by
    obtain ⟨result, done, unsuccessful⟩ :=
      repositorySession_failed committed (callOf generated write)
    rw [succeeds_callOf, done]
    rintro ⟨_, ⟨⟩, succeeded⟩
    exact absurd (succeeded.symm.trans unsuccessful) nofun

/-- A call settles the connection again. -/
theorem call_settled (settled : connection.Settled) (call : RepositoryCall) :
    (connection.run (repositorySession call)).2.Settled := by
  rcases settled with clean | failed
  · obtain ⟨result, following, done, cleanAfter, -⟩ := repositorySession_effect clean call
    rw [done]
    exact .inl cleanAfter
  · obtain ⟨committed, block⟩ := connection
    obtain rfl : block = .failed := failed
    obtain ⟨result, done, -⟩ := repositorySession_failed committed call
    rw [done]
    exact .inl (.inl rfl)

/-- Every connection that requests leave is settled. -/
theorem served_settled [DocumentProcessing] {Memory : Type} {services : Services Memory}
    {allowed : List DocumentUuid → Connection × Memory → Turn DocumentUuid → Prop}
    {start : List DocumentUuid × (Connection × Memory)} {used : List DocumentUuid}
    {world : Connection × Memory}
    (quiet : ∀ used world turn, allowed used world turn → turn.entryPoint = .query →
      turn.queryHandler.Quiet)
    (served : Served documentStore services allowed start used world)
    (settled : start.2.1.Settled) : world.1.Settled := by
  induction served with
  | start => exact settled
  | @turn used world turn _ permitted ih =>
      have leaves := @turn_leaves _ _ _ _ _ documentStore services turn
        (quiet used world turn permitted) world
      generalize (turn.take documentStore services world).1 = left at leaves
      cases leaves with
      | found => exact ih
      | checked validated => exact (guardAnswer_settled _ validated ih).1
      | read validated request =>
          exact (get_settled _ request (guardAnswer_settled _ validated ih).1).1
      | @written checked write makes =>
          obtain ⟨validated, result, -, answered, -⟩ := makes
          have settledChecked := (guardAnswer_settled turn.generated validated ih).1
          rw [answered] at settledChecked
          rw [contents_callOf]
          exact call_settled settledChecked _

end Settled

section Resources
variable {tables following : Tables}

/-- A row has the uuid, with this project and resource. -/
def Tagged (tables : Tables) (documentUuid : DocumentUuid) (resource : String × String) : Prop :=
  ∃ document ∈ tables.documents, document.documentUuid = documentUuid ∧
    (document.projectName, document.resourceName) = resource

instance (tables : Tables) (documentUuid : DocumentUuid) (resource : String × String) :
    Decidable (Tagged tables documentUuid resource) :=
  inferInstanceAs (Decidable (∃ document ∈ tables.documents, _))

/-- An accepted write over a stored row carries its resource. -/
def KeepsResource (tables : Tables) (write : WriteRequest) : Prop :=
  WriteAccepted tables write →
    match write with
    | .upsert request => ∀ existing ∈ tables.documents,
        existing.meadowlarkId = request.meadowlarkId →
          (storedDocument existing).BelongsTo request.resourceInfo
    | .update request => ∀ existing ∈ tables.documents,
        uuidColumn request.documentUuid = .ok existing.documentUuid →
          (storedDocument existing).BelongsTo request.resourceInfo
    | .delete _ => True

omit [NodeRuntime] in
/-- A row that is written over a row of its resource adds no tag. -/
theorem tagged_updateDocument {updateRequest : UpdateRequest} {existing : MeadowlarkDocument}
    (stored : existing ∈ tables.documents)
    (belongs : (storedDocument existing).BelongsTo updateRequest.resourceInfo)
    (done : tables.updateDocument updateRequest existing.documentUuid = .ok following)
    {documentUuid : DocumentUuid} {resource : String × String}
    (tagged : Tagged following documentUuid resource) : Tagged tables documentUuid resource := by
  obtain ⟨row, inside, rfl, rfl⟩ := tagged
  obtain ⟨-, -, origin, -, -⟩ := updateDocument_ok done
  rcases origin row inside with ⟨old, -⟩ | ⟨document, -, -, created⟩
  · exact ⟨row, old, rfl, rfl⟩
  · have sameUuid := (documentRow_ok created).2.1
    obtain ⟨project, resource, -⟩ := documentRow_requested created
    exact ⟨existing, stored, sameUuid.symm,
      Prod.ext (belongs.1.trans project.symm) (belongs.2.trans resource.symm)⟩

omit [NodeRuntime] in
/-- An inserted row adds one tag. -/
theorem tagged_insertDocument {updateRequest : UpdateRequest} {given : DocumentUuid}
    (done : tables.insertDocument updateRequest given = .ok following)
    {documentUuid : DocumentUuid} {resource : String × String}
    (tagged : Tagged following documentUuid resource) : Tagged tables documentUuid resource ∨
      (documentUuid, resource) = (given, updateRequest.resourceInfo.projectName,
        updateRequest.resourceInfo.resourceName) := by
  obtain ⟨document, inside, rfl, rfl⟩ := tagged
  obtain ⟨row, created, documents, -, -⟩ := insertDocument_ok done
  rw [documents] at inside
  rcases List.mem_append.mp inside with old | new
  · exact .inl ⟨document, old, rfl, rfl⟩
  · obtain rfl := List.mem_singleton.mp new
    have sameUuid := (documentRow_ok created).2.1
    obtain ⟨project, resource, -⟩ := documentRow_requested created
    right
    rw [sameUuid, project, resource]

/-- A call tags at most the uuid that it generates. -/
theorem effect_tagged {generated : DocumentUuid} {write : WriteRequest} {result : RepositoryResult}
    (converted : UuidsConverted tables) (keeps : KeepsResource tables write)
    (effect : CallEffect tables (callOf generated write) result following) :
    ∃ newTag, ∀ documentUuid resource, Tagged following documentUuid resource →
      Tagged tables documentUuid resource ∨
        ((documentUuid, resource) = newTag ∧ uuidColumn generated = .ok documentUuid) := by
  have noTag (unadded : ∀ documentUuid resource, Tagged following documentUuid resource →
      Tagged tables documentUuid resource) : ∃ newTag, ∀ documentUuid resource,
        Tagged following documentUuid resource → Tagged tables documentUuid resource ∨
          ((documentUuid, resource) = newTag ∧ uuidColumn generated = .ok documentUuid) :=
    ⟨(⟨""⟩, "", ""), fun documentUuid resource tagged =>
      .inl (unadded documentUuid resource tagged)⟩
  cases write with
  | upsert request =>
      change CallEffect tables (.upsert generated request) result following at effect
      cases effect with
      | @upserted _ documentUuid _ after writes =>
          have written := writes.written
          have column := writes.converted
          unfold upsertRow at written
          unfold upsertedUuid at written column
          cases found : documentById tables request.meadowlarkId with
          | none =>
              rw [found] at written column
              refine ⟨(documentUuid, request.resourceInfo.projectName,
                request.resourceInfo.resourceName), fun named resource tagged => ?_⟩
              rcases tagged_insertDocument written tagged with old | new
              · exact .inl old
              · refine .inr ⟨new, ?_⟩
                rw [(Prod.mk.inj new).1]
                exact column
          | some existing =>
              rw [found] at written column
              obtain ⟨stored, sameId⟩ := documentById_some found
              have belongs := keeps ⟨generated, documentUuid, after, writes⟩ existing stored sameId
              obtain rfl : existing.documentUuid = documentUuid :=
                Except.ok.inj ((converted existing stored).symm.trans column)
              exact noTag fun _ _ tagged => tagged_updateDocument stored belongs written tagged
      | failed unsuccessful => exact noTag fun _ _ tagged => tagged
  | update request =>
      change CallEffect tables (.update request) result following at effect
      cases effect with
      | @updated _ existing documentUuid after writes =>
          obtain ⟨stored, rfl⟩ := documentByUuid_some writes.found
          have belongs := keeps ⟨existing, existing.documentUuid, after, writes⟩ existing stored
            writes.converted
          exact noTag fun _ _ tagged => tagged_updateDocument stored belongs writes.written tagged
      | failed unsuccessful => exact noTag fun _ _ tagged => tagged
  | delete request =>
      change CallEffect tables (.delete request) result following at effect
      cases effect with
      | deleted accepted =>
          apply noTag
          rintro _ _ ⟨document, inside, rfl, rfl⟩
          exact ⟨document, (List.mem_filter.mp inside).1, rfl, rfl⟩
      | failed unsuccessful => exact noTag fun _ _ tagged => tagged

/-- The connection is settled, and every stored uuid is in the form of its column. -/
structure Regular (connection : Connection) : Prop where
  settled : connection.Settled
  converted : UuidsConverted connection.committed

theorem tagsKept : TagsKept documentStore Regular (fun connection => Tagged connection.committed)
    (fun generated documentUuid => uuidColumn generated = .ok documentUuid)
    (fun connection => KeepsResource connection.committed) where
  checked generated validated regular := by
    obtain ⟨settled, same⟩ := guardAnswer_settled generated validated regular.settled
    refine ⟨⟨settled, ?_⟩, congrArg Tagged same⟩
    rw [same]
    exact regular.converted
  read generated getRequest regular := by
    obtain ⟨settled, same⟩ := get_settled generated getRequest regular.settled
    refine ⟨⟨settled, ?_⟩, congrArg Tagged same⟩
    rw [same]
    exact regular.converted
  written {connection} generated write regular keeps := by
    rw [contents_callOf]
    rcases regular.settled with clean | failed
    · have converted := regular.converted.call clean (callOf generated write)
      obtain ⟨result, following, done, cleanAfter, effect⟩ :=
        repositorySession_effect clean (callOf generated write)
      rw [done] at converted ⊢
      exact ⟨⟨.inl cleanAfter, converted⟩, effect_tagged regular.converted keeps effect⟩
    · obtain ⟨committed, block⟩ := connection
      obtain rfl : block = .failed := failed
      obtain ⟨result, done, -⟩ := repositorySession_failed committed (callOf generated write)
      rw [done]
      exact ⟨⟨.inl (.inl rfl), regular.converted⟩, (⟨""⟩, "", ""), fun _ _ tagged => .inl tagged⟩

end Resources

section Requests
variable [DocumentProcessing] {Memory : Type} {services : Services Memory} {memory : Memory}
  {entryPoint : EntryPoint} {frontendRequest : FrontendRequest} {document : MeadowlarkDocument}
  {queryHandler : QueryHandlerPlugin} {connection : Connection}

/-- The row under a uuid as the frontend gives it. -/
def NamedRow (tables : Tables) (document : MeadowlarkDocument) (given : DocumentUuid) : Prop :=
  ∃ documentUuid, uuidColumn given = .ok documentUuid ∧
    documentByUuid tables documentUuid = some document

/-- A request whose path names another resource is confined unless it comes to the row. -/
theorem request_confined_iff (settled : connection.Settled) (addressed : entryPoint.addressed = true)
    (foreign : Foreign (NamedRow connection.committed document) services entryPoint
      frontendRequest memory (storedDocument document)) :
    (∀ generated, Confined Connection.committed connection ((documentStore generated).run services
        (entryPoint.run queryHandler frontendRequest) (connection, memory))) ↔
      ¬ (connection.Clean ∧ Acts (WriteAccepted connection.committed) services entryPoint
        frontendRequest memory (storedDocument document)) := by
  have generable : Nonempty DocumentUuid := ⟨⟨""⟩⟩
  rcases settled with clean | failed
  · rw [and_iff_right clean]
    apply addressed_confined_iff addressed
    · intro generated validated following admitted
      obtain ⟨-, given, named, documentUuid, converted, found⟩ :=
        foreign validated following admitted
      exact ⟨given, named, serves_of_found generated clean converted found⟩
    · rintro generated validated write ⟨following, admitted, planned, -⟩
      obtain ⟨given, named, same⟩ := plannedWrite_named addressed planned
      obtain ⟨-, other, namedAgain, documentUuid, converted, found⟩ :=
        foreign validated following admitted
      obtain rfl : given = other := Option.some.inj (named.symm.trans namedAgain)
      apply committed_unchanged_iff clean
      · rintro request rfl
        cases same
      · rintro request column rfl columnConverted
        obtain rfl : request.documentUuid = given := Option.some.inj same
        obtain rfl : documentUuid = column := Except.ok.inj (converted.symm.trans columnConverted)
        exact Option.isSome_iff_exists.mpr ⟨document, found⟩
    · intro write
      exact writeAccepted_iff clean
  · obtain ⟨committed, block⟩ := connection
    obtain rfl : block = .failed := failed
    refine iff_of_true (fun generated => (fails_of_failed generated committed).confined addressed) ?_
    rintro ⟨clean | clean, -⟩
    · cases clean
    · cases clean

/-- The requests of a run generate fresh uuids and keep the resource of a stored uuid. -/
abbrev KeepsResources (services : Services Memory) :=
  KeepsTags documentStore services
    (fun generated documentUuid => uuidColumn generated = .ok documentUuid)
    (fun connection => KeepsResource connection.committed)

theorem served_tagging {used : List DocumentUuid} {world : Connection × Memory}
    (served : Served documentStore services (KeepsResources services)
      ([], (⟨Tables.empty, .idle⟩, memory)) used world) :
    Tagging Regular (fun connection => Tagged connection.committed)
      (fun generated documentUuid => uuidColumn generated = .ok documentUuid) used world.1 := by
  have named : Nonempty DocumentUuid := ⟨⟨""⟩⟩
  apply tagsKept.tagsFresh.tagging _ served
  have empty : ∀ documentUuid resource, ¬ Tagged Tables.empty documentUuid resource := by
    rintro _ _ ⟨document, stored, -⟩
    cases stored
  exact ⟨⟨.inl (.inl rfl), sound_empty.converted⟩, fun tagged => absurd tagged (empty _ _),
    fun tagged => absurd tagged (empty _ _)⟩

/-- A stored uuid keeps its resource for the rest of a run from the empty tables. -/
theorem served_resource {earlier used : List DocumentUuid} {before after : Connection × Memory}
    (reached : Served documentStore services (KeepsResources services)
      ([], (⟨Tables.empty, .idle⟩, memory)) earlier before)
    (served : Served documentStore services (KeepsResources services)
      (earlier, before) used after)
    {documentUuid : DocumentUuid} {resource other : String × String}
    (tagged : Tagged before.1.committed documentUuid resource)
    (taggedAfter : Tagged after.1.committed documentUuid other) : other = resource := by
  have named : Nonempty DocumentUuid := ⟨⟨""⟩⟩
  exact tagsKept.tagsFresh.stable (served_tagging reached) served tagged taggedAfter

end Requests
end Meadowlark.Postgres
