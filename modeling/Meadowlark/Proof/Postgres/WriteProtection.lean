import Meadowlark.Proof.Core.WriteProtection
import Meadowlark.Proof.Postgres.Deposits
import Meadowlark.Proof.Postgres.NewestWrites
import Meadowlark.Proof.Postgres.SideTables

namespace Meadowlark.Postgres
open Meadowlark.Core Systems
variable [NodeRuntime] [ColumnTypes] {tables following : Tables} {clientId : String}

/-- The row is still stored as it was, with the same aliases and the same references. -/
structure KeepsRow (tables following : Tables) (document : MeadowlarkDocument) : Prop where
  stored : document ∈ following.documents
  aliases : following.aliases.filter (·.documentUuid = document.documentUuid) =
    tables.aliases.filter (·.documentUuid = document.documentUuid)
  references : following.references.filter (·.parentMeadowlarkId = document.meadowlarkId) =
    tables.references.filter (·.parentMeadowlarkId = document.meadowlarkId)

/-- Every document of another client is still stored as it was. -/
def SparesOthers (clientId : String) (tables following : Tables) : Prop :=
  ∀ document ∈ tables.documents, document.createdBy ≠ clientId → KeepsRow tables following document

/-- The accepted upsert overwrites a document of another client. -/
def Takes (clientId : String) (tables : Tables) : WriteRequest → Prop
  | .upsert request => WriteAccepted tables (.upsert request) ∧
      ∃ existing ∈ tables.documents, existing.meadowlarkId = request.meadowlarkId ∧
        existing.createdBy ≠ clientId
  | _ => False

/-- The side tables belong to the documents, whose ids are hashes and never empty. -/
structure Tidy (tables : Tables) : Prop where
  converted : UuidsConverted tables
  owned : AliasesOwned tables
  named : ∀ document ∈ tables.documents, document.meadowlarkId ≠ ⟨""⟩

omit [NodeRuntime] in
theorem tidy_empty : Tidy Tables.empty where
  converted _ inside := absurd inside List.not_mem_nil
  owned _ inside := absurd inside List.not_mem_nil
  named _ inside := absurd inside List.not_mem_nil

section Writes

omit [NodeRuntime] [ColumnTypes] in
theorem sparesOthers_refl (clientId : String) (tables : Tables) :
    SparesOthers clientId tables tables :=
  fun _ stored _ => ⟨stored, rfl, rfl⟩

omit [NodeRuntime] in
/-- The alias rows of a document carry its id. -/
theorem Tidy.aliasId (tidy : Tidy tables) {document : MeadowlarkDocument}
    (stored : document ∈ tables.documents) {row : AliasRow} (inside : row ∈ tables.aliases)
    (same : row.documentUuid = document.documentUuid) : row.meadowlarkId = document.meadowlarkId := by
  obtain ⟨owner, ownerStored, ownerId, ownerUuid⟩ := tidy.owned row inside
  rw [← ownerId, documents_eq_of_uuid ownerStored stored (ownerUuid.trans same)]

/-- A write in the place of a client's own document spares the documents of others. -/
theorem Tidy.rewrite_spares (tidy : Tidy tables) {existingId meadowlarkId : MeadowlarkId}
    {documentUuid : DocumentUuid} {documentInfo : DocumentInfo}
    (written : DocumentWritten tables following existingId documentUuid meadowlarkId)
    (apart : ∀ document ∈ tables.documents, document.meadowlarkId ≠ existingId →
      document.documentUuid ≠ documentUuid)
    (own : ∀ document ∈ tables.documents, document.meadowlarkId = existingId →
      document.createdBy = clientId) :
    SparesOthers clientId tables
      (following.rewrite existingId documentUuid meadowlarkId documentInfo) := by
  intro document stored foreign
  have different : document.meadowlarkId ≠ existingId :=
    fun same => foreign (own document stored same)
  have kept := written.kept document stored different
  have otherUuid := apart document stored different
  have otherId : meadowlarkId ≠ document.meadowlarkId := by
    intro same
    obtain ⟨row, rowInside, rowId, rowUuid⟩ := written.written
    apply otherUuid
    rw [documents_eq_of_id kept rowInside (same.symm.trans rowId.symm), rowUuid]
  refine ⟨kept, ?_, ?_⟩
  · unfold Tables.rewrite
    rw [written.aliases]
    apply filter_rewritten
    · intro row inside same
      rw [tidy.aliasId stored inside same]
      exact different
    · intro row inside same
      obtain ⟨aliasId, -, rfl⟩ := List.mem_map.mp inside
      exact otherUuid same.symm
  · unfold Tables.rewrite
    rw [written.references]
    apply filter_rewritten
    · intro reference _ same
      rw [same]
      exact different
    · intro reference inside same
      obtain ⟨ref, -, rfl⟩ := List.mem_map.mp inside
      exact otherId same

omit [NodeRuntime] in
/-- The removal of a client's own document spares the documents of others. -/
theorem Tidy.without_spares (tidy : Tidy tables) {documentUuid : DocumentUuid}
    (own : ∀ document ∈ tables.documents, document.documentUuid = documentUuid →
      document.createdBy = clientId) :
    SparesOthers clientId tables
      (tables.without documentUuid (deletedId tables documentUuid)) := by
  intro document stored foreign
  have different : document.meadowlarkId ≠ deletedId tables documentUuid := by
    intro same
    have present := tidy.named document stored
    rw [same] at present
    obtain ⟨row, inside, rowUuid, rowId⟩ := deletedId_row present
    obtain ⟨owner, ownerStored, ownerId, ownerUuid⟩ := tidy.owned row inside
    apply foreign
    rw [documents_eq_of_id stored ownerStored (same.trans (rowId.symm.trans ownerId.symm))]
    exact own owner ownerStored (ownerUuid.trans rowUuid)
  refine ⟨?_, ?_, ?_⟩
  · apply List.mem_filter.mpr
    exact ⟨stored, decide_eq_true fun same => foreign (own document stored same)⟩
  · apply filter_spared
    intro row inside same
    rw [tidy.aliasId stored inside same]
    exact different
  · apply filter_spared
    intro reference _ same
    rw [same]
    exact different

theorem Tidy.rewrite (tidy : Tidy tables) {existingId meadowlarkId : MeadowlarkId}
    {documentUuid : DocumentUuid} {documentInfo : DocumentInfo}
    (converted : uuidColumn documentUuid = .ok documentUuid) (named : meadowlarkId ≠ ⟨""⟩)
    (written : DocumentWritten tables following existingId documentUuid meadowlarkId) :
    Tidy (following.rewrite existingId documentUuid meadowlarkId documentInfo) where
  converted := tidy.converted.rewrite converted written
  owned := tidy.owned.rewrite written
  named document inside := by
    obtain ⟨row, rowInside, rowId, rowUuid⟩ := written.written
    rcases written.origin document inside with old | new
    · exact tidy.named document old
    · have same : document = row := documents_eq_of_uuid inside rowInside (new.trans rowUuid.symm)
      rw [same, rowId]
      exact named

/-- A call of a named document leaves tidy tables. -/
theorem Tidy.effect (tidy : Tidy tables) {call : RepositoryCall} {result : RepositoryResult}
    (effect : CallEffect tables call result following) (named : call.Named) : Tidy following := by
  cases effect with
  | upserted writes =>
      exact tidy.rewrite (uuidColumn_converted writes.converted) named
        (upsertRow_written tidy.converted writes)
  | updated writes =>
      exact tidy.rewrite (uuidColumn_converted writes.converted) named (updateRow_written writes)
  | @deleted _ documentUuid accepted =>
      exact
        { converted := fun document inside => tidy.converted document (List.mem_filter.mp inside).1
          owned := tidy.owned.without documentUuid
          named := fun document inside => tidy.named document (List.mem_filter.mp inside).1 }
  | failed unsuccessful => exact tidy

/-- An upsert over a stored document writes its uuid, whatever has been generated. -/
theorem UpsertWrites.regenerate {other documentUuid : DocumentUuid}
    {request : UpsertRequest} {existing : MeadowlarkDocument}
    (writes : UpsertWrites tables other request documentUuid following)
    (found : documentById tables request.meadowlarkId = some existing) (generated : DocumentUuid) :
    UpsertWrites tables generated request documentUuid following := by
  obtain ⟨accepted, converted, written⟩ := writes
  have same : upsertedUuid tables request.meadowlarkId other =
      upsertedUuid tables request.meadowlarkId generated := by
    unfold upsertedUuid
    rw [found]
    rfl
  rw [same] at converted written
  exact ⟨accepted, converted, written⟩

variable {connection : Connection} {generated : DocumentUuid}

/-- An upsert spares the documents of others unless it overwrites one of them. -/
theorem upsert_spares_iff (clean : connection.Clean) (tidy : Tidy connection.committed)
    (request : UpsertRequest) :
    SparesOthers clientId connection.committed
        ((WriteRequest.upsert request).contents (documentStore generated) connection).committed ↔
      ¬ Takes clientId connection.committed (.upsert request) := by
  obtain ⟨result, after, done, -, effect⟩ :=
    repositorySession_effect clean (callOf generated (.upsert request))
  rw [contents_callOf, done]
  have taken : Takes clientId connection.committed (.upsert request) →
      result.succeeded = true := by
    rintro ⟨⟨other, documentUuid, following, writes⟩, existing, stored, same, -⟩
    have accepted := upsertDocument_accepted clean
      (writes.regenerate (documentById_eq stored same) generated)
    have succeeds : (WriteRequest.upsert request).Succeeds (documentStore generated) connection := by
      refine ⟨_, serveSession_ok.mpr (congrArg Prod.fst accepted), ?_⟩
      unfold upsertedResult
      split <;> rfl
    rw [succeeds_callOf, done] at succeeds
    obtain ⟨_, ⟨⟩, succeeded⟩ := succeeds
    exact succeeded
  change CallEffect _ (.upsert generated request) _ _ at effect
  dsimp only
  generalize after.committed = tables at effect ⊢
  cases effect with
  | @upserted _ documentUuid _ following writes =>
      have written := upsertRow_written tidy.converted writes
      by_cases own : ∀ document ∈ connection.committed.documents,
          document.meadowlarkId = request.meadowlarkId → document.createdBy = clientId
      · refine iff_of_true (tidy.rewrite_spares written ?_ own) ?_
        · intro document stored different same
          obtain ⟨row, rowInside, rowId, rowUuid⟩ := written.written
          apply different
          rw [documents_eq_of_uuid (written.kept document stored different) rowInside
            (same.trans rowUuid.symm), rowId]
        rintro ⟨-, existing, stored, same, foreign⟩
        exact foreign (own existing stored same)
      · push Not at own
        obtain ⟨existing, stored, same, foreign⟩ := own
        have found := documentById_eq stored same
        refine iff_of_false ?_ (not_not.mpr
          ⟨⟨generated, documentUuid, following, writes⟩, existing, stored, same, foreign⟩)
        intro spares
        have kept : existing ∈ following.documents := (spares existing stored foreign).stored
        have newer := writes.accepted.current existing found
        have row := writes.written
        have column := writes.converted
        unfold upsertRow upsertedUuid at row
        unfold upsertedUuid at column
        rw [found] at row column
        have sameUuid : existing.documentUuid = documentUuid :=
          Except.ok.inj ((tidy.converted existing stored).symm.trans column)
        obtain ⟨-, -, origin, -, -⟩ := updateDocument_ok row
        rcases origin existing kept with ⟨-, different⟩ | ⟨document, -, -, created⟩
        · exact different sameUuid
        · rw [(documentRow_requested created).2.2] at newer
          exact lt_irrefl _ newer
  | failed unsuccessful =>
      refine iff_of_true (sparesOthers_refl clientId _) fun takes => ?_
      rw [taken takes] at unsuccessful
      cases unsuccessful

/-- An update of a client's own document spares the documents of others, whatever its new identity.
The index of the ids refuses an identity that is taken. -/
theorem update_spares (clean : connection.Clean) (tidy : Tidy connection.committed)
    {request : UpdateRequest}
    (own : ∀ document ∈ connection.committed.documents,
      uuidColumn request.documentUuid = .ok document.documentUuid →
        document.createdBy = clientId) :
    SparesOthers clientId connection.committed
      ((WriteRequest.update request).contents (documentStore generated) connection).committed := by
  obtain ⟨result, after, done, -, effect⟩ :=
    repositorySession_effect clean (callOf generated (.update request))
  rw [contents_callOf, done]
  change CallEffect _ (.update request) _ _ at effect
  dsimp only
  generalize after.committed = tables at effect ⊢
  cases effect with
  | @updated _ existing documentUuid following writes =>
      obtain ⟨stored, sameUuid⟩ := documentByUuid_some writes.found
      apply tidy.rewrite_spares (updateRow_written writes)
      · intro document documentStored different same
        exact different (congrArg _
          (documents_eq_of_uuid documentStored stored (same.trans sameUuid.symm)))
      · intro document documentStored same
        rw [documents_eq_of_id documentStored stored same]
        exact own existing stored (writes.converted.trans (congrArg Except.ok sameUuid.symm))
  | failed unsuccessful => exact sparesOthers_refl clientId _

theorem delete_spares (clean : connection.Clean) (tidy : Tidy connection.committed)
    {request : DeleteRequest}
    (own : ∀ document ∈ connection.committed.documents,
      uuidColumn request.documentUuid = .ok document.documentUuid →
        document.createdBy = clientId) :
    SparesOthers clientId connection.committed
      ((WriteRequest.delete request).contents (documentStore generated) connection).committed := by
  obtain ⟨result, after, done, -, effect⟩ :=
    repositorySession_effect clean (callOf generated (.delete request))
  rw [contents_callOf, done]
  change CallEffect _ (.delete request) _ _ at effect
  dsimp only
  generalize after.committed = tables at effect ⊢
  cases effect with
  | @deleted _ documentUuid accepted =>
      apply tidy.without_spares
      intro document stored same
      exact own document stored (accepted.converted.trans (congrArg Except.ok same.symm))
  | failed unsuccessful => exact sparesOthers_refl clientId _

end Writes

section Checks
variable {connection checked : Connection} {generated : DocumentUuid}
  {validated : FrontendRequest} {result : SecurityResult}

/-- A check that fails ends in an answer that permits nothing. -/
theorem run_tryOwnership_error {error : SqlError}
    (thrown : (connection.run (tryOwnership validated)).1 = .error error)
    (writes : ¬ ReadsDescriptor validated) :
    (connection.run (rejectByOwnershipSecurity validated)).1 = .ok .unknownFailure := by
  have unread : rejectByOwnershipSecurity validated =
      tryCatch (tryOwnership validated) fun _ => pure .unknownFailure := if_neg writes
  rw [unread, run_tryCatch]
  cases outcome : connection.run (tryOwnership validated) with
  | mk answer following =>
      rw [outcome] at thrown
      obtain rfl : answer = .error error := thrown
      rfl

theorem run_tryOwnership_ok {following : Connection} {answer : SecurityResult}
    (done : connection.run (tryOwnership validated) = (.ok answer, following))
    (writes : ¬ ReadsDescriptor validated) :
    connection.run (rejectByOwnershipSecurity validated) = (.ok answer, following) := by
  have unread : rejectByOwnershipSecurity validated =
      tryCatch (tryOwnership validated) fun _ => pure .unknownFailure := if_neg writes
  rw [unread, run_tryCatch, done]

theorem guardAnswer_owner
    (owner : validated.middleware.security = ⟨.ownershipBased, clientId⟩) :
    guardAnswer (documentStore generated) validated connection =
      serveSession (rejectByOwnershipSecurity validated) connection := by
  unfold guardAnswer
  rw [owner, if_pos rfl]
  rfl

omit [NodeRuntime] [ColumnTypes] in
/-- A document that the check finds belongs to the client that passes. -/
theorem own_of_access {createdBy : String}
    (owner : validated.middleware.security = ⟨.ownershipBased, clientId⟩)
    (permits : (accessFor validated (some createdBy)).permits = true) : createdBy = clientId := by
  unfold accessFor at permits
  rw [owner] at permits
  dsimp only at permits
  by_contra foreign
  rw [if_neg foreign] at permits
  cases permits

/-- The check of a path lets only the creator of its row pass, and it passes on a clean connection. -/
theorem own_of_named {given : DocumentUuid} (settled : connection.Settled)
    (owner : validated.middleware.security = ⟨.ownershipBased, clientId⟩)
    (writes : ¬ ReadsDescriptor validated)
    (named : validated.middleware.pathComponents.documentUuid = some given)
    (answered : guardAnswer (documentStore generated) validated connection = (.ok result, checked))
    (permits : result.permits = true) :
    connection.Clean ∧ checked = connection ∧ ∀ document ∈ connection.committed.documents,
      uuidColumn given = .ok document.documentUuid → document.createdBy = clientId := by
  rw [guardAnswer_owner owner] at answered
  have searches : tryOwnership validated = (do
      let createdBy ← findOwnershipForDocumentByDocumentUuid given
      pure (accessFor validated createdBy)) := by
    unfold tryOwnership
    rw [named]
  have refused : ∀ error, (connection.run (query (.findDocumentByDocumentUuid given))).1 ≠
      .error error := by
    intro error thrown
    have failed : (connection.run (tryOwnership validated)).1 = .error error := by
      rw [searches]
      unfold findOwnershipForDocumentByDocumentUuid
      cases outcome : connection.run (query (.findDocumentByDocumentUuid given)) with
      | mk answer following =>
          rw [outcome] at thrown
          obtain rfl : answer = .error error := thrown
          rw [run_bind_error (run_bind_error outcome)]
    have answer := serveSession_ok.mpr (run_tryOwnership_error failed writes)
    rw [answered] at answer
    rw [Except.ok.inj answer] at permits
    cases permits
  have clean : connection.Clean := by
    rcases settled with clean | failed
    · exact clean
    · obtain ⟨committed, block⟩ := connection
      obtain rfl : block = .failed := failed
      exact absurd rfl (refused transactionAborted)
  cases converted : uuidColumn given with
  | error error =>
      have thrown : (connection.run (query (.findDocumentByDocumentUuid given))).1 =
          .error error := by
        obtain ⟨committed, block⟩ := connection
        change (Connection.send _ (.findDocumentByDocumentUuid given)).1 = _
        rcases clean with same | same
        · obtain rfl : block = .idle := same
          simp only [Connection.send, execute, converted]
          rfl
        · obtain rfl : block = .active committed := same
          simp only [Connection.send, execute, converted]
          rfl
      exact absurd thrown (refused error)
  | ok documentUuid =>
      have selected := run_selectByUuid clean converted
      have done : connection.run (tryOwnership validated) =
          (.ok (accessFor validated
            ((documentByUuid connection.committed documentUuid).map (·.createdBy))),
            connection) := by
        rw [searches]
        unfold findOwnershipForDocumentByDocumentUuid
        rw [run_bind_ok (run_bind_ok selected), run_pure, List.head?_filter]
        rfl
      unfold serveSession at answered
      rw [run_tryOwnership_ok done writes] at answered
      obtain ⟨same, rfl⟩ := Prod.mk.inj answered
      obtain rfl := Except.ok.inj same
      refine ⟨clean, rfl, fun document stored column => ?_⟩
      obtain rfl : documentUuid = document.documentUuid := Except.ok.inj column
      cases found : documentByUuid connection.committed document.documentUuid with
      | none =>
          have unlike := List.find?_eq_none.mp found document stored
          simp at unlike
      | some other =>
          obtain ⟨otherStored, sameUuid⟩ := documentByUuid_some found
          rw [found] at permits
          rw [← documents_eq_of_uuid otherStored stored sameUuid]
          exact own_of_access owner permits

/-- The check of a POST without a uuid in its path lets only the creator of the document with the
identity of the body pass. -/
theorem own_of_posted (clean : connection.Clean) (tidy : Tidy connection.committed)
    (owner : validated.middleware.security = ⟨.ownershipBased, clientId⟩)
    (action : validated.action = .upsert)
    (unnamed : validated.middleware.pathComponents.documentUuid = none)
    (answered : guardAnswer (documentStore generated) validated connection = (.ok result, checked))
    (permits : result.permits = true) :
    ∀ document ∈ connection.committed.documents,
      document.meadowlarkId = (upsertRequestFrom validated).meadowlarkId →
        document.createdBy = clientId := by
  intro document stored same
  have writes : ¬ ReadsDescriptor validated := by
    rintro ⟨-, reads | reads⟩ <;> rw [action] at reads <;> cases reads
  have present := tidy.named document stored
  rw [same] at present
  have selected : connection.run (query (.findDocumentByMeadowlarkId document.meadowlarkId)) =
      (.ok (connection.committed.documents.filter (·.meadowlarkId = document.meadowlarkId)),
        connection) := by
    obtain ⟨committed, block⟩ := connection
    rcases clean with idle | active
    · obtain rfl : block = .idle := idle
      rfl
    · obtain rfl : block = .active committed := active
      rfl
  have done : connection.run (tryOwnership validated) =
      (.ok (accessFor validated (some document.createdBy)), connection) := by
    have extracted : (extractIdIfUpsert validated).getD ⟨""⟩ =
        (upsertRequestFrom validated).meadowlarkId := by
      unfold extractIdIfUpsert
      rw [action]
      rfl
    unfold tryOwnership
    rw [unnamed]
    dsimp only
    rw [extracted, if_neg present, ← same]
    unfold findOwnershipForDocumentByMeadowlarkId
    rw [run_bind_ok (run_bind_ok selected), run_pure, List.head?_filter]
    change (Except.ok (accessFor validated
      ((documentById connection.committed document.meadowlarkId).map (·.createdBy))), _) = _
    rw [documentById_eq stored rfl]
    rfl
  rw [guardAnswer_owner owner] at answered
  unfold serveSession at answered
  rw [run_tryOwnership_ok done writes] at answered
  obtain rfl := Except.ok.inj (congrArg Prod.fst answered)
  exact own_of_access owner permits

end Checks
section Turns
variable [DocumentProcessing] {Memory : Type} {services : Services Memory}
  {turn : Turn DocumentUuid} {world : Connection × Memory}

/-- A connection on which requests are served one after another, over tidy tables. -/
structure Kempt (connection : Connection) : Prop where
  settled : connection.Settled
  tidy : Tidy connection.committed

omit [NodeRuntime] [DocumentProcessing] in
theorem kempt_start : Kempt ⟨Tables.empty, .idle⟩ := ⟨.inl (.inl rfl), tidy_empty⟩

/-- The write of an admitted request spares the documents of others unless it takes one of them
and is not checked by the identity of its body. -/
theorem reaches_spares_iff {validated : FrontendRequest} {checked : Connection}
    {write : WriteRequest} (kempt : Kempt world.1)
    (serves : turn.ServesOwner services world.2 clientId)
    (reaches : turn.Reaches documentStore services world validated checked write) :
    SparesOthers clientId world.1.committed
        (write.contents (documentStore turn.generated) checked).committed ↔
      ¬ ((turn.entryPoint = .upsert →
        validated.middleware.pathComponents.documentUuid.isSome = true) ∧
          Takes clientId world.1.committed write) := by
  obtain ⟨connection, memory⟩ := world
  obtain ⟨⟨following, admitted, planned, -⟩, result, answered, permits⟩ := reaches
  have owner := serves validated following admitted
  have action := admitted.action
  dsimp only at kempt answered ⊢
  have writes : ¬ ReadsDescriptor validated := by
    rintro ⟨-, reads⟩
    rw [action] at reads
    have written := plannedWrite_writes planned
    cases entered : turn.entryPoint <;> simp_all [EntryPoint.action, EntryPoint.writes]
  cases named : validated.middleware.pathComponents.documentUuid with
  | some given =>
      obtain ⟨clean, rfl, own⟩ :=
        own_of_named kempt.settled owner writes named answered permits
      have checkedPath : turn.entryPoint = .upsert → (some given).isSome = true := fun _ => rfl
      rw [and_iff_right checkedPath]
      cases write with
      | upsert request => exact upsert_spares_iff clean kempt.tidy request
      | update request =>
          have same := (plannedWrite_path planned rfl).2
          rw [named, Option.some.injEq] at same
          rw [same] at own
          exact iff_of_true (update_spares clean kempt.tidy own) id
      | delete request =>
          have same := (plannedWrite_path planned rfl).2
          rw [named, Option.some.injEq] at same
          rw [same] at own
          exact iff_of_true (delete_spares clean kempt.tidy own) id
  | none =>
      have posted : ∃ request, write = .upsert request := by
        cases write with
        | upsert request => exact ⟨request, rfl⟩
        | update request =>
            have path := (plannedWrite_path planned rfl).2
            rw [named] at path
            cases path
        | delete request =>
            have path := (plannedWrite_path planned rfl).2
            rw [named] at path
            cases path
      obtain ⟨request, rfl⟩ := posted
      obtain ⟨posts, rfl⟩ := plannedWrite_upsert planned
      have posted : validated.action = .upsert := by
        rw [action, posts]
        rfl
      refine iff_of_true ?_ fun taken => Bool.false_ne_true (taken.1 posts)
      obtain ⟨settled, same⟩ := guardAnswer_settled turn.generated validated kempt.settled
      rw [answered] at settled same
      dsimp only at settled same
      rcases settled with clean | failed
      · have before : connection.Clean := by
          rcases kempt.settled with clean | failed
          · exact clean
          · obtain ⟨committed, block⟩ := connection
            obtain rfl : block = .failed := failed
            have unchecked := (fails_of_failed turn.generated committed).checked validated
            rw [answered] at unchecked
            obtain rfl : checked = _ := unchecked
            rcases clean with clean | clean <;> cases clean
        have tidy := kempt.tidy
        have own := own_of_posted before tidy owner posted named answered permits
        rw [← same] at tidy own ⊢
        rw [upsert_spares_iff clean tidy]
        rintro ⟨-, existing, stored, sameId, foreign⟩
        exact foreign (own existing stored sameId)
      · obtain ⟨committed, block⟩ := checked
        obtain rfl : block = .failed := failed
        rw [(fails_of_failed turn.generated committed).kept, ← same]
        exact sparesOthers_refl clientId _

/-- A request spares the documents of other clients exactly when it does not intrude. -/
theorem turn_sparesOthers_iff (quiet : turn.entryPoint = .query → turn.queryHandler.Quiet)
    (kempt : Kempt world.1) (serves : turn.ServesOwner services world.2 clientId) :
    SparesOthers clientId world.1.committed (turn.take documentStore services world).1.committed ↔
      ¬ turn.Intrudes documentStore services world (Takes clientId world.1.committed) := by
  refine @turn_spares_iff _ _ _ _ _ documentStore services turn world
    (fun connection => SparesOthers clientId world.1.committed connection.committed) _ quiet
    (sparesOthers_refl clientId _) ?_ ?_ ?_
  · intro validated
    rw [(guardAnswer_settled turn.generated validated kempt.settled).2]
    exact sparesOthers_refl clientId _
  · intro validated request
    obtain ⟨settled, same⟩ := guardAnswer_settled turn.generated validated kempt.settled
    rw [(get_settled turn.generated request settled).2, same]
    exact sparesOthers_refl clientId _
  · intro validated checked write reaches
    exact reaches_spares_iff kempt serves reaches

/-- The id of a written document is a hash, which is never empty. -/
def FitsNamed (generated : DocumentUuid) (_ : Connection) (write : WriteRequest) : Prop :=
  (callOf generated write).Named

omit [DocumentProcessing] in
theorem Kempt.written {connection : Connection} (kempt : Kempt connection)
    {generated : DocumentUuid} {write : WriteRequest} (named : FitsNamed generated connection write) :
    Kempt (write.contents (documentStore generated) connection) := by
  rw [contents_callOf]
  rcases kempt.settled with clean | failed
  · obtain ⟨result, following, done, cleanAfter, effect⟩ :=
      repositorySession_effect clean (callOf generated write)
    rw [done]
    exact ⟨.inl cleanAfter, kempt.tidy.effect effect named⟩
  · obtain ⟨committed, block⟩ := connection
    obtain rfl : block = .failed := failed
    obtain ⟨result, done, -⟩ := repositorySession_failed committed (callOf generated write)
    rw [done]
    exact ⟨.inl (.inl rfl), kempt.tidy⟩

theorem turn_kempt (quiet : turn.entryPoint = .query → turn.queryHandler.Quiet)
    (named : ∀ checked write, turn.Makes documentStore services world checked write →
      FitsNamed turn.generated checked write) (kempt : Kempt world.1) :
    Kempt (turn.take documentStore services world).1 := by
  have checked : ∀ validated,
      Kempt (guardAnswer (documentStore turn.generated) validated world.1).2 := by
    intro validated
    obtain ⟨settled, same⟩ := guardAnswer_settled turn.generated validated kempt.settled
    refine ⟨settled, ?_⟩
    rw [same]
    exact kempt.tidy
  apply turn_keeps quiet kempt checked
  · intro validated request
    obtain ⟨settled, same⟩ := get_settled turn.generated request (checked validated).settled
    refine ⟨settled, ?_⟩
    rw [same]
    exact (checked validated).tidy
  · intro _ write makes
    have fits := named _ write makes
    obtain ⟨validated, result, -, answered, -⟩ := makes
    have before := checked validated
    rw [answered] at before
    exact before.written fits

theorem served_kempt {start : List DocumentUuid × (Connection × Memory)} {used : List DocumentUuid}
    (served : Served documentStore services
      (fun _ world turn => turn.Fits documentStore services FitsNamed world) start used world)
    (kempt : Kempt start.2.1) : Kempt world.1 :=
  served.keeps (fun _ _ _ fitting held => turn_kempt fitting.quiet fitting.fits held) kempt

/-- The documents of a client survive the requests of other clients that do not intrude. -/
theorem served_sparesOwner {owner : String}
    {start : List DocumentUuid × (Connection × Memory)} {used : List DocumentUuid}
    (served : Served documentStore services
      (fun _ world turn => turn.Stays documentStore services
        (fun clientId connection => Takes clientId connection.committed) FitsNamed owner world)
      start used world) (kempt : Kempt start.2.1) {document : MeadowlarkDocument}
    (stored : document ∈ start.2.1.committed.documents) (own : document.createdBy = owner) :
    KeepsRow start.2.1.committed world.1.committed document := by
  have kept := @Served.keeps _ _ _ _ _ _ _ _ _ _ _
    (fun connection => Kempt connection ∧
      KeepsRow start.2.1.committed connection.committed document) served
    (fun used world turn stays held => by
      obtain ⟨clientId, stranger, serves, quietly⟩ := stays.stranger
      have spared := (turn_sparesOthers_iff stays.quiet held.1 serves).mpr quietly
      have row := spared document held.2.stored (by rw [own]; exact stranger.symm)
      exact ⟨turn_kempt stays.quiet stays.fits held.1, row.stored,
        row.aliases.trans held.2.aliases, row.references.trans held.2.references⟩)
    ⟨kempt, stored, rfl, rfl⟩
  exact kept.2

end Turns
end Meadowlark.Postgres
