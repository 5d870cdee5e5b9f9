import Meadowlark.Construction.Postgres.Backend
import Meadowlark.Proof.Postgres.Sequential

namespace Meadowlark.Postgres
open Meadowlark.Core Systems

section Refusal
variable {Result : Type} {committed : Tables} {succeeded : Result → Bool}

/-- A program that does not write ends with a failure or with an error. -/
def Refused (committed : Tables) (succeeded : Result → Bool)
    (outcome : Except SqlError Result × Connection) : Prop :=
  outcome.2.committed = committed ∧
    ∀ result, outcome.1 = .ok result → succeeded result = false ∧ outcome.2.Clean

/-- A call that does not write answers with a failure. -/
structure Failed (committed : Tables) (succeeded : Result → Bool)
    (outcome : Except SqlError Result × Connection) : Prop where
  kept : outcome.2.committed = committed
  clean : outcome.2.Clean
  unsuccessful : ∃ result, outcome.1 = .ok result ∧ succeeded result = false

theorem refused_error (error : SqlError) (block : TransactionBlock) :
    Refused committed succeeded (.error error, ⟨committed, block⟩) :=
  ⟨rfl, fun _ same => nomatch same⟩

theorem refused_idle {result : Result} (unsuccessful : succeeded result = false) :
    Refused committed succeeded (.ok result, ⟨committed, .idle⟩) := by
  refine ⟨rfl, ?_⟩
  rintro _ ⟨⟩
  exact ⟨unsuccessful, .inl rfl⟩

theorem refused_working {result : Result} (unsuccessful : succeeded result = false) :
    Refused committed succeeded (.ok result, working committed committed) := by
  refine ⟨rfl, ?_⟩
  rintro _ ⟨⟩
  exact ⟨unsuccessful, .inr rfl⟩

variable [ColumnTypes]

/-- A caught error rolls the transaction back. -/
theorem Refused.caught {connection : Connection} {program : Session Result}
    {handle : SqlError → Result}
    (refused : Refused committed succeeded (connection.run program))
    (unsuccessful : ∀ error, succeeded (handle error) = false) :
    Failed committed succeeded (connection.run (tryCatch program fun error => do
      rollbackTransaction
      pure (handle error))) := by
  rw [run_tryCatch]
  cases outcome : connection.run program with
  | mk answer following =>
      rw [outcome] at refused
      cases answer with
      | ok result =>
          obtain ⟨failed, clean⟩ := refused.2 result rfl
          exact ⟨refused.1, clean, result, rfl, failed⟩
      | error error =>
          simp only
          rw [run_bind_ok (run_rollbackTransaction following), run_pure]
          exact ⟨refused.1, .inl rfl, handle error, rfl, unsuccessful error⟩

end Refusal

section Upsert
variable [NodeRuntime] [ColumnTypes] {committed tables : Tables}

/-- The checks that an upsert passes before it writes. -/
structure UpsertAccepted (tables : Tables) (upsertRequest : UpsertRequest) : Prop where
  current : ∀ existing ∈ documentById tables upsertRequest.meadowlarkId,
    existing.lastModifiedAt < upsertRequest.documentInfo.requestTimestamp
  unclaimed : documentById tables upsertRequest.meadowlarkId = none →
    ∀ superclassInfo ∈ upsertRequest.documentInfo.superclassInfo, ∀ row ∈ tables.aliases,
      row.aliasMeadowlarkId ≠ getMeadowlarkIdForSuperclassInfo superclassInfo
  valid : upsertRequest.validateDocumentReferencesExist = true →
    missingReferences tables upsertRequest.documentInfo = []

/-- The uuid of the row that the id already names, or the generated one. -/
def upsertedUuid (tables : Tables) (meadowlarkId : MeadowlarkId) (generated : DocumentUuid) :
    DocumentUuid :=
  ((documentById tables meadowlarkId).map (·.documentUuid)).getD generated

/-- The documents table after the write of an upsert. -/
def upsertRow (tables : Tables) (upsertRequest : UpsertRequest) (given documentUuid : DocumentUuid) :
    Except SqlError Tables :=
  if (documentById tables upsertRequest.meadowlarkId).isNone then
    tables.insertDocument { upsertRequest with documentUuid := given } documentUuid
  else tables.updateDocument { upsertRequest with documentUuid := given } documentUuid

def upsertedResult (tables : Tables) (meadowlarkId : MeadowlarkId) (documentUuid : DocumentUuid) :
    UpsertResult :=
  if (documentById tables meadowlarkId).isNone then .insertSuccess documentUuid
  else .updateSuccess documentUuid

/-- The upsert passes its checks and its row passes the indexes. -/
structure UpsertWrites (tables : Tables) (generated : DocumentUuid)
    (upsertRequest : UpsertRequest) (documentUuid : DocumentUuid) (following : Tables) : Prop where
  accepted : UpsertAccepted tables upsertRequest
  converted : uuidColumn (upsertedUuid tables upsertRequest.meadowlarkId generated) =
    .ok documentUuid
  written : upsertRow tables upsertRequest
    (upsertedUuid tables upsertRequest.meadowlarkId generated) documentUuid = .ok following

theorem run_checkSuperclassIdentity (committed : Tables) (upsertRequest : UpsertRequest)
    (isInsert : Bool) :
    ∃ failure following, (working committed committed).run
        (checkSuperclassIdentity upsertRequest isInsert) = (.ok failure, following) ∧
      (failure = none ↔ (isInsert = true → ∀ superclassInfo ∈
        upsertRequest.documentInfo.superclassInfo, ∀ row ∈ committed.aliases,
          row.aliasMeadowlarkId ≠ getMeadowlarkIdForSuperclassInfo superclassInfo)) ∧
      (failure = none → following = working committed committed) ∧
      ∀ result ∈ failure, result.succeeded = false ∧ following = ⟨committed, .idle⟩ := by
  unfold checkSuperclassIdentity
  split
  · rename_i superclassInfo present
    have searched : (working committed committed).run
        (findAliasMeadowlarkId (getMeadowlarkIdForSuperclassInfo superclassInfo)) =
          (.ok ((committed.aliases.filter (·.aliasMeadowlarkId =
            getMeadowlarkIdForSuperclassInfo superclassInfo)).map (·.aliasMeadowlarkId)),
            working committed committed) := rfl
    simp only
    rw [run_bind_ok searched]
    split
    · rename_i unused
      refine ⟨none, _, rfl, ?_, fun _ => rfl, by simp⟩
      simpa [present] using unused
    · rename_i used
      rw [run_bind_ok (run_findReferringDocumentInfo _), run_bind_ok (run_rollbackTransaction _),
        run_pure]
      refine ⟨_, _, rfl, ?_, by simp, ?_⟩
      · simpa [present] using used
      · rintro result same
        cases same
        exact ⟨rfl, rfl⟩
  · rename_i skipped
    refine ⟨none, _, rfl, ?_, fun _ => rfl, by simp⟩
    refine ⟨fun _ insert superclassInfo present => ?_, fun _ => rfl⟩
    exact absurd present (skipped superclassInfo insert)

theorem run_checkUpsertReferences (committed : Tables) (upsertRequest : UpsertRequest)
    (isInsert : Bool) :
    ∃ failure following, (working committed committed).run
        (checkUpsertReferences upsertRequest isInsert) = (.ok failure, following) ∧
      (failure = none ↔ (upsertRequest.validateDocumentReferencesExist = true →
        missingReferences committed upsertRequest.documentInfo = [])) ∧
      (failure = none → following = working committed committed) ∧
      ∀ result ∈ failure, result.succeeded = false ∧ following = ⟨committed, .idle⟩ := by
  unfold checkUpsertReferences
  split
  · rename_i validates
    rw [run_bind_ok (run_validateReferences _)]
    split
    · rename_i clean
      exact ⟨none, _, rfl, by simp [clean], fun _ => rfl, by simp⟩
    · rename_i missing
      rw [run_bind_ok (run_findReferringDocumentInfo _), run_bind_ok (run_rollbackTransaction _),
        run_pure]
      refine ⟨_, _, rfl, by simp [validates, missing], by simp, ?_⟩
      rintro result same
      cases same
      refine ⟨?_, rfl⟩
      split <;> rfl
  · rename_i unvalidated
    exact ⟨none, _, rfl, by simp [unvalidated], fun _ => rfl, by simp⟩

/-- A row that passes the indexes is followed by its aliases and its references. -/
theorem run_writeUpsert_ok {upsertRequest : UpsertRequest} {given documentUuid : DocumentUuid}
    {following : Tables} (converted : uuidColumn given = .ok documentUuid)
    (written : upsertRow committed upsertRequest given documentUuid = .ok following) :
    (working committed committed).run (writeUpsert upsertRequest given
        (documentById committed upsertRequest.meadowlarkId).isNone) =
      (.ok (upsertedResult committed upsertRequest.meadowlarkId given),
        ⟨following.rewrite upsertRequest.meadowlarkId documentUuid upsertRequest.meadowlarkId
          upsertRequest.documentInfo, .idle⟩) := by
  have stored : ∃ answer, (working committed committed).run
      (writeDocument upsertRequest given
        (documentById committed upsertRequest.meadowlarkId).isNone) =
        (.ok answer, working committed following) := by
    unfold upsertRow at written
    unfold writeDocument
    split at written
    · rename_i insert
      rw [if_pos insert]
      exact ⟨_, run_insertDocument_ok converted written⟩
    · rename_i insert
      rw [if_neg insert]
      exact ⟨_, run_updateDocument_ok converted written⟩
  obtain ⟨answer, stored⟩ := stored
  unfold writeUpsert
  rw [run_bind_ok stored, run_bind_ok (run_rewrite converted _ _ _),
    run_bind_ok run_commitTransaction, run_pure]
  rfl

theorem run_writeUpsert_error {upsertRequest : UpsertRequest} {given : DocumentUuid}
    (refused : ∀ documentUuid following, uuidColumn given = .ok documentUuid →
      upsertRow committed upsertRequest given documentUuid ≠ .ok following) :
    ∃ error, (working committed committed).run (writeUpsert upsertRequest given
        (documentById committed upsertRequest.meadowlarkId).isNone) =
      (.error error, ⟨committed, .failed⟩) := by
  have thrown : ∃ error, (working committed committed).run
      (writeDocument upsertRequest given
        (documentById committed upsertRequest.meadowlarkId).isNone) =
        (.error error, ⟨committed, .failed⟩) := by
    unfold upsertRow at refused
    unfold writeDocument
    split at refused
    · rename_i insert
      rw [if_pos insert]
      exact run_insertDocument_error refused
    · rename_i insert
      rw [if_neg insert]
      exact run_updateDocument_error refused
  obtain ⟨error, thrown⟩ := thrown
  exact ⟨error, run_bind_error thrown⟩

theorem run_tryUpsert_ok {generated documentUuid : DocumentUuid} {upsertRequest : UpsertRequest}
    {following : Tables} {connection : Connection} (clean : connection.Clean)
    (writes : UpsertWrites connection.committed generated upsertRequest documentUuid following) :
    connection.run (tryUpsert generated upsertRequest) =
      (.ok (upsertedResult connection.committed upsertRequest.meadowlarkId
          (upsertedUuid connection.committed upsertRequest.meadowlarkId generated)),
        ⟨following.rewrite upsertRequest.meadowlarkId documentUuid upsertRequest.meadowlarkId
          upsertRequest.documentInfo, .idle⟩) := by
  obtain ⟨conflict, first, conflictRun, conflictNone, firstSame, -⟩ := run_checkSuperclassIdentity
    connection.committed upsertRequest
    (documentById connection.committed upsertRequest.meadowlarkId).isNone
  obtain ⟨invalid, second, invalidRun, invalidNone, secondSame, -⟩ := run_checkUpsertReferences
    connection.committed upsertRequest
    (documentById connection.committed upsertRequest.meadowlarkId).isNone
  obtain rfl := conflictNone.mpr fun insert =>
    writes.accepted.unclaimed (Option.isNone_iff_eq_none.mp insert)
  obtain rfl := invalidNone.mpr writes.accepted.valid
  obtain rfl := firstSame rfl
  obtain rfl := secondSame rfl
  have fresh : ((documentById connection.committed upsertRequest.meadowlarkId).any
      fun existing => existing.lastModifiedAt ≥ upsertRequest.documentInfo.requestTimestamp) =
        false := by
    cases found : documentById connection.committed upsertRequest.meadowlarkId with
    | none => rfl
    | some existing => simpa using writes.accepted.current existing found
  unfold tryUpsert
  rw [run_bind_ok (run_beginTransaction clean), run_bind_ok (run_findDocumentByMeadowlarkId _)]
  simp only [fresh, Bool.false_eq_true, if_false]
  rw [run_bind_ok conflictRun, run_bind_ok invalidRun]
  exact run_writeUpsert_ok writes.converted writes.written

/-- An upsert that does not write is refused by a check or by a statement. -/
theorem run_tryUpsert_refused {generated : DocumentUuid} {upsertRequest : UpsertRequest}
    {connection : Connection} (clean : connection.Clean)
    (refused : ∀ documentUuid following,
      ¬ UpsertWrites connection.committed generated upsertRequest documentUuid following) :
    Refused connection.committed UpsertResult.succeeded
      (connection.run (tryUpsert generated upsertRequest)) := by
  obtain ⟨conflict, first, conflictRun, conflictNone, firstSame, conflictFails⟩ :=
    run_checkSuperclassIdentity connection.committed upsertRequest
      (documentById connection.committed upsertRequest.meadowlarkId).isNone
  obtain ⟨invalid, second, invalidRun, invalidNone, secondSame, invalidFails⟩ :=
    run_checkUpsertReferences connection.committed upsertRequest
      (documentById connection.committed upsertRequest.meadowlarkId).isNone
  unfold tryUpsert
  rw [run_bind_ok (run_beginTransaction clean), run_bind_ok (run_findDocumentByMeadowlarkId _)]
  simp only
  split
  · exact refused_working rfl
  · rename_i fresh
    rw [run_bind_ok conflictRun]
    cases conflict with
    | some failure =>
        obtain ⟨failed, rfl⟩ := conflictFails failure rfl
        exact refused_idle failed
    | none =>
        obtain rfl := firstSame rfl
        simp only
        rw [run_bind_ok invalidRun]
        cases invalid with
        | some failure =>
            obtain ⟨failed, rfl⟩ := invalidFails failure rfl
            exact refused_idle failed
        | none =>
            obtain rfl := secondSame rfl
            have accepted : UpsertAccepted connection.committed upsertRequest := by
              refine ⟨?_, ?_, invalidNone.mp rfl⟩
              · intro existing found
                rw [Option.mem_def.mp found] at fresh
                simpa using fresh
              · intro absent
                exact conflictNone.mp rfl (by rw [absent]; rfl)
            obtain ⟨error, thrown⟩ := @run_writeUpsert_error _ _ connection.committed upsertRequest
              (upsertedUuid connection.committed upsertRequest.meadowlarkId generated)
              fun documentUuid following converted written =>
                refused documentUuid following ⟨accepted, converted, written⟩
            unfold upsertedUuid at thrown
            simp only
            rw [thrown]
            exact refused_error error .failed

theorem upsertDocument_accepted {generated documentUuid : DocumentUuid}
    {upsertRequest : UpsertRequest} {following : Tables} {connection : Connection}
    (clean : connection.Clean)
    (writes : UpsertWrites connection.committed generated upsertRequest documentUuid following) :
    connection.run (upsertDocument generated upsertRequest) =
      (.ok (upsertedResult connection.committed upsertRequest.meadowlarkId
          (upsertedUuid connection.committed upsertRequest.meadowlarkId generated)),
        ⟨following.rewrite upsertRequest.meadowlarkId documentUuid upsertRequest.meadowlarkId
          upsertRequest.documentInfo, .idle⟩) := by
  unfold upsertDocument
  rw [run_tryCatch, run_tryUpsert_ok clean writes]

/-- An upsert writes one row with its side rows, or it fails and changes nothing. -/
theorem upsertDocument_effect (generated : DocumentUuid) (upsertRequest : UpsertRequest)
    {connection : Connection} (clean : connection.Clean) :
    (∃ documentUuid following,
      UpsertWrites connection.committed generated upsertRequest documentUuid following ∧
        connection.run (upsertDocument generated upsertRequest) =
          (.ok (upsertedResult connection.committed upsertRequest.meadowlarkId
              (upsertedUuid connection.committed upsertRequest.meadowlarkId generated)),
            ⟨following.rewrite upsertRequest.meadowlarkId documentUuid
              upsertRequest.meadowlarkId upsertRequest.documentInfo, .idle⟩)) ∨
      Failed connection.committed UpsertResult.succeeded
        (connection.run (upsertDocument generated upsertRequest)) := by
  by_cases writes : ∃ documentUuid following,
      UpsertWrites connection.committed generated upsertRequest documentUuid following
  · left
    obtain ⟨documentUuid, following, writes⟩ := writes
    exact ⟨documentUuid, following, writes, upsertDocument_accepted clean writes⟩
  · right
    apply (run_tryUpsert_refused clean fun documentUuid following written =>
      writes ⟨documentUuid, following, written⟩).caught
    exact fun _ => rfl

end Upsert

section Update
variable [NodeRuntime] [ColumnTypes] {committed : Tables}

/-- The update passes its checks and its row passes the indexes. -/
structure UpdateWrites (tables : Tables) (updateRequest : UpdateRequest)
    (existing : MeadowlarkDocument) (documentUuid : DocumentUuid) (following : Tables) : Prop where
  converted : uuidColumn updateRequest.documentUuid = .ok documentUuid
  found : documentByUuid tables documentUuid = some existing
  current : existing.lastModifiedAt < updateRequest.documentInfo.requestTimestamp
  permitted : updateRequest.resourceInfo.allowIdentityUpdates = true ∨
    existing.meadowlarkId = updateRequest.meadowlarkId
  valid : updateRequest.validateDocumentReferencesExist = true →
    missingReferences tables updateRequest.documentInfo = []
  written : tables.updateDocument updateRequest documentUuid = .ok following

theorem run_checkUpdateReferences (committed : Tables) (updateRequest : UpdateRequest)
    (existingMeadowlarkId : MeadowlarkId) :
    ∃ failure following, (working committed committed).run
        (checkUpdateReferences updateRequest existingMeadowlarkId) = (.ok failure, following) ∧
      (failure = none ↔ (updateRequest.validateDocumentReferencesExist = true →
        missingReferences committed updateRequest.documentInfo = [])) ∧
      (failure = none → following = working committed committed) ∧
      ∀ result ∈ failure, result.succeeded = false ∧ following = ⟨committed, .idle⟩ := by
  unfold checkUpdateReferences
  split
  · rename_i validates
    rw [run_bind_ok (run_validateReferences _)]
    split
    · rename_i clean
      exact ⟨none, _, rfl, by simp [clean], fun _ => rfl, by simp⟩
    · rename_i missing
      rw [run_bind_ok (run_findReferringDocumentInfo _), run_bind_ok (run_rollbackTransaction _),
        run_pure]
      refine ⟨_, _, rfl, by simp [validates, missing], by simp, ?_⟩
      rintro result same
      cases same
      exact ⟨rfl, rfl⟩
  · rename_i unvalidated
    exact ⟨none, _, rfl, by simp [unvalidated], fun _ => rfl, by simp⟩

theorem run_writeUpdate_ok {updateRequest : UpdateRequest} {existing : MeadowlarkDocument}
    {documentUuid : DocumentUuid} {following : Tables}
    (writes : UpdateWrites committed updateRequest existing documentUuid following) :
    (working committed committed).run (writeUpdate updateRequest existing.meadowlarkId) =
      (.ok .updateSuccess, ⟨following.rewrite existing.meadowlarkId documentUuid
        updateRequest.meadowlarkId updateRequest.documentInfo, .idle⟩) := by
  have touched : committed.documents.countP (·.documentUuid = documentUuid) > 0 := by
    have stored := List.mem_of_find?_eq_some writes.found
    have same := List.find?_some writes.found
    exact List.countP_pos_iff.mpr ⟨existing, stored, same⟩
  unfold writeUpdate
  rw [run_bind_ok (run_updateDocument_ok writes.converted writes.written),
    run_bind_ok (run_rewrite writes.converted _ _ _), run_bind_ok run_commitTransaction, run_pure]
  simp [touched]

theorem run_tryUpdate_ok {updateRequest : UpdateRequest} {existing : MeadowlarkDocument}
    {documentUuid : DocumentUuid} {following : Tables} {connection : Connection}
    (clean : connection.Clean)
    (writes : UpdateWrites connection.committed updateRequest existing documentUuid following) :
    connection.run (tryUpdate updateRequest) =
      (.ok .updateSuccess, ⟨following.rewrite existing.meadowlarkId documentUuid
        updateRequest.meadowlarkId updateRequest.documentInfo, .idle⟩) := by
  obtain ⟨invalid, second, invalidRun, invalidNone, secondSame, -⟩ := run_checkUpdateReferences
    connection.committed updateRequest existing.meadowlarkId
  obtain rfl := invalidNone.mpr writes.valid
  obtain rfl := secondSame rfl
  have permitted : ¬ (¬ updateRequest.resourceInfo.allowIdentityUpdates = true ∧
      existing.meadowlarkId ≠ updateRequest.meadowlarkId) := by
    rcases writes.permitted with allowed | same
    · simp [allowed]
    · simp [same]
  unfold tryUpdate
  rw [run_bind_ok (run_beginTransaction clean),
    run_bind_ok (run_findDocumentByDocumentUuid_ok writes.converted), writes.found]
  simp only
  rw [if_neg (not_le.mpr writes.current), if_neg permitted, run_bind_ok invalidRun]
  exact run_writeUpdate_ok writes

theorem run_tryUpdate_refused {updateRequest : UpdateRequest} {connection : Connection}
    (clean : connection.Clean)
    (refused : ∀ existing documentUuid following,
      ¬ UpdateWrites connection.committed updateRequest existing documentUuid following) :
    Refused connection.committed UpdateResult.succeeded
      (connection.run (tryUpdate updateRequest)) := by
  unfold tryUpdate
  rw [run_bind_ok (run_beginTransaction clean)]
  cases converted : uuidColumn updateRequest.documentUuid with
  | error error =>
      rw [run_bind_error (run_findDocumentByDocumentUuid_error converted)]
      exact refused_error error .failed
  | ok documentUuid =>
      rw [run_bind_ok (run_findDocumentByDocumentUuid_ok converted)]
      cases found : documentByUuid connection.committed documentUuid with
      | none => exact refused_working rfl
      | some existing =>
          simp only
          split
          · exact refused_working rfl
          · rename_i current
            split
            · exact refused_working rfl
            · rename_i permitted
              obtain ⟨invalid, second, invalidRun, invalidNone, secondSame, invalidFails⟩ :=
                run_checkUpdateReferences connection.committed updateRequest existing.meadowlarkId
              rw [run_bind_ok invalidRun]
              cases invalid with
              | some failure =>
                  obtain ⟨failed, rfl⟩ := invalidFails failure rfl
                  exact refused_idle failed
              | none =>
                  obtain rfl := secondSame rfl
                  have unwritten : ∀ other following,
                      uuidColumn updateRequest.documentUuid = .ok other →
                        connection.committed.updateDocument updateRequest other ≠
                          .ok following := by
                    intro other following same written
                    obtain rfl : documentUuid = other := Except.ok.inj (converted.symm.trans same)
                    exact refused existing documentUuid following ⟨converted, found,
                      not_le.mp current, by tauto, invalidNone.mp rfl, written⟩
                  obtain ⟨error, thrown⟩ :=
                    @run_updateDocument_error _ connection.committed _ _ unwritten
                  simp only
                  unfold writeUpdate
                  rw [run_bind_error thrown]
                  exact refused_error error .failed

theorem updateDocument_accepted {updateRequest : UpdateRequest} {existing : MeadowlarkDocument}
    {documentUuid : DocumentUuid} {following : Tables} {connection : Connection}
    (clean : connection.Clean)
    (writes : UpdateWrites connection.committed updateRequest existing documentUuid following) :
    connection.run (updateDocumentByDocumentUuid updateRequest) =
      (.ok .updateSuccess, ⟨following.rewrite existing.meadowlarkId documentUuid
        updateRequest.meadowlarkId updateRequest.documentInfo, .idle⟩) := by
  unfold updateDocumentByDocumentUuid
  rw [run_tryCatch, run_tryUpdate_ok clean writes]

/-- An update writes one row with its side rows, or it fails and changes nothing. -/
theorem updateDocument_effect (updateRequest : UpdateRequest) {connection : Connection}
    (clean : connection.Clean) :
    (∃ existing documentUuid following,
      UpdateWrites connection.committed updateRequest existing documentUuid following ∧
        connection.run (updateDocumentByDocumentUuid updateRequest) =
          (.ok .updateSuccess, ⟨following.rewrite existing.meadowlarkId documentUuid
            updateRequest.meadowlarkId updateRequest.documentInfo, .idle⟩)) ∨
      Failed connection.committed UpdateResult.succeeded
        (connection.run (updateDocumentByDocumentUuid updateRequest)) := by
  by_cases writes : ∃ existing documentUuid following,
      UpdateWrites connection.committed updateRequest existing documentUuid following
  · left
    obtain ⟨existing, documentUuid, following, writes⟩ := writes
    exact ⟨existing, documentUuid, following, writes, updateDocument_accepted clean writes⟩
  · right
    apply (run_tryUpdate_refused clean fun existing documentUuid following written =>
      writes ⟨existing, documentUuid, following, written⟩).caught
    exact fun _ => rfl

end Update

section Delete
variable [ColumnTypes] {committed : Tables}

/-- The id that a delete takes for its document. -/
abbrev deletedId (tables : Tables) (documentUuid : DocumentUuid) : MeadowlarkId :=
  meadowlarkIdFrom (aliasRows tables documentUuid)

omit [ColumnTypes] in
/-- A validated delete takes the id of an alias row of its document. -/
theorem deletedId_row {tables : Tables} {documentUuid : DocumentUuid}
    (present : deletedId tables documentUuid ≠ ⟨""⟩) :
    ∃ row ∈ tables.aliases, row.documentUuid = documentUuid ∧
      row.meadowlarkId = deletedId tables documentUuid := by
  unfold deletedId at present ⊢
  cases rows : aliasRows tables documentUuid with
  | nil =>
      rw [rows] at present
      exact absurd rfl present
  | cons first rest =>
      have inside : first ∈ aliasRows tables documentUuid := by
        rw [rows]
        exact List.mem_cons_self
      obtain ⟨stored, same⟩ := List.mem_filter.mp inside
      exact ⟨first, stored, by simpa using same, rfl⟩

/-- The checks that a delete passes before it writes. -/
structure DeleteAccepted (tables : Tables) (deleteRequest : DeleteRequest)
    (documentUuid : DocumentUuid) : Prop where
  converted : uuidColumn deleteRequest.documentUuid = .ok documentUuid
  present : deleteRequest.validateNoReferencesToDocument = true →
    deletedId tables documentUuid ≠ ⟨""⟩
  unreferenced : deleteRequest.validateNoReferencesToDocument = true →
    ∀ reference ∈ tables.references, ∀ row ∈ aliasRows tables documentUuid,
      row.aliasMeadowlarkId = reference.referencedMeadowlarkId →
        reference.parentMeadowlarkId = deletedId tables documentUuid

/-- The tables without the document and without the side rows of its id. -/
def Tables.without (tables : Tables) (documentUuid : DocumentUuid) (meadowlarkId : MeadowlarkId) :
    Tables :=
  { tables.deleteDocument documentUuid with
    references := tables.references.filter (·.parentMeadowlarkId ≠ meadowlarkId)
    aliases := tables.aliases.filter (·.meadowlarkId ≠ meadowlarkId) }

/-- The answer of the delete statement counts the removed rows. -/
def deletedResult (tables : Tables) (documentUuid : DocumentUuid) : DeleteResult :=
  if tables.documents.countP (·.documentUuid = documentUuid) = 0 then .deleteFailureNotExists
  else .deleteSuccess

theorem run_deleteDocumentRow {given documentUuid : DocumentUuid}
    (converted : uuidColumn given = .ok documentUuid) :
    (working committed committed).run (deleteDocumentRowByDocumentUuid given) =
      (.ok (deletedResult committed documentUuid),
        working committed (committed.deleteDocument documentUuid)) := by
  have removed : (working committed committed).run (query (.deleteDocumentRow given)) =
      (.ok (committed.documents.countP (·.documentUuid = documentUuid)),
        working committed (committed.deleteDocument documentUuid)) := by
    change (working committed committed).send (.deleteDocumentRow given) = _
    simp only [Connection.send, execute, converted]
    rfl
  unfold deleteDocumentRowByDocumentUuid
  rw [run_bind_ok removed, run_pure]
  rfl

theorem run_performDelete {given documentUuid : DocumentUuid}
    (converted : uuidColumn given = .ok documentUuid) (meadowlarkId : MeadowlarkId) :
    (working committed committed).run (performDelete given meadowlarkId) =
      (.ok (deletedResult committed documentUuid),
        ⟨committed.without documentUuid meadowlarkId, .idle⟩) := by
  unfold performDelete
  rw [run_bind_ok (run_deleteDocumentRow converted)]
  rfl

/-- The other documents that refer to an alias of the document. -/
def foreignReferences (tables : Tables) (documentUuid : DocumentUuid) : List MeadowlarkId :=
  ((tables.references.filter (·.referencedMeadowlarkId ∈
    (aliasRows tables documentUuid).map (·.aliasMeadowlarkId))).map (·.parentMeadowlarkId)).filter
      (· ≠ deletedId tables documentUuid)

omit [ColumnTypes] in
theorem foreignReferences_nil (tables : Tables) (documentUuid : DocumentUuid) :
    foreignReferences tables documentUuid = [] ↔ ∀ reference ∈ tables.references,
      ∀ row ∈ aliasRows tables documentUuid,
        row.aliasMeadowlarkId = reference.referencedMeadowlarkId →
          reference.parentMeadowlarkId = deletedId tables documentUuid := by
  unfold foreignReferences
  rw [List.filter_eq_nil_iff]
  constructor
  · intro own reference stored row inside same
    have parentListed : reference.parentMeadowlarkId ∈
        (tables.references.filter (·.referencedMeadowlarkId ∈
          (aliasRows tables documentUuid).map (·.aliasMeadowlarkId))).map
            (·.parentMeadowlarkId) := by
      apply List.mem_map_of_mem
      apply List.mem_filter.mpr
      exact ⟨stored, by simpa using ⟨row, inside, same⟩⟩
    simpa using own _ parentListed
  · intro own parent listed
    obtain ⟨reference, referenceListed, rfl⟩ := List.mem_map.mp listed
    obtain ⟨stored, named⟩ := List.mem_filter.mp referenceListed
    obtain ⟨row, inside, same⟩ : ∃ row ∈ aliasRows tables documentUuid,
        row.aliasMeadowlarkId = reference.referencedMeadowlarkId := by
      simpa using named
    simpa using own reference stored row inside same

theorem run_checkForReferences (committed : Tables) (documentUuid : DocumentUuid) :
    ∃ failure following, (working committed committed).run
        (checkForReferences (deletedId committed documentUuid) (aliasRows committed documentUuid)) =
          (.ok failure, following) ∧
      (failure = none ↔ ∀ reference ∈ committed.references,
        ∀ row ∈ aliasRows committed documentUuid,
          row.aliasMeadowlarkId = reference.referencedMeadowlarkId →
            reference.parentMeadowlarkId = deletedId committed documentUuid) ∧
      (failure = none → following = working committed committed) ∧
      ∀ result ∈ failure, result.succeeded = false ∧ following = ⟨committed, .idle⟩ := by
  have searched : (working committed committed).run (findReferencingMeadowlarkIds
      ((aliasRows committed documentUuid).map (·.aliasMeadowlarkId))) =
        (.ok ((committed.references.filter (·.referencedMeadowlarkId ∈
          (aliasRows committed documentUuid).map (·.aliasMeadowlarkId))).map
            (·.parentMeadowlarkId)), working committed committed) := rfl
  unfold checkForReferences
  rw [run_bind_ok searched, ← foreignReferences_nil]
  change ∃ failure following, (working committed committed).run
    (if foreignReferences committed documentUuid = [] then pure none else _) = _ ∧ _
  split
  · rename_i unreferenced
    exact ⟨none, _, rfl, by simp [unreferenced], fun _ => rfl, by simp⟩
  · rename_i referenced
    rw [run_bind_ok (run_findReferringDocumentInfo _), run_bind_ok (run_rollbackTransaction _),
      run_pure]
    refine ⟨_, _, rfl, ⟨nofun, fun none => absurd none referenced⟩, nofun, ?_⟩
    rintro result same
    cases same
    refine ⟨?_, rfl⟩
    split <;> rfl

theorem run_tryDelete_ok {deleteRequest : DeleteRequest} {documentUuid : DocumentUuid}
    {connection : Connection} (clean : connection.Clean)
    (accepted : DeleteAccepted connection.committed deleteRequest documentUuid) :
    connection.run (tryDelete deleteRequest) =
      (.ok (deletedResult connection.committed documentUuid),
        ⟨connection.committed.without documentUuid (deletedId connection.committed documentUuid),
          .idle⟩) := by
  have checked : (working connection.committed connection.committed).run (checkBeforeDelete
      deleteRequest (aliasRows connection.committed documentUuid)) =
        (.ok none, working connection.committed connection.committed) := by
    unfold checkBeforeDelete
    split
    · rename_i validates
      obtain ⟨failure, following, run, clear, same, -⟩ :=
        run_checkForReferences connection.committed documentUuid
      obtain rfl := clear.mpr (accepted.unreferenced validates)
      obtain rfl := same rfl
      rw [if_neg (accepted.present validates)]
      exact run
    · rfl
  unfold tryDelete
  rw [run_bind_ok (run_beginTransaction clean),
    run_bind_ok (run_findAliases_ok accepted.converted), run_bind_ok checked]
  exact run_performDelete accepted.converted _

theorem run_tryDelete_refused {deleteRequest : DeleteRequest} {connection : Connection}
    (clean : connection.Clean)
    (refused : ∀ documentUuid,
      ¬ DeleteAccepted connection.committed deleteRequest documentUuid) :
    Refused connection.committed DeleteResult.succeeded
      (connection.run (tryDelete deleteRequest)) := by
  unfold tryDelete
  rw [run_bind_ok (run_beginTransaction clean)]
  cases converted : uuidColumn deleteRequest.documentUuid with
  | error error =>
      rw [run_bind_error (run_findAliases_error converted)]
      exact refused_error error .failed
  | ok documentUuid =>
      rw [run_bind_ok (run_findAliases_ok converted)]
      unfold checkBeforeDelete
      split
      · rename_i validates
        split
        · rw [run_bind_ok (run_bind_ok (run_rollbackTransaction _))]
          exact refused_idle rfl
        · rename_i present
          obtain ⟨failure, following, run, clear, -, fails⟩ :=
            run_checkForReferences connection.committed documentUuid
          cases failure with
          | none =>
              exact absurd ⟨converted, fun _ => present, fun _ => clear.mp rfl⟩
                (refused documentUuid)
          | some result =>
              obtain ⟨failed, rfl⟩ := fails result rfl
              rw [run_bind_ok run, run_pure]
              exact refused_idle failed
      · rename_i unvalidated
        exact absurd ⟨converted, fun validates => absurd validates unvalidated,
          fun validates => absurd validates unvalidated⟩ (refused documentUuid)

theorem deleteDocument_accepted {deleteRequest : DeleteRequest} {documentUuid : DocumentUuid}
    {connection : Connection} (clean : connection.Clean)
    (accepted : DeleteAccepted connection.committed deleteRequest documentUuid) :
    connection.run (deleteDocumentByDocumentUuid deleteRequest) =
      (.ok (deletedResult connection.committed documentUuid),
        ⟨connection.committed.without documentUuid
          (deletedId connection.committed documentUuid), .idle⟩) := by
  unfold deleteDocumentByDocumentUuid
  rw [run_tryCatch, run_tryDelete_ok clean accepted]

/-- A delete removes one document with its side rows, or it fails and changes nothing. -/
theorem deleteDocument_effect (deleteRequest : DeleteRequest) {connection : Connection}
    (clean : connection.Clean) :
    (∃ documentUuid, DeleteAccepted connection.committed deleteRequest documentUuid ∧
        connection.run (deleteDocumentByDocumentUuid deleteRequest) =
          (.ok (deletedResult connection.committed documentUuid),
            ⟨connection.committed.without documentUuid
              (deletedId connection.committed documentUuid), .idle⟩)) ∨
      Failed connection.committed DeleteResult.succeeded
        (connection.run (deleteDocumentByDocumentUuid deleteRequest)) := by
  by_cases accepted : ∃ documentUuid,
      DeleteAccepted connection.committed deleteRequest documentUuid
  · left
    obtain ⟨documentUuid, accepted⟩ := accepted
    exact ⟨documentUuid, accepted, deleteDocument_accepted clean accepted⟩
  · right
    apply (run_tryDelete_refused clean fun documentUuid held =>
      accepted ⟨documentUuid, held⟩).caught
    exact fun _ => rfl

end Delete

section Calls
variable [NodeRuntime] [ColumnTypes]

/-- The result of a call with the committed tables that it leaves. -/
inductive CallEffect (tables : Tables) : RepositoryCall → RepositoryResult → Tables → Prop where
  | upserted {generated documentUuid : DocumentUuid} {upsertRequest : UpsertRequest}
      {following : Tables}
      (writes : UpsertWrites tables generated upsertRequest documentUuid following) :
      CallEffect tables (.upsert generated upsertRequest)
        (.upsert (upsertedResult tables upsertRequest.meadowlarkId
          (upsertedUuid tables upsertRequest.meadowlarkId generated)))
        (following.rewrite upsertRequest.meadowlarkId documentUuid upsertRequest.meadowlarkId
          upsertRequest.documentInfo)
  | updated {updateRequest : UpdateRequest} {existing : MeadowlarkDocument}
      {documentUuid : DocumentUuid} {following : Tables}
      (writes : UpdateWrites tables updateRequest existing documentUuid following) :
      CallEffect tables (.update updateRequest) (.update .updateSuccess)
        (following.rewrite existing.meadowlarkId documentUuid updateRequest.meadowlarkId
          updateRequest.documentInfo)
  | deleted {deleteRequest : DeleteRequest} {documentUuid : DocumentUuid}
      (accepted : DeleteAccepted tables deleteRequest documentUuid) :
      CallEffect tables (.delete deleteRequest) (.delete (deletedResult tables documentUuid))
        (tables.without documentUuid (deletedId tables documentUuid))
  | failed {call : RepositoryCall} {result : RepositoryResult}
      (unsuccessful : result.succeeded = false) : CallEffect tables call result tables

/-- A failed call keeps the tables. -/
theorem Failed.effect {Result : Type} {succeeded : Result → Bool} {connection : Connection}
    {session : Session Result} {call : RepositoryCall} {wrap : Result → RepositoryResult}
    (failed : Failed connection.committed succeeded (connection.run session))
    (wrapped : ∀ result, (wrap result).succeeded = succeeded result) :
    ∃ result following, connection.run (wrap <$> session) = (.ok result, following) ∧
      following.Clean ∧ CallEffect connection.committed call result following.committed := by
  obtain ⟨result, answered, unsuccessful⟩ := failed.unsuccessful
  refine ⟨wrap result, (connection.run session).2, ?_, failed.clean, ?_⟩
  · rw [run_map, answered]
    rfl
  · rw [failed.kept]
    exact .failed ((wrapped result).trans unsuccessful)

/-- Every call on a clean connection answers, leaves it clean and has one of the effects. -/
theorem repositorySession_effect {connection : Connection} (clean : connection.Clean)
    (call : RepositoryCall) :
    ∃ result following, connection.run (repositorySession call) = (.ok result, following) ∧
      following.Clean ∧ CallEffect connection.committed call result following.committed := by
  cases call with
  | upsert generated upsertRequest =>
      rcases upsertDocument_effect generated upsertRequest clean with
        ⟨documentUuid, following, writes, done⟩ | failed
      · refine ⟨_, ⟨_, .idle⟩, ?_, .inl rfl, .upserted writes⟩
        unfold repositorySession
        rw [run_map, done]
        rfl
      · exact failed.effect fun _ => rfl
  | update updateRequest =>
      rcases updateDocument_effect updateRequest clean with
        ⟨existing, documentUuid, following, writes, done⟩ | failed
      · refine ⟨_, ⟨_, .idle⟩, ?_, .inl rfl, .updated writes⟩
        unfold repositorySession
        rw [run_map, done]
        rfl
      · exact failed.effect fun _ => rfl
  | delete deleteRequest =>
      rcases deleteDocument_effect deleteRequest clean with ⟨documentUuid, accepted, done⟩ | failed
      · refine ⟨_, ⟨_, .idle⟩, ?_, .inl rfl, .deleted accepted⟩
        unfold repositorySession
        rw [run_map, done]
        rfl
      · exact failed.effect fun _ => rfl

end Calls
end Meadowlark.Postgres
