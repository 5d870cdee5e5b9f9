import Meadowlark.Construction.Mongo.Backend
import Meadowlark.Proof.Mongo.Calls

namespace Meadowlark.Mongo
open Meadowlark.Core Systems

/-- A program runs alone on its view while the committed store stays aside. -/
def run {A : Type} (committed : Store) (program : Session A) (view : Store) :
    Except DriverError (A × Store) :=
  program.interpret (mongoDriver.handler committed) view

/-- A lock of the uuids succeeds: they are distinct and none of them is locked. -/
def Lockable (store : Store) (documentUuids : List DocumentUuid) : Prop :=
  documentUuids.Nodup ∧
    ∀ documentUuid ∈ documentUuids, Record.concurrency documentUuid ∉ store.items

instance (store : Store) (documentUuids : List DocumentUuid) :
    Decidable (Lockable store documentUuids) :=
  inferInstanceAs (Decidable (_ ∧ ∀ documentUuid ∈ documentUuids, _))

section Calls
variable {A B : Type} {committed view : Store}

@[simp] theorem run_pure (value : A) :
    run committed (pure value : Session A) view = .ok (value, view) := rfl

theorem run_bind_ok {program : Session A} {f : A → Session B} {value : A} {following : Store}
    (done : run committed program view = .ok (value, following)) :
    run committed (program >>= f) view = run committed (f value) following := by
  unfold run at done ⊢
  rw [Program.interpret_bind]
  change (StateT.bind _ _ : StateT Store (Except DriverError) B) view = _
  simp only [StateT.bind, done]
  rfl

theorem run_bind_error {program : Session A} {f : A → Session B} {error : DriverError}
    (thrown : run committed program view = .error error) :
    run committed (program >>= f) view = .error error := by
  unfold run at thrown ⊢
  rw [Program.interpret_bind]
  change (StateT.bind _ _ : StateT Store (Except DriverError) B) view = _
  simp only [StateT.bind, thrown]
  rfl

/-- A finished sequence has finished its first part. -/
theorem run_bind_done {program : Session A} {f : A → Session B} {answer : B} {last : Store}
    (done : run committed (program >>= f) view = .ok (answer, last)) :
    ∃ value following, run committed program view = .ok (value, following) ∧
      run committed (f value) following = .ok (answer, last) := by
  cases outcome : run committed program view with
  | error error =>
      rw [run_bind_error outcome] at done
      cases done
  | ok finished =>
      obtain ⟨value, following⟩ := finished
      rw [run_bind_ok outcome] at done
      exact ⟨value, following, rfl, done⟩

theorem run_findOne (filter : Filter) (projection : Projection) :
    run committed (findOne filter projection true) view =
      .ok ((findDocument view filter).map (projection.apply filter), view) := rfl

theorem run_findOne_whole (filter : Filter) :
    run committed (findOne filter .whole true) view = .ok (findDocument view filter, view) := by
  have same : (findDocument view filter).map (Projection.whole.apply filter) =
      findDocument view filter := Option.map_id'
  rw [run_findOne, same]

theorem run_findLimited (filter : Filter) (projection : Projection) (count : Nat) :
    run committed (find filter projection (some count) true) view =
      .ok (((findDocuments view filter).map (projection.apply filter)).take count, view) := rfl

theorem run_findCommitted (filter : Filter) :
    run committed (find filter .whole none false) view =
      .ok (findDocuments committed filter, view) := by
  have same : (findDocuments committed filter).map (Projection.whole.apply filter) =
      findDocuments committed filter := List.map_id' _
  change Except.ok ((findDocuments committed filter).map (Projection.whole.apply filter), view) = _
  rw [same]

theorem run_replaceOne {id : MeadowlarkId} {document : MeadowlarkDocument}
    (same : document.id = id) :
    run committed (replaceOne id document) view =
      .ok (match findDocument view (.id id) with
        | none => ⟨true, 1, 0⟩
        | some existing => ⟨true, 0, if existing = document then 0 else 1⟩,
        view.put (.document document)) := by
  change (Driver.handler mongoDriver committed (.replaceOne id document)) view >>= _ = _
  simp only [Driver.handler, mongoDriver, perform, Call.inSession, same, if_true]
  rfl

theorem run_updateOne_none {filter : Filter} {document : MeadowlarkDocument}
    (absent : findDocument view filter = none) :
    run committed (updateOne filter document) view = .ok (⟨true, 0⟩, view) := by
  change (Driver.handler mongoDriver committed (.updateOne filter document)) view >>= _ = _
  simp only [Driver.handler, mongoDriver, perform, Call.inSession, absent, if_true]
  rfl

theorem run_updateOne_some {filter : Filter} {document existing : MeadowlarkDocument}
    (found : findDocument view filter = some existing) :
    run committed (updateOne filter document) view =
      .ok (⟨true, 1⟩, view.put (.document (setFields existing document))) := by
  change (Driver.handler mongoDriver committed (.updateOne filter document)) view >>= _ = _
  simp only [Driver.handler, mongoDriver, perform, Call.inSession, found, if_true]
  rfl

theorem run_deleteOne_none {documentUuid : DocumentUuid}
    (absent : findDocument view (.documentUuid documentUuid) = none) :
    run committed (deleteOne documentUuid) view = .ok (⟨true, 0⟩, view) := by
  change (Driver.handler mongoDriver committed (.deleteOne documentUuid)) view >>= _ = _
  simp only [Driver.handler, mongoDriver, perform, Call.inSession, absent, if_true]
  rfl

theorem run_deleteOne_some {documentUuid : DocumentUuid} {existing : MeadowlarkDocument}
    (found : findDocument view (.documentUuid documentUuid) = some existing) :
    run committed (deleteOne documentUuid) view =
      .ok (⟨true, 1⟩, view.erase [.document existing.id]) := by
  change (Driver.handler mongoDriver committed (.deleteOne documentUuid)) view >>= _ = _
  simp only [Driver.handler, mongoDriver, perform, Call.inSession, found, if_true]
  rfl

theorem lockable_iff_fits (store : Store) (documentUuids : List DocumentUuid) :
    Lockable store documentUuids ↔
      ((store.items ++ documentUuids.map Record.concurrency).map key).Nodup := by
  have locks : ((documentUuids.map Record.concurrency).map key).Nodup ↔ documentUuids.Nodup := by
    rw [List.map_map]
    exact List.nodup_map_iff fun first second same => by simpa using same
  rw [List.map_append, List.nodup_append, locks]
  constructor
  · rintro ⟨distinct, unlocked⟩
    refine ⟨store.unique, distinct, ?_⟩
    intro first firstInside second secondInside same
    obtain ⟨record, stored, rfl⟩ := List.mem_map.mp firstInside
    obtain ⟨lock, lockInside, rfl⟩ := List.mem_map.mp secondInside
    obtain ⟨documentUuid, requested, rfl⟩ := List.mem_map.mp lockInside
    cases record with
    | document document => cases same
    | concurrency other =>
        obtain rfl : other = documentUuid := by simpa using same
        exact unlocked other requested stored
  · rintro ⟨-, distinct, apart⟩
    refine ⟨distinct, ?_⟩
    intro documentUuid requested stored
    have inStore := List.mem_map_of_mem (f := (key : Record → RecordKey)) stored
    have inLocks := List.mem_map_of_mem (f := (key : Record → RecordKey))
      (List.mem_map_of_mem (f := Record.concurrency) requested)
    exact apart _ inStore _ inLocks rfl

/-- A lock leaves no trace when it runs alone. -/
theorem run_lockDocuments {documentUuids : List DocumentUuid}
    (lockable : Lockable view documentUuids) :
    run committed (lockDocuments documentUuids) view = .ok ((), view) := by
  have fits := (lockable_iff_fits view documentUuids).mp lockable
  have inserted : run committed (insertMany documentUuids) view =
      .ok ((), ⟨view.items ++ documentUuids.map Record.concurrency, fits⟩) := by
    change (Driver.handler mongoDriver committed (.insertMany documentUuids)) view >>= _ = _
    simp only [Driver.handler, mongoDriver, perform, Call.inSession, Database.insertAll,
      dif_pos fits, if_true]
    rfl
  unfold lockDocuments
  rw [run_bind_ok inserted]
  change Except.ok ((), Database.erase _ (documentUuids.map RecordKey.concurrency)) = _
  congr 2
  apply Database.ext_items
  change List.filter _ (view.items ++ documentUuids.map Record.concurrency) = view.items
  have kept : (view.items.filter fun record =>
      key record ∉ documentUuids.map RecordKey.concurrency) = view.items := by
    apply List.filter_eq_self.mpr
    intro record stored
    cases record with
    | document document => simp
    | concurrency other =>
        have free : other ∉ documentUuids := fun requested => lockable.2 other requested stored
        simpa using free
  have dropped : ((documentUuids.map Record.concurrency).filter fun record =>
      key record ∉ documentUuids.map RecordKey.concurrency) = [] := by
    apply List.filter_eq_nil_iff.mpr
    intro record inside
    obtain ⟨documentUuid, lockInside, rfl⟩ := List.mem_map.mp inside
    simpa using lockInside
  rw [List.filter_append, kept, dropped, List.append_nil]

theorem run_lockDocuments_refused {documentUuids : List DocumentUuid}
    (refused : ¬ Lockable view documentUuids) :
    run committed (lockDocuments documentUuids) view = .error duplicateKey := by
  have rejected : view.insertAll (documentUuids.map Record.concurrency) = none := by
    unfold Database.insertAll
    exact dif_neg fun fits => refused ((lockable_iff_fits view documentUuids).mpr fits)
  apply run_bind_error
  change (Driver.handler mongoDriver committed (.insertMany documentUuids)) view >>= _ = _
  simp only [Driver.handler, mongoDriver, perform, Call.inSession, rejected, if_true]
  rfl

/-- The uuids of the committed documents that hold one of the ids. -/
def holderUuids (committed : Store) (ids : List MeadowlarkId) : List DocumentUuid :=
  (findDocuments committed (.aliasMeadowlarkIds ids)).map (·.documentUuid)

theorem run_lockReferencedDocuments {ids : List MeadowlarkId} {documentUuid : DocumentUuid}
    (lockable : Lockable view (holderUuids committed ids ++ [documentUuid])) :
    run committed (lockReferencedDocuments ids documentUuid) view = .ok ((), view) := by
  unfold lockReferencedDocuments
  rw [run_bind_ok (run_findCommitted _)]
  exact run_lockDocuments lockable

theorem run_lockReferencedDocuments_refused {ids : List MeadowlarkId}
    {documentUuid : DocumentUuid}
    (refused : ¬ Lockable view (holderUuids committed ids ++ [documentUuid])) :
    run committed (lockReferencedDocuments ids documentUuid) view = .error duplicateKey := by
  unfold lockReferencedDocuments
  rw [run_bind_ok (run_findCommitted _)]
  exact run_lockDocuments_refused refused

end Calls

/-- The outcome is a thrown error or an unsuccessful result. -/
def Fails {Result : Type} (succeeded : Result → Bool) :
    Except DriverError (Result × Store) → Prop
  | .error _ => True
  | .ok (result, _) => succeeded result = false

theorem fails_bind_error {A Result : Type} {succeeded : Result → Bool} {committed view : Store}
    {program : Session A} {f : A → Session Result} {error : DriverError}
    (thrown : run committed program view = .error error) :
    Fails succeeded (run committed (program >>= f) view) := by
  rw [run_bind_error thrown]
  trivial

section Attempts
variable {Result : Type} {succeeded : Result → Bool} {store : Store}

/-- A failed transaction leaves the store as it was. -/
theorem Fails.withTransaction {program : Session Result}
    (fails : Fails succeeded (run store program store)) {outcome : Result × Store}
    (done : withTransaction succeeded program store = .ok outcome) :
    succeeded outcome.1 = false ∧ outcome.2 = store := by
  unfold Mongo.withTransaction at done
  unfold run at fails
  split at done
  · cases done
  · rename_i result view same
    rw [same] at fails
    have failed : succeeded result = false := fails
    cases done
    exact ⟨failed, by simp [failed]⟩

theorem withTransaction_ok {program : Session Result} {result : Result} {view : Store}
    (done : run store program store = .ok (result, view))
    (successful : succeeded result = true) :
    withTransaction succeeded program store = .ok (result, view) := by
  unfold run at done
  unfold withTransaction
  rw [done]
  simp [successful]

/-- The result of a transaction is the result of its program. -/
theorem withTransaction_run {program : Session Result} {outcome : Result × Store}
    (done : withTransaction succeeded program store = .ok outcome) :
    ∃ view, run store program store = .ok (outcome.1, view) := by
  unfold withTransaction at done
  unfold run
  split at done
  · cases done
  · rename_i result view same
    cases done
    exact ⟨view, same⟩

/-- An unsuccessful result aborts the transaction. -/
theorem withTransaction_failed {program : Session Result} {result : Result} {view : Store}
    (done : run store program store = .ok (result, view))
    (failed : succeeded result = false) :
    withTransaction succeeded program store = .ok (result, store) := by
  unfold run at done
  unfold withTransaction
  rw [done]
  simp [failed]

/-- The result of a call is the result of one of its attempts. -/
theorem retry_ok {Answer : Type} {attempt : DocumentUuid → Except DriverError Answer}
    {generated : DocumentUuid} {rest : List DocumentUuid} {answer : Answer}
    (done : retry attempt generated rest = .ok answer) :
    ∃ documentUuid ∈ generated :: rest, attempt documentUuid = .ok answer := by
  induction rest generalizing generated with
  | nil => exact ⟨generated, List.mem_cons_self, done⟩
  | cons next rest ih =>
      unfold retry at done
      split at done
      · rename_i first accepted
        exact ⟨generated, List.mem_cons_self, accepted.trans done⟩
      · obtain ⟨documentUuid, inside, accepted⟩ := ih done
        exact ⟨documentUuid, List.mem_cons_of_mem _ inside, accepted⟩

/-- The first attempt decides when it throws no error. -/
theorem retry_first {Answer : Type} {attempt : DocumentUuid → Except DriverError Answer}
    {generated : DocumentUuid} {answer : Answer} (accepted : attempt generated = .ok answer)
    (rest : List DocumentUuid) : retry attempt generated rest = .ok answer := by
  cases rest with
  | nil => exact accepted
  | cons next rest =>
      unfold retry
      rw [accepted]

/-- The call answers no success and leaves the store as it is. -/
structure Unsuccessful (succeeded : Result → Bool) (store : Store)
    (outcome : Except DriverError Result × Store) : Prop where
  answers : ∀ result, outcome.1 = .ok result → succeeded result = false
  keeps : outcome.2 = store

theorem settle_unsuccessful (failure : DriverError → Result)
    {attempts : Except DriverError (Result × Store)}
    (fails : ∀ outcome, attempts = .ok outcome → succeeded outcome.1 = false ∧ outcome.2 = store) :
    Unsuccessful succeeded store (settle failure store attempts) := by
  cases attempts with
  | error error => exact ⟨fun result answered => (by cases answered), rfl⟩
  | ok outcome =>
      obtain ⟨failed, kept⟩ := fails outcome rfl
      refine ⟨?_, kept⟩
      intro result answered
      cases answered
      exact failed

end Attempts
end Meadowlark.Mongo
