import Meadowlark.Proof.Mongo.NetEffect

namespace Meadowlark.Mongo
open Meadowlark.Core Systems

/-- A commit writes at most one document and leaves every other one as it was. -/
structure NetChange (generated : Option DocumentUuid) (written : List RecordKey)
    (before after : Store) : Prop where
  origin : ∀ document ∈ documents after,
    (document ∈ documents before ∧ .document document.id ∉ written) ∨
      (.document document.id ∈ written ∧ Origin before written generated document)
  single : ∀ first ∈ documents after, .document first.id ∈ written →
    ∀ second ∈ documents after, .document second.id ∈ written → first = second
  unlocked : ∀ documentUuid, .concurrency documentUuid ∈ after.items →
    .concurrency documentUuid ∈ before.items

/-- No two stored documents share a uuid. -/
def UuidsUnique (store : Store) : Prop :=
  ∀ first ∈ documents store, ∀ second ∈ documents store,
    first.documentUuid = second.documentUuid → first = second

section Commits
variable {committed : Store} {transaction : Transaction Record} {generated : Option DocumentUuid}
  {document : MeadowlarkDocument}

/-- A key that only this transaction writes has the same item in the snapshot and now. -/
theorem snapshot_iff_of_written (aligned : transaction.Aligned committed)
    (compatible : transaction.Compatible) {record : Record}
    (written : key record ∈ transaction.written) :
    record ∈ committed.items ↔ record ∈ transaction.snapshot.items :=
  aligned.committed_iff record (compatible _ written)

theorem Origin.commit (origin : Origin transaction.snapshot transaction.written generated document)
    (aligned : transaction.Aligned committed) (compatible : transaction.Compatible) :
    Origin committed transaction.written generated document := by
  cases origin with
  | inserted fresh created => exact .inserted fresh created
  | rewritten stored touched same newer created =>
      have now := (snapshot_iff_of_written aligned compatible touched).mpr
        ((mem_documents _ _).mp stored)
      exact .rewritten ((mem_documents _ _).mpr now) touched same newer created

theorem NetEffect.commit (effect : NetEffect generated transaction)
    (aligned : transaction.Aligned committed) (compatible : transaction.Compatible) :
    NetChange generated transaction.written committed
      (committed.install transaction.view transaction.written) := by
  have viewed : ∀ document ∈ documents (committed.install transaction.view transaction.written),
      .document document.id ∈ transaction.written → document ∈ documents transaction.view := by
    intro document stored written
    rcases (mem_documents_install _ _ _ _).mp stored with old | new
    · exact absurd written old.2
    · exact new.1
  constructor
  · intro document stored
    rcases (mem_documents_install _ _ _ _).mp stored with old | new
    · exact .inl old
    · have origin := effect.origin document new.1 new.2
      exact .inr ⟨new.2, origin.commit aligned compatible⟩
  · intro first firstStored firstWritten second secondStored secondWritten
    exact effect.single first (viewed first firstStored firstWritten) firstWritten second
      (viewed second secondStored secondWritten) secondWritten
  · intro documentUuid stored
    rcases (Database.mem_install _ _ _ _).mp stored with old | new
    · exact old.1
    · have before := effect.unlocked documentUuid new.1
      exact (snapshot_iff_of_written aligned compatible new.2).mpr before

end Commits

section Runs
variable [NodeRuntime] {system following : System Record Call Call.Answer RepositoryResult}
  {labels begun : List RepositoryCall}

/-- Every change of the committed store is the net change of one call. -/
theorem labelled_change {event : Event RepositoryCall}
    (reached : repository.Labelled system labels begun)
    (moved : repository.next system event = some following) :
    following.committed = system.committed ∨
      ∃ index call written, event = .commit index ∧ labels[index]? = some call ∧
        NetChange call.generated? written system.committed following.committed := by
  rcases Service.next_cases moved with same |
    ⟨index, transaction, result, rfl, present, commits, compatible, installed⟩
  · exact .inl same
  · obtain ⟨call, label, follows⟩ := reached.follows_at present
    have effect := follows.finished (fun _ => netEffect_stable call.generated?)
      (repositoryTransaction_netEffect call)
    rw [installed]
    exact .inr ⟨index, call, transaction.written, rfl, label,
      effect.commit follows.aligned compatible⟩

/-- The uuids that the calls have generated. -/
def generatedUuids (calls : List RepositoryCall) : List DocumentUuid :=
  calls.filterMap RepositoryCall.generated?

/-- Stored uuids are generated, pairwise different, and not those of calls in progress. -/
structure UuidsAccounted (committed : Store) (labels begun : List RepositoryCall) : Prop where
  unique : UuidsUnique committed
  generated : ∀ document ∈ documents committed, document.documentUuid ∈ generatedUuids begun
  pending : ∀ document ∈ documents committed, document.documentUuid ∉ generatedUuids labels

variable {committed after : Store}

omit [NodeRuntime] in
/-- An event that keeps the committed store only lets calls leave. -/
theorem UuidsAccounted.leave (accounted : UuidsAccounted committed labels begun)
    {remaining : List RepositoryCall} (inside : remaining ⊆ labels) :
    UuidsAccounted committed remaining begun where
  unique := accounted.unique
  generated := accounted.generated
  pending document stored pending :=
    accounted.pending document stored (List.filterMap_subset _ inside pending)

omit [NodeRuntime] in
theorem UuidsAccounted.begin (accounted : UuidsAccounted committed labels begun)
    {calls : List RepositoryCall} (distinct : (generatedUuids (begun ++ calls)).Nodup) :
    UuidsAccounted committed (labels ++ calls) (begun ++ calls) where
  unique := accounted.unique
  generated document stored := by
    unfold generatedUuids
    rw [List.filterMap_append]
    exact List.mem_append_left _ (accounted.generated document stored)
  pending document stored pending := by
    unfold generatedUuids at pending distinct
    rw [List.filterMap_append] at pending distinct
    rcases List.mem_append.mp pending with old | new
    · exact accounted.pending document stored old
    · exact (List.nodup_append.mp distinct).2.2 _ (accounted.generated document stored) _ new rfl

omit [NodeRuntime] in
/-- A call that leaves takes its generated uuid with it. -/
theorem generated_not_pending {index : Nat} {call : RepositoryCall} {documentUuid : DocumentUuid}
    (distinct : (generatedUuids labels).Nodup) (label : labels[index]? = some call)
    (fresh : call.generated? = some documentUuid) :
    documentUuid ∉ generatedUuids (labels.eraseIdx index) := by
  obtain ⟨bound, rfl⟩ := List.getElem?_eq_some_iff.mp label
  have permuted := (List.getElem_cons_eraseIdx_perm bound).filterMap RepositoryCall.generated?
  rw [List.filterMap_cons_some fresh] at permuted
  exact (List.nodup_cons.mp (permuted.nodup_iff.mpr distinct)).1

omit [NodeRuntime] in
/-- A committed document has the uuid of one from before or the generated one. -/
theorem UuidsAccounted.commit (accounted : UuidsAccounted committed labels begun)
    (distinct : (generatedUuids labels).Nodup) (inside : labels ⊆ begun) {index : Nat}
    {call : RepositoryCall} (label : labels[index]? = some call) {written : List RecordKey}
    (change : NetChange call.generated? written committed after) :
    UuidsAccounted after (labels.eraseIdx index) begun := by
  have produced : ∀ documentUuid, call.generated? = some documentUuid →
      documentUuid ∈ generatedUuids labels := by
    intro documentUuid fresh
    exact List.mem_filterMap.mpr ⟨call, List.mem_of_getElem? label, fresh⟩
  have stays := accounted.leave (List.eraseIdx_sublist labels index).subset
  have differs : ∀ first ∈ documents committed, .document first.id ∉ written →
      ∀ second, Origin committed written call.generated? second →
        first.documentUuid ≠ second.documentUuid := by
    intro first old kept second origin same
    cases origin with
    | inserted fresh created => exact accounted.pending first old (same ▸ produced _ fresh)
    | rewritten before touched sameUuid newer created =>
        obtain rfl := accounted.unique first old _ before (same.trans sameUuid.symm)
        exact kept touched
  constructor
  · intro first firstStored second secondStored same
    rcases change.origin first firstStored with ⟨firstOld, firstKept⟩ | ⟨firstWritten, firstOrigin⟩
    · rcases change.origin second secondStored with
        ⟨secondOld, secondKept⟩ | ⟨secondWritten, secondOrigin⟩
      · exact accounted.unique first firstOld second secondOld same
      · exact absurd same (differs first firstOld firstKept second secondOrigin)
    · rcases change.origin second secondStored with
        ⟨secondOld, secondKept⟩ | ⟨secondWritten, secondOrigin⟩
      · exact absurd same.symm (differs second secondOld secondKept first firstOrigin)
      · exact change.single first firstStored firstWritten second secondStored secondWritten
  · intro document stored
    rcases change.origin document stored with ⟨old, -⟩ | ⟨written, origin⟩
    · exact accounted.generated document old
    · cases origin with
      | inserted fresh created => exact List.filterMap_subset _ inside (produced _ fresh)
      | rewritten before touched same newer created =>
          exact same ▸ accounted.generated _ before
  · intro document stored
    rcases change.origin document stored with ⟨old, -⟩ | ⟨written, origin⟩
    · exact stays.pending document old
    · cases origin with
      | inserted fresh created => exact generated_not_pending distinct label fresh
      | rewritten before touched same newer created => exact same ▸ stays.pending _ before

/-- Uuids stay accounted for along every run. -/
theorem labelled_uuidsAccounted (reached : repository.Labelled system labels begun)
    (distinct : (generatedUuids begun).Nodup) : UuidsAccounted system.committed labels begun := by
  induction reached with
  | empty =>
      exact ⟨fun first stored => absurd stored List.not_mem_nil,
        fun document stored => absurd stored List.not_mem_nil,
        fun document stored => absurd stored List.not_mem_nil⟩
  | @next system following labels begun event reached moved ih =>
      have earlier : (generatedUuids begun).Nodup :=
        distinct.sublist ((List.sublist_append_left _ _).filterMap _)
      have accounted := ih earlier
      rcases labelled_change reached moved with same |
        ⟨index, call, written, rfl, label, change⟩
      · rw [same]
        exact (accounted.begin distinct).leave (Service.relabel_sublist _ _ _).subset
      · have pending : (generatedUuids labels).Nodup := earlier.sublist (reached.sublist.filterMap _)
        rw [show begun ++ (Event.commit index).begins = begun from List.append_nil begun]
        exact accounted.commit pending reached.sublist.subset label change

/-- In every run no two committed documents share a uuid. -/
theorem concurrent_uuidsUnique {events : List (Event RepositoryCall)}
    (distinct : (generatedUuids (events.flatMap Event.begins)).Nodup)
    (done : repository.runEvents System.empty events = some system) :
    UuidsUnique system.committed := by
  obtain ⟨labels, reached⟩ := Service.Labelled.empty.runEvents done
  exact (labelled_uuidsAccounted reached distinct).unique

end Runs

section Examples
open Sample

private def renamable : ResourceInfo := { resource "ClassPeriod" with allowIdentityUpdates := true }

private def periodRequest (name : String) (timestamp : Int) : UpsertRequest :=
  upsertRequest renamable "classPeriodName" name [] none timestamp "client"

private def periodUpsert (generated name : String) (timestamp : Int) : RepositoryCall :=
  .upsert (documentUuid generated) (periodRequest name timestamp)

private def periodUpdate (generated name : String) (timestamp : Int) : RepositoryCall :=
  .update (documentUuid generated)
    { periodRequest name timestamp with documentUuid := documentUuid "000000000001" }

private def stepsOf (count : Nat) : List (Event RepositoryCall) := List.replicate count (.step 0)

/-- A class period is renamed while an upsert of its old identity is in progress.
The upsert loses and is run again. -/
private def renamedPeriod : List (Event RepositoryCall) :=
  [.begin (periodUpsert "000000000001" "first" 1)] ++ stepsOf 7 ++ [.commit 0] ++
    [.begin (periodUpdate "000000000002" "second" 2),
      .begin (periodUpsert "000000000003" "first" 3)] ++ stepsOf 17 ++ [.commit 0] ++
    stepsOf 7 ++ [.abort 0] ++
    [.begin (periodUpsert "000000000004" "first" 4)] ++ stepsOf 7 ++ [.commit 0]

theorem concurrent_uuidsUnique_renamed :
    ∃ system, (@repository runtime).runEvents System.empty renamedPeriod = some system ∧
      (documents system.committed).length = 2 ∧ UuidsUnique system.committed := by
  have distinct : (generatedUuids (renamedPeriod.flatMap Event.begins)).Nodup := by decide +kernel
  have stored : ∃ system ∈ (@repository runtime).runEvents System.empty renamedPeriod,
      (documents system.committed).length = 2 := by decide +kernel
  obtain ⟨system, done, stored⟩ := stored
  exact ⟨system, done, stored, @concurrent_uuidsUnique runtime system renamedPeriod distinct done⟩

end Examples
end Meadowlark.Mongo
