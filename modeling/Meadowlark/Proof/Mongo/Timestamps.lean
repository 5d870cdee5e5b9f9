import Meadowlark.Proof.Mongo.ConcurrentUuids

namespace Meadowlark.Mongo
open Meadowlark.Core Systems

/-- Every stored document knows its creation time, which is not after its last modification. -/
def TimestampsOrdered (store : Store) : Prop :=
  ∀ document ∈ documents store, ∃ createdAt,
    document.createdAt = some createdAt ∧ createdAt ≤ document.lastModifiedAt

/-- The later form of a document is the same one, or a newer one with the same creation time. -/
def Succeeds (before after : MeadowlarkDocument) : Prop :=
  after = before ∨
    (before.lastModifiedAt < after.lastModifiedAt ∧ after.createdAt = before.createdAt)

theorem Succeeds.trans {first second third : MeadowlarkDocument} (left : Succeeds first second)
    (right : Succeeds second third) : Succeeds first third := by
  rcases left with rfl | ⟨leftNewer, leftCreated⟩
  · exact right
  · rcases right with rfl | ⟨rightNewer, rightCreated⟩
    · exact .inr ⟨leftNewer, leftCreated⟩
    · exact .inr ⟨leftNewer.trans rightNewer, rightCreated.trans leftCreated⟩

section Commits
variable {committed after : Store} {written : List RecordKey} {generated : Option DocumentUuid}
  {document : MeadowlarkDocument}

/-- A rewritten document succeeds its old form. -/
theorem TimestampsOrdered.succeeds (ordered : TimestampsOrdered committed)
    {existing : MeadowlarkDocument} (stored : existing ∈ documents committed)
    (newer : existing.lastModifiedAt < document.lastModifiedAt)
    (created : existing.createdAt.isSome → document.createdAt = existing.createdAt) :
    Succeeds existing document := by
  obtain ⟨createdAt, present, before⟩ := ordered existing stored
  exact .inr ⟨newer, created (by rw [present]; rfl)⟩

theorem TimestampsOrdered.commit (ordered : TimestampsOrdered committed)
    (change : NetChange generated written committed after) : TimestampsOrdered after := by
  intro document stored
  rcases change.origin document stored with ⟨old, -⟩ | ⟨inside, origin⟩
  · exact ordered document old
  · cases origin with
    | inserted fresh created => exact ⟨document.lastModifiedAt, created, le_refl _⟩
    | rewritten before touched same newer created =>
        obtain ⟨createdAt, present, earlier⟩ := ordered _ before
        have kept := created (by rw [present]; rfl)
        exact ⟨createdAt, kept.trans present, by omega⟩

end Commits

section Runs
variable [NodeRuntime] {system following : System Record Call Call.Answer RepositoryResult}
  {labels begun : List RepositoryCall}

theorem labelled_timestampsOrdered (reached : repository.Labelled system labels begun) :
    TimestampsOrdered system.committed := by
  induction reached with
  | empty => exact fun document stored => absurd stored List.not_mem_nil
  | next reached moved ih =>
      rcases labelled_change reached moved with same |
        ⟨index, call, written, rfl, label, change⟩
      · rw [same]
        exact ih
      · exact ih.commit change

/-- The committed store holds a successor of the document or nothing under its uuid.
No call in progress can bring the uuid back. -/
structure Lineage (before : MeadowlarkDocument) (committed : Store) (labels : List RepositoryCall) :
    Prop where
  pending : before.documentUuid ∉ generatedUuids labels
  succeeds : ∀ after ∈ documents committed, before.documentUuid = after.documentUuid →
    Succeeds before after

variable {before : MeadowlarkDocument}

omit [NodeRuntime] in
theorem Lineage.commit (lineage : Lineage before system.committed labels)
    (ordered : TimestampsOrdered system.committed) {index : Nat} {call : RepositoryCall}
    (label : labels[index]? = some call) {written : List RecordKey}
    (change : NetChange call.generated? written system.committed following.committed) :
    Lineage before following.committed (labels.eraseIdx index) where
  pending inside := by
    have remaining := (List.eraseIdx_sublist labels index).subset
    exact lineage.pending (List.filterMap_subset _ remaining inside)
  succeeds after stored same := by
    rcases change.origin after stored with ⟨old, -⟩ | ⟨inside, origin⟩
    · exact lineage.succeeds after old same
    · cases origin with
      | inserted fresh created =>
          have pending : before.documentUuid ∈ generatedUuids labels := by
            rw [same]
            exact List.mem_filterMap.mpr ⟨call, List.mem_of_getElem? label, fresh⟩
          exact absurd pending lineage.pending
      | rewritten existed touched sameUuid newer created =>
          have first := lineage.succeeds _ existed (same.trans sameUuid.symm)
          exact first.trans (ordered.succeeds existed newer created)

/-- One event keeps the lineage of a document whose uuid it does not generate. -/
theorem Lineage.next (lineage : Lineage before system.committed labels)
    (reached : repository.Labelled system labels begun) {event : Event RepositoryCall}
    (moved : repository.next system event = some following)
    (fresh : before.documentUuid ∉ generatedUuids event.begins) :
    Lineage before following.committed (repository.relabel system labels event) := by
  rcases labelled_change reached moved with same | ⟨index, call, written, rfl, label, change⟩
  · constructor
    · intro inside
      have remaining : (repository.relabel system labels event).Sublist (labels ++ event.begins) :=
        Service.relabel_sublist system labels event
      have pending := List.filterMap_subset RepositoryCall.generated? remaining.subset inside
      rw [List.filterMap_append] at pending
      rcases List.mem_append.mp pending with old | new
      · exact lineage.pending old
      · exact fresh new
    · rw [same]
      exact lineage.succeeds
  · exact lineage.commit (labelled_timestampsOrdered reached) label change

/-- A run keeps the lineage of a document whose uuid it does not generate. -/
theorem Lineage.runEvents {events : List (Event RepositoryCall)}
    (lineage : Lineage before system.committed labels)
    (reached : repository.Labelled system labels begun)
    (done : repository.runEvents system events = some following)
    (fresh : before.documentUuid ∉ generatedUuids (events.flatMap Event.begins)) :
    ∃ labels, Lineage before following.committed labels := by
  induction events generalizing system labels begun with
  | nil =>
      obtain rfl := Option.some.inj done
      exact ⟨labels, lineage⟩
  | cons event rest ih =>
      unfold generatedUuids at fresh
      rw [List.flatMap_cons, List.filterMap_append, List.mem_append, not_or] at fresh
      unfold Service.runEvents at done
      split at done
      · rename_i middle moved
        exact ih (lineage.next reached moved fresh.1) (reached.next moved) done fresh.2
      · cases done

omit [NodeRuntime] in
/-- The document that a reached system stores under a uuid starts its lineage. -/
theorem UuidsAccounted.lineage (accounted : UuidsAccounted system.committed labels begun)
    (stored : before ∈ documents system.committed) : Lineage before system.committed labels where
  pending := accounted.pending before stored
  succeeds after afterStored same :=
    .inl (accounted.unique before stored after afterStored same).symm

/-- From any reached state on, the committed forms of a document succeed one another. -/
theorem concurrent_timestamps {events more : List (Event RepositoryCall)}
    (done : repository.runEvents System.empty events = some system)
    (rest : repository.runEvents system more = some following) :
    TimestampsOrdered system.committed ∧
      ((generatedUuids ((events ++ more).flatMap Event.begins)).Nodup →
        ∀ before ∈ documents system.committed, ∀ after ∈ documents following.committed,
          before.documentUuid = after.documentUuid → Succeeds before after) := by
  obtain ⟨labels, reached⟩ := Service.Labelled.empty.runEvents done
  constructor
  · exact labelled_timestampsOrdered reached
  · intro distinct before stored after afterStored same
    unfold generatedUuids at distinct
    rw [List.flatMap_append, List.filterMap_append, List.nodup_append] at distinct
    obtain ⟨earlier, -, apart⟩ := distinct
    have accounted := labelled_uuidsAccounted reached earlier
    have fresh : before.documentUuid ∉ generatedUuids (more.flatMap Event.begins) := fun inside =>
      apart _ (accounted.generated before stored) _ inside rfl
    obtain ⟨last, lineage⟩ := (accounted.lineage stored).runEvents reached rest fresh
    exact lineage.succeeds after afterStored same

end Runs

section Examples
open Sample

private def schoolRequest (timestamp : Int) : UpsertRequest :=
  upsertRequest (resource "School") "schoolId" "1" [] none timestamp "client"

private def newSchool : List (Event RepositoryCall) :=
  [.begin (.upsert (documentUuid "000000000001") (schoolRequest 1))] ++
    List.replicate 7 (.step 0) ++ [.commit 0]

/-- An update and an older upsert of one school run at the same time. -/
private def changedSchool : List (Event RepositoryCall) :=
  [.begin (.update (documentUuid "000000000002")
      { schoolRequest 3 with documentUuid := documentUuid "000000000001" }),
    .begin (.upsert (documentUuid "000000000003") (schoolRequest 2))] ++
    List.replicate 6 (.step 0) ++ [.commit 0] ++ List.replicate 5 (.step 0) ++ [.abort 0]

theorem concurrent_timestamps_changed :
    ∃ system following, (@repository runtime).runEvents System.empty newSchool = some system ∧
      (@repository runtime).runEvents system changedSchool = some following ∧
      (∃ before ∈ documents system.committed, ∃ after ∈ documents following.committed,
        before.lastModifiedAt < after.lastModifiedAt ∧ Succeeds before after) ∧
      TimestampsOrdered system.committed := by
  have distinct : (generatedUuids ((newSchool ++ changedSchool).flatMap Event.begins)).Nodup := by
    decide +kernel
  have changed : ∃ system ∈ (@repository runtime).runEvents System.empty newSchool,
      ∃ following ∈ (@repository runtime).runEvents system changedSchool,
        ∃ before ∈ documents system.committed, ∃ after ∈ documents following.committed,
          before.lastModifiedAt < after.lastModifiedAt ∧
            before.documentUuid = after.documentUuid := by decide +kernel
  obtain ⟨system, done, following, rest, before, stored, after, afterStored, newer, same⟩ := changed
  have timestamps := @concurrent_timestamps runtime system following newSchool changedSchool done rest
  exact ⟨system, following, done, rest,
    ⟨before, stored, after, afterStored, newer,
      timestamps.2 distinct before stored after afterStored same⟩, timestamps.1⟩

end Examples
end Meadowlark.Mongo
