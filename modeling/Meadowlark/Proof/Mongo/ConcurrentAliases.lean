import Meadowlark.Proof.Mongo.ConcurrentIntegrity

namespace Meadowlark.Mongo
open Meadowlark.Core Systems

/-- The new form of a document adds no alias that another document of the view holds. -/
def AddsFreshAliases (view : Store) (existing document : MeadowlarkDocument) : Prop :=
  ∀ id ∈ document.aliasMeadowlarkIds, id ∉ existing.aliasMeadowlarkIds →
    ∀ other ∈ documents view, other.id ≠ existing.id → id ∉ other.aliasMeadowlarkIds

instance (view : Store) (existing document : MeadowlarkDocument) :
    Decidable (AddsFreshAliases view existing document) :=
  inferInstanceAs (Decidable (∀ id ∈ document.aliasMeadowlarkIds, _ →
    ∀ other ∈ documents view, _ → _))

/-- The writes that keep aliases unique inside one view.
An inserted document finds its own id unclaimed, and a write in place adds no claimed alias. -/
def AliasCall (transaction : Transaction Record) : Call → Prop
  | .replaceOne id document =>
      match findDocument transaction.view (.id id) with
      | none => ∀ other ∈ documents transaction.view, id ∉ other.aliasMeadowlarkIds
      | some existing => AddsFreshAliases transaction.view existing document
  | .updateOne filter document =>
      ∀ existing ∈ findDocument transaction.view filter,
        AddsFreshAliases transaction.view existing document
  | _ => True

theorem aliasCall_replaceOne {transaction : Transaction Record} {id : MeadowlarkId}
    {document : MeadowlarkDocument} :
    ((findDocument transaction.view (.id id) = none →
        ∀ other ∈ documents transaction.view, id ∉ other.aliasMeadowlarkIds) ∧
      ∀ existing ∈ findDocument transaction.view (.id id),
        AddsFreshAliases transaction.view existing document) ↔
      AliasCall transaction (.replaceOne id document) := by
  cases found : findDocument transaction.view (.id id) <;> simp [AliasCall, found]

instance (transaction : Transaction Record) : (call : Call) → Decidable (AliasCall transaction call)
  | .replaceOne _ _ => decidable_of_iff _ aliasCall_replaceOne
  | .updateOne filter document =>
      inferInstanceAs (Decidable (∀ existing ∈ findDocument transaction.view filter,
        AddsFreshAliases transaction.view existing document))
  | .findOne _ _ _ | .find _ _ _ _ | .insertMany _ | .deleteMany _ | .deleteOne _ => isTrue trivial

/-- No document that another transaction committed since the snapshot shares an alias with a
document that this transaction writes. -/
def OverlapsApart (committed : Store) (transaction : Transaction Record) : Prop :=
  ∀ document ∈ documents transaction.view, .document document.id ∈ transaction.written →
    ∀ other ∈ documents committed, .document other.id ∈ transaction.overwritten →
      ∀ id ∈ document.aliasMeadowlarkIds, id ∉ other.aliasMeadowlarkIds

instance (committed : Store) (transaction : Transaction Record) :
    Decidable (OverlapsApart committed transaction) :=
  inferInstanceAs (Decidable (∀ document ∈ documents transaction.view, _ →
    ∀ other ∈ documents committed, _ → ∀ id ∈ document.aliasMeadowlarkIds, _))

/-- Uniqueness of aliases as a protocol of the transactions. -/
def aliasing : Protocol Record Call where
  allowsCall _ transaction call := AliasCall transaction call
  allowsCommit := OverlapsApart
  promise _ _ _ := True
  invariant committed _ := AliasesUnique committed
  settled _ transaction := AliasesUnique transaction.view

instance (committed : Store) (transaction : Transaction Record) (call : Call) :
    Decidable (aliasing.allowsCall committed transaction call) :=
  inferInstanceAs (Decidable (AliasCall transaction call))

instance (committed : Store) (transaction : Transaction Record) :
    Decidable (aliasing.allowsCommit committed transaction) :=
  inferInstanceAs (Decidable (OverlapsApart committed transaction))

section Views
variable {committed : Store} {transaction : Transaction Record}

theorem AliasesUnique.subset {store following : Store} (unique : AliasesUnique store)
    (fewer : ∀ document ∈ documents following, document ∈ documents store) :
    AliasesUnique following :=
  fun first firstStored second secondStored =>
    unique first (fewer first firstStored) second (fewer second secondStored)

theorem AliasesUnique.congr {store following : Store} (unique : AliasesUnique store)
    (same : documents following = documents store) : AliasesUnique following :=
  unique.subset fun _ stored => same ▸ stored

/-- A written document keeps uniqueness when no other document holds one of its aliases. -/
theorem AliasesUnique.put {store : Store} (unique : AliasesUnique store)
    {document : MeadowlarkDocument}
    (apart : ∀ id ∈ document.aliasMeadowlarkIds, ∀ other ∈ documents store,
      other.id ≠ document.id → id ∉ other.aliasMeadowlarkIds) :
    AliasesUnique (store.put (.document document)) := by
  intro first firstStored second secondStored id firstHeld secondHeld
  rcases (mem_documents_put _ _ _).mp firstStored with ⟨firstOld, firstOther⟩ | rfl
  · rcases (mem_documents_put _ _ _).mp secondStored with ⟨secondOld, secondOther⟩ | rfl
    · exact unique first firstOld second secondOld id firstHeld secondHeld
    · exact absurd firstHeld (apart id secondHeld first firstOld firstOther)
  · rcases (mem_documents_put _ _ _).mp secondStored with ⟨secondOld, secondOther⟩ | rfl
    · exact absurd secondHeld (apart id firstHeld second secondOld secondOther)
    · rfl

/-- A write in place keeps uniqueness when it adds only fresh aliases. -/
theorem AddsFreshAliases.put {store : Store} {existing document : MeadowlarkDocument}
    (unique : AliasesUnique store) (stored : existing ∈ documents store)
    (same : existing.id = document.id) (fresh : AddsFreshAliases store existing document) :
    AliasesUnique (store.put (.document document)) := by
  apply unique.put
  intro id inside other otherStored different held
  by_cases before : id ∈ existing.aliasMeadowlarkIds
  · have equal := unique existing stored other otherStored id before held
    exact different (equal ▸ same)
  · exact fresh id inside before other otherStored (same ▸ different) held

/-- The commit merges two unique stores whose overlap is apart. -/
theorem AliasesUnique.install (unique : AliasesUnique committed)
    (viewUnique : AliasesUnique transaction.view) (aligned : transaction.Aligned committed)
    (apart : OverlapsApart committed transaction) :
    AliasesUnique (committed.install transaction.view transaction.written) := by
  have mixed : ∀ new ∈ documents transaction.view, .document new.id ∈ transaction.written →
      ∀ old ∈ documents committed, .document old.id ∉ transaction.written →
        ∀ id ∈ new.aliasMeadowlarkIds, id ∈ old.aliasMeadowlarkIds → new = old := by
    intro new newStored written old oldStored unwritten id newHeld oldHeld
    by_cases changed : .document old.id ∈ transaction.overwritten
    · exact absurd oldHeld (apart new newStored written old oldStored changed id newHeld)
    · have inView : old ∈ documents transaction.view := by
        rw [mem_documents] at oldStored ⊢
        exact (aligned.view_iff _ unwritten).mpr ((aligned.committed_iff _ changed).mp oldStored)
      exact viewUnique new newStored old inView id newHeld oldHeld
  intro first firstStored second secondStored id firstHeld secondHeld
  rcases (mem_documents_install _ _ _ _).mp firstStored with ⟨firstOld, firstOut⟩ | ⟨firstNew, firstIn⟩
  · rcases (mem_documents_install _ _ _ _).mp secondStored with
      ⟨secondOld, secondOut⟩ | ⟨secondNew, secondIn⟩
    · exact unique first firstOld second secondOld id firstHeld secondHeld
    · exact (mixed second secondNew secondIn first firstOld firstOut id secondHeld firstHeld).symm
  · rcases (mem_documents_install _ _ _ _).mp secondStored with
      ⟨secondOld, secondOut⟩ | ⟨secondNew, secondIn⟩
    · exact mixed first firstNew firstIn second secondOld secondOut id firstHeld secondHeld
    · exact viewUnique first firstNew second secondNew id firstHeld secondHeld

end Views

section Transactions
variable [NodeRuntime] {committed : Store} {transaction : Transaction Record}

/-- A clean check leaves the superclass identity of an insert unclaimed in the view. -/
theorem wp_checkSuperclassIdentity_unclaimed {upsertRequest : UpsertRequest} {isInsert : Bool}
    {post : Option UpsertResult → Store → Transaction Record → Prop}
    (holds : ∀ failure following moved,
      aliasing.Interferes committed transaction following moved →
      (failure = none → isInsert = true → ∀ superclassInfo,
        upsertRequest.documentInfo.superclassInfo = some superclassInfo →
          ∀ other ∈ documents transaction.view,
            getMeadowlarkIdForSuperclassInfo superclassInfo ∉ other.aliasMeadowlarkIds) →
      post failure following moved) :
    aliasing.wp mongoDriver post (checkSuperclassIdentity upsertRequest isInsert)
      committed transaction := by
  unfold checkSuperclassIdentity
  split
  · rename_i superclassInfo present
    apply Protocol.wp_seq
    apply wp_findOne_whole
    intro following moved interferes aligned
    rw [interferes.view]
    cases inUse : findDocument transaction.view
        (.aliasMeadowlarkId (getMeadowlarkIdForSuperclassInfo superclassInfo)) with
    | some document =>
        apply holds _ following moved interferes
        intro impossible
        cases impossible
    | none =>
        apply holds _ following moved interferes
        intro clean insert other same document stored held
        obtain rfl : superclassInfo = other := by
          rw [present] at same
          exact Option.some.inj same
        have refused := findDocument_none inUse stored
        simp [Filter.matches, held] at refused
  · rename_i skipped
    apply holds none committed transaction (.refl _ _)
    intro clean insert superclassInfo present
    exact absurd present (skipped superclassInfo insert)

/-- The aliases of a document come from its own id and from its superclass identity. -/
def AliasedBy (upsertRequest : UpsertRequest) (document : MeadowlarkDocument) : Prop :=
  document.id = upsertRequest.meadowlarkId ∧
    document.aliasMeadowlarkIds = upsertRequest.meadowlarkId ::
      (upsertRequest.documentInfo.superclassInfo.map getMeadowlarkIdForSuperclassInfo).toList

theorem wp_writeDocument_unique {upsertRequest : UpsertRequest} {documentUuid : DocumentUuid}
    {document : MeadowlarkDocument} (unique : AliasesUnique transaction.view)
    (aliased : AliasedBy upsertRequest document)
    (unclaimed : findDocument transaction.view (.id upsertRequest.meadowlarkId) = none →
      ∀ superclassInfo, upsertRequest.documentInfo.superclassInfo = some superclassInfo →
        ∀ other ∈ documents transaction.view,
          getMeadowlarkIdForSuperclassInfo superclassInfo ∉ other.aliasMeadowlarkIds) :
    aliasing.wp mongoDriver (fun _ _ moved => AliasesUnique moved.view)
      (writeDocument upsertRequest documentUuid document) committed transaction := by
  apply Protocol.wp_seq
  apply wp_lockReferencedDocuments_only
  intro first started locked
  apply Protocol.wp_seq
  apply wp_replaceOne aliased.1
  intro following moved answer interferes aligned allowed
  have same : documents moved.view = documents transaction.view := by
    rw [interferes.view, locked.view]
  have uniqueMoved := unique.congr same
  have sameSearch : findDocument moved.view (.id upsertRequest.meadowlarkId) =
      findDocument transaction.view (.id upsertRequest.meadowlarkId) := by
    unfold findDocument
    rw [same]
  change (match findDocument moved.view (.id upsertRequest.meadowlarkId) with
    | none => ∀ other ∈ documents moved.view,
        upsertRequest.meadowlarkId ∉ other.aliasMeadowlarkIds
    | some existing => AddsFreshAliases moved.view existing document) at allowed
  change AliasesUnique (moved.view.put (.document document))
  cases found : findDocument moved.view (.id upsertRequest.meadowlarkId) with
  | some existing =>
      rw [found] at allowed
      have inside := findDocument_some found
      have sameId : existing.id = upsertRequest.meadowlarkId := by
        simpa [Filter.matches] using inside.2
      exact AddsFreshAliases.put uniqueMoved inside.1 (sameId.trans aliased.1.symm) allowed
  | none =>
      rw [found] at allowed
      apply uniqueMoved.put
      intro id inside other stored _
      rw [aliased.2, List.mem_cons] at inside
      rcases inside with rfl | claimed
      · exact allowed other stored
      · obtain ⟨superclassInfo, present, rfl⟩ :
            ∃ superclassInfo, upsertRequest.documentInfo.superclassInfo = some superclassInfo ∧
              getMeadowlarkIdForSuperclassInfo superclassInfo = id := by
          simpa using claimed
        exact unclaimed (sameSearch ▸ found) superclassInfo present other (same ▸ stored)

theorem wp_upsertDocumentTransaction_unique {generated : DocumentUuid}
    {upsertRequest : UpsertRequest} {documentFromUpdate : Option MeadowlarkDocument}
    (unique : AliasesUnique transaction.view)
    (aliased : ∀ existingDocument, AliasedBy upsertRequest
      (documentFromUpdate.getD (documentFromUpsert upsertRequest generated existingDocument))) :
    aliasing.wp mongoDriver (fun _ _ moved => AliasesUnique moved.view)
      (upsertDocumentTransaction generated upsertRequest documentFromUpdate)
      committed transaction := by
  apply Protocol.wp_seq
  apply wp_findOne_whole
  intro first started beforeFind aligned
  split
  · change AliasesUnique started.view
    rw [beforeFind.view]
    exact unique
  · apply Protocol.wp_seq
    apply wp_checkSuperclassIdentity_unclaimed
    intro conflict second checked beforeCheck unclaimed
    have untilCheck := beforeFind.trans _ beforeCheck
    cases conflict with
    | some failure =>
        change AliasesUnique checked.view
        rw [untilCheck.view]
        exact unique
    | none =>
        apply Protocol.wp_seq
        apply (readsOnly_checkUpsertReferences _ _).wp
        intro invalid third validated beforeWrite
        have untilWrite := untilCheck.trans _ beforeWrite
        have uniqueThird : AliasesUnique validated.view := by
          rw [untilWrite.view]
          exact unique
        cases invalid with
        | some failure => exact uniqueThird
        | none =>
            apply wp_writeDocument_unique uniqueThird (aliased _)
            rw [untilWrite.view, ← beforeFind.view]
            intro absent
            exact unclaimed rfl (by rw [absent]; rfl)

omit [NodeRuntime] in
theorem wp_deleteDocument_unique {documentUuid : DocumentUuid} {validate : Bool}
    (unique : AliasesUnique transaction.view) :
    aliasing.wp mongoDriver (fun _ _ moved => AliasesUnique moved.view)
      (deleteDocumentByMeadowlarkIdTransaction documentUuid validate) committed transaction := by
  have performs : ∀ first started, AliasesUnique (Transaction.view started) →
      aliasing.wp mongoDriver (fun _ _ moved => AliasesUnique moved.view)
        (performDelete documentUuid) first started := by
    intro first started uniqueFirst
    apply Protocol.wp_seq
    apply wp_lockDocuments_only
    intro second moved locked
    apply Protocol.wp_seq
    apply wp_deleteOne
    · intro following moved interferes absent
      change AliasesUnique moved.view
      rw [interferes.view]
      exact uniqueFirst.congr (congrArg documents locked.view)
    · intro following moved existing interferes aligned found
      have uniqueMoved : AliasesUnique moved.view := by
        rw [interferes.view]
        exact uniqueFirst.congr (congrArg documents locked.view)
      exact uniqueMoved.subset fun document stored => ((mem_documents_erase _ _ _).mp stored).1
  unfold deleteDocumentByMeadowlarkIdTransaction
  split
  · apply Protocol.wp_seq
    apply (readsOnly_checkForReferencesToDocument _).wp
    intro failure following moved interferes
    have uniqueMoved : AliasesUnique moved.view := by
      rw [interferes.view]
      exact unique
    cases failure with
    | some result => exact uniqueMoved
    | none => exact performs following moved uniqueMoved
  · exact performs committed transaction unique

theorem wp_deleteAndInsert_unique {generated : DocumentUuid} {document : MeadowlarkDocument}
    {updateRequest : UpdateRequest} (unique : AliasesUnique transaction.view)
    (aliased : AliasedBy updateRequest.toUpsertRequest document) :
    aliasing.wp mongoDriver (fun _ _ moved => AliasesUnique moved.view)
      (deleteAndInsert generated document updateRequest) committed transaction := by
  apply Protocol.wp_seq
  apply Protocol.wp_mono (wp_deleteDocument_unique unique)
  intro result following moved uniqueMoved
  cases result with
  | deleteSuccess =>
      apply Protocol.wp_seq
      apply Protocol.wp_mono
      · exact wp_upsertDocumentTransaction_unique uniqueMoved fun _ => aliased
      · exact fun _ _ _ uniqueLast => uniqueLast
  | deleteFailureReference infos => exact uniqueMoved
  | deleteFailureNotExists => exact uniqueMoved
  | deleteFailureWriteConflict message => exact uniqueMoved
  | unknownFailure message => exact uniqueMoved

omit [NodeRuntime] in
theorem wp_tryUpdateByReplacement_unique {document : MeadowlarkDocument}
    {updateRequest : UpdateRequest} (unique : AliasesUnique transaction.view) :
    aliasing.wp mongoDriver (fun _ _ moved => AliasesUnique moved.view)
      (tryUpdateByReplacement document updateRequest) committed transaction := by
  apply Protocol.wp_seq
  apply wp_updateOne
  · intro following moved interferes absent
    change AliasesUnique moved.view
    rw [interferes.view]
    exact unique
  · intro following moved existing interferes aligned allowed found
    have uniqueMoved : AliasesUnique moved.view := by
      rw [interferes.view]
      exact unique
    exact AddsFreshAliases.put uniqueMoved (findDocument_some found).1 rfl
      (allowed existing found)

theorem wp_updateValidDocument_unique {generated : DocumentUuid}
    {updateRequest : UpdateRequest} (unique : AliasesUnique transaction.view) :
    aliasing.wp mongoDriver (fun _ _ moved => AliasesUnique moved.view)
      (updateValidDocument generated updateRequest) committed transaction := by
  unfold updateValidDocument
  split
  · apply Protocol.wp_seq
    apply wp_lockReferencedDocuments_only
    intro first started locked
    apply Protocol.wp_seq
    apply Protocol.wp_mono (wp_tryUpdateByReplacement_unique (unique.congr (congrArg documents locked.view)))
    intro result second replaced uniqueSecond
    cases result with
    | some result => exact uniqueSecond
    | none =>
        apply Protocol.wp_seq
        apply (readsOnly_findUpdatableDocument _ _).wp
        intro outcome third found interferes
        have uniqueThird : AliasesUnique found.view := by
          rw [interferes.view]
          exact uniqueSecond
        cases outcome with
        | error result => exact uniqueThird
        | ok documentByUuid => exact wp_deleteAndInsert_unique uniqueThird ⟨rfl, rfl⟩
  · apply Protocol.wp_seq
    apply wp_lockReferencedDocuments_only
    intro first started locked
    apply Protocol.wp_seq
    apply Protocol.wp_mono (wp_tryUpdateByReplacement_unique (unique.congr (congrArg documents locked.view)))
    intro result second replaced uniqueSecond
    cases result with
    | some result => exact uniqueSecond
    | none =>
        apply Protocol.wp_seq
        apply (readsOnly_findUpdatableDocument _ _).wp
        intro outcome third found interferes
        have uniqueThird : AliasesUnique found.view := by
          rw [interferes.view]
          exact uniqueSecond
        cases outcome with
        | error result => exact uniqueThird
        | ok documentByUuid => exact uniqueThird

theorem wp_updateDocument_unique {generated : DocumentUuid} {updateRequest : UpdateRequest}
    (unique : AliasesUnique transaction.view) :
    aliasing.wp mongoDriver (fun _ _ moved => AliasesUnique moved.view)
      (updateDocumentByDocumentUuidTransaction generated updateRequest)
      committed transaction := by
  unfold updateDocumentByDocumentUuidTransaction
  split
  · apply Protocol.wp_seq
    apply (readsOnly_checkForInvalidReferences _).wp
    intro failure following moved interferes
    have uniqueMoved : AliasesUnique moved.view := by
      rw [interferes.view]
      exact unique
    cases failure with
    | some result => exact uniqueMoved
    | none => exact wp_updateValidDocument_unique uniqueMoved
  · exact wp_updateValidDocument_unique unique

end Transactions

section Runs
variable [NodeRuntime]

/-- The repository follows the aliasing protocol. -/
theorem aliasing_sound : aliasing.Sound repository where
  initial := fun _ stored => absurd stored (by simp)
  subset unique _ := unique
  begins unique := unique
  stable unique _ := unique
  commits unique _ aligned settled allowed _ :=
    ⟨trivial, unique.install settled aligned allowed⟩
  correct call := by
    intro committed unique
    have started : AliasesUnique (Transaction.start committed).view := unique
    cases call with
    | upsert generated upsertRequest =>
        apply Protocol.wp_map
        apply Protocol.wp_mono
        · exact wp_upsertDocumentTransaction_unique started fun _ => ⟨rfl, rfl⟩
        · exact fun _ _ _ settled _ => settled
    | update generated updateRequest =>
        apply Protocol.wp_map
        apply Protocol.wp_mono (wp_updateDocument_unique started)
        exact fun _ _ _ settled _ => settled
    | delete deleteRequest =>
        apply Protocol.wp_map
        apply Protocol.wp_mono (wp_deleteDocument_unique started)
        exact fun _ _ _ settled _ => settled

/-- Every run whose writes the protocol allows keeps aliases unique. -/
theorem reachable_aliasesUnique {system : System Record Call Call.Answer RepositoryResult}
    (reached : repository.Reachable aliasing.allows system) :
    AliasesUnique system.committed :=
  (aliasing_sound.reachable reached).invariant

end Runs

section Examples
open Sample

private def subclassUpsert (generated resourceName key : String) (timestamp : Int) :
    RepositoryCall :=
  .upsert (documentUuid generated) (upsertRequest (resource resourceName) key "1" []
    (some (superclass "EducationOrganization" "educationOrganizationId" "1")) timestamp "client")

/-- Two subclasses of one superclass identity are inserted at the same time.
They share no key of any collection. -/
private def concurrentSubclasses : List (Event RepositoryCall) :=
  [.begin (subclassUpsert "000000000001" "School" "schoolId" 1),
    .begin (subclassUpsert "000000000002" "LocalEducationAgency" "localEducationAgencyId" 2)] ++
    List.replicate 8 (.step 0) ++ List.replicate 8 (.step 1) ++ [.commit 0, .commit 0]

theorem shared_superclass_alias :
    ∃ system, (@repository runtime).Reachable (fun _ _ => True) system ∧
      ¬ AliasesUnique system.committed := by
  have broken : ∃ system ∈ (@repository runtime).runEvents System.empty concurrentSubclasses,
      ¬ AliasesUnique system.committed := by decide +kernel
  obtain ⟨system, done, broken⟩ := broken
  exact ⟨system, Service.Reachable.runEvents _ .empty done, broken⟩

/-- A subclass and an unrelated document are inserted at the same time. -/
private def concurrentStrangers : List (Event RepositoryCall) :=
  [.begin (subclassUpsert "000000000001" "School" "schoolId" 1),
    .begin (.upsert (documentUuid "000000000002")
      (upsertRequest (resource "Student") "studentUniqueId" "1" [] none 2 "client"))] ++
    List.replicate 8 (.step 0) ++ List.replicate 7 (.step 1) ++ [.commit 0, .commit 0]

theorem reachable_aliasesUnique_strangers :
    ∃ system, (@repository runtime).Reachable aliasing.allows system ∧
      (documents system.committed).length = 2 ∧ AliasesUnique system.committed := by
  have stored : ∃ system ∈ aliasing.runPermitted (@repository runtime) System.empty
      concurrentStrangers, (documents system.committed).length = 2 := by decide +kernel
  obtain ⟨system, done, stored⟩ := stored
  have reached := Service.Reachable.runPermitted aliasing _ .empty done
  exact ⟨system, reached, stored, @reachable_aliasesUnique runtime system reached⟩

example : AliasesUnique (Database.empty : Store) := by decide +kernel

end Examples
end Meadowlark.Mongo
