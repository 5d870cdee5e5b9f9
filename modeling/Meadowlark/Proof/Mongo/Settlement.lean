import Meadowlark.Proof.Mongo.ReferenceValidation

namespace Meadowlark.Mongo
open Meadowlark.Core Systems

/-- Every outbound reference of a stored document has a holder. -/
def ReferencesHeld (store : Store) : Prop :=
  ∀ document ∈ documents store, ∀ id ∈ document.outboundRefs, Holds store id

instance (store : Store) : Decidable (ReferencesHeld store) :=
  inferInstanceAs (Decidable (∀ document ∈ documents store, ∀ id ∈ document.outboundRefs, _))

/-- The new form of a document drops no alias that another document of the view references. -/
def KeepsReferenced (view : Store) (existing document : MeadowlarkDocument) : Prop :=
  ∀ id ∈ existing.aliasMeadowlarkIds, id ∉ document.aliasMeadowlarkIds →
    ∀ other ∈ documents view, other.id ≠ existing.id → id ∉ other.outboundRefs

instance (view : Store) (existing document : MeadowlarkDocument) :
    Decidable (KeepsReferenced view existing document) :=
  inferInstanceAs (Decidable (∀ id ∈ existing.aliasMeadowlarkIds, _ →
    ∀ other ∈ documents view, _ → _))

/-- The calls that keep referential integrity safe.
A validation counts the holders of its ids.
A lock read outside the session still finds a holder of every id that the view holds.
A write in place keeps every referenced alias. -/
def IntegrityCall (committed : Store) (transaction : Transaction Record) : Call → Prop
  | .find (.aliasMeadowlarkIds ids) _ _ true => CountsHolders transaction.view ids
  | .find (.aliasMeadowlarkIds ids) _ _ false =>
      ∀ id ∈ ids, Holds transaction.view id → Holds committed id
  | .replaceOne id document =>
      ∀ existing ∈ documents transaction.view, existing.id = id →
        KeepsReferenced transaction.view existing document
  | .updateOne filter document =>
      ∀ existing ∈ findDocument transaction.view filter,
        KeepsReferenced transaction.view existing document
  | _ => True

instance (committed : Store) (transaction : Transaction Record) (call : Call) :
    Decidable (IntegrityCall committed transaction call) := by
  unfold IntegrityCall
  split <;> infer_instance

/-- The uuid keeps a holder of the id, or another commit locked it. -/
def Tracked (committed : Store) (transaction : Transaction Record) (documentUuid : DocumentUuid)
    (id : MeadowlarkId) : Prop :=
  (∃ document ∈ documents committed,
      document.documentUuid = documentUuid ∧ id ∈ document.aliasMeadowlarkIds) ∨
    .concurrency documentUuid ∈ transaction.overwritten

/-- The transaction locked a uuid that holds the id. -/
def Anchored (committed : Store) (transaction : Transaction Record) (id : MeadowlarkId) : Prop :=
  ∃ documentUuid, .concurrency documentUuid ∈ transaction.written ∧
    Tracked committed transaction documentUuid id

/-- Every written document is locked and every reference of it is anchored.
A released alias is unreferenced in the view, unless the transaction cannot commit. -/
structure Settled (committed : Store) (transaction : Transaction Record) : Prop where
  lockedOld : ∀ document ∈ documents transaction.snapshot,
    .document document.id ∈ transaction.written →
      .concurrency document.documentUuid ∈ transaction.written
  lockedNew : ∀ document ∈ documents transaction.view,
    .document document.id ∈ transaction.written →
      .concurrency document.documentUuid ∈ transaction.written
  released : ∀ document ∈ documents transaction.snapshot,
    .document document.id ∈ transaction.written → ∀ id ∈ document.aliasMeadowlarkIds,
      (∃ holder ∈ documents transaction.view,
          .document holder.id ∈ transaction.written ∧ id ∈ holder.aliasMeadowlarkIds) ∨
        (∀ other ∈ documents transaction.view, id ∉ other.outboundRefs) ∨
          .document document.id ∈ transaction.overwritten
  anchored : ∀ document ∈ documents transaction.view,
    .document document.id ∈ transaction.written → ∀ id ∈ document.outboundRefs,
      Anchored committed transaction id
  selfAliased : SelfAliased transaction.view

/-- Committed documents resolve their references in a way that every transaction can see. -/
structure Resolved (committed : Store) (overwritten : List (List RecordKey)) : Prop where
  selfAliased : SelfAliased committed
  resolves : ∀ document ∈ documents committed, ∀ id ∈ document.outboundRefs,
    ∃ holder ∈ documents committed, id ∈ holder.aliasMeadowlarkIds ∧
      ∀ keys ∈ overwritten, .document document.id ∈ keys →
        .concurrency holder.documentUuid ∈ keys

theorem Resolved.referencesHeld {committed : Store} {overwritten : List (List RecordKey)}
    (resolved : Resolved committed overwritten) : ReferencesHeld committed := by
  intro document stored id inside
  obtain ⟨holder, holderStored, held, -⟩ := resolved.resolves document stored id inside
  exact ⟨holder, holderStored, held⟩

/-- Referential integrity as a protocol of the transactions. -/
def integrity : Protocol Record Call where
  allowsCall := IntegrityCall
  allowsCommit _ _ := True
  promise committed written following := ∀ document ∈ documents committed,
    document ∈ documents following ∨ .concurrency document.documentUuid ∈ written
  invariant := Resolved
  settled := Settled

instance (committed : Store) (transaction : Transaction Record) (call : Call) :
    Decidable (integrity.allowsCall committed transaction call) :=
  inferInstanceAs (Decidable (IntegrityCall committed transaction call))

instance (committed : Store) (transaction : Transaction Record) :
    Decidable (integrity.allowsCommit committed transaction) :=
  inferInstanceAs (Decidable True)

section Stability
variable {committed following : Store} {transaction moved : Transaction Record}

/-- The later state of a transaction keeps its locks and the locks of the others. -/
structure Later (committed : Store) (transaction : Transaction Record) (following : Store)
    (moved : Transaction Record) : Prop where
  snapshot : moved.snapshot = transaction.snapshot
  written : transaction.written ⊆ moved.written
  overwritten : transaction.overwritten ⊆ moved.overwritten
  kept : ∀ document ∈ documents committed, document ∈ documents following ∨
    .concurrency document.documentUuid ∈ moved.overwritten

theorem Later.refl (committed : Store) (transaction : Transaction Record) :
    Later committed transaction committed transaction :=
  ⟨rfl, fun _ inside => inside, fun _ inside => inside, fun _ stored => .inl stored⟩

theorem Later.trans {last : Store} {final : Transaction Record}
    (first : Later committed transaction following moved)
    (second : Later following moved last final) : Later committed transaction last final where
  snapshot := second.snapshot.trans first.snapshot
  written := fun _ inside => second.written (first.written inside)
  overwritten := fun _ inside => second.overwritten (first.overwritten inside)
  kept document stored := by
    rcases first.kept document stored with here | gone
    · exact second.kept document here
    · exact .inr (second.overwritten gone)

theorem Later.advance (committed : Store) (transaction : Transaction Record) (view : Store)
    (written : List RecordKey) :
    Later committed transaction committed (transaction.advance view written) :=
  ⟨rfl, List.subset_append_right _ _, fun _ inside => inside, fun _ stored => .inl stored⟩

theorem Later.of_interferes
    (interferes : integrity.Interferes committed transaction following moved) :
    Later committed transaction following moved := by
  induction interferes with
  | refl committed transaction => exact .refl committed transaction
  | @commit committed middle following transaction last written kept rest ih =>
      have first : Later committed transaction middle (transaction.expose written) := by
        refine ⟨rfl, fun _ inside => inside, List.subset_append_right _ _, ?_⟩
        intro document stored
        rcases kept document stored with here | gone
        · exact .inl here
        · exact .inr (List.mem_append_left _ gone)
      exact first.trans ih

theorem Tracked.later {documentUuid : DocumentUuid} {id : MeadowlarkId}
    (tracked : Tracked committed transaction documentUuid id)
    (later : Later committed transaction following moved) :
    Tracked following moved documentUuid id := by
  rcases tracked with ⟨document, stored, same, held⟩ | gone
  · rcases later.kept document stored with here | gone
    · exact .inl ⟨document, here, same, held⟩
    · exact .inr (same ▸ gone)
  · exact .inr (later.overwritten gone)

theorem Anchored.later {id : MeadowlarkId} (anchored : Anchored committed transaction id)
    (later : Later committed transaction following moved) : Anchored following moved id := by
  obtain ⟨documentUuid, locked, tracked⟩ := anchored
  exact ⟨documentUuid, later.written locked, tracked.later later⟩

/-- Locks and other commits keep a settled transaction settled. -/
theorem Settled.later (settled : Settled committed transaction)
    (later : Later committed transaction following moved)
    (view : documents moved.view = documents transaction.view)
    (written : ∀ id, .document id ∈ moved.written ↔ .document id ∈ transaction.written) :
    Settled following moved where
  lockedOld document stored inside :=
    later.written (settled.lockedOld document (later.snapshot ▸ stored) ((written _).mp inside))
  lockedNew document stored inside :=
    later.written (settled.lockedNew document (view ▸ stored) ((written _).mp inside))
  released document stored inside id held := by
    rw [view]
    rcases settled.released document (later.snapshot ▸ stored) ((written _).mp inside) id held with
      ⟨holder, holderStored, holderWritten, holderHeld⟩ | unreferenced | gone
    · exact .inl ⟨holder, holderStored, (written _).mpr holderWritten, holderHeld⟩
    · exact .inr (.inl unreferenced)
    · exact .inr (.inr (later.overwritten gone))
  anchored document stored inside id referenced :=
    (settled.anchored document (view ▸ stored) ((written _).mp inside) id referenced).later later
  selfAliased document stored := settled.selfAliased document (view ▸ stored)

theorem Settled.interferes (settled : Settled committed transaction)
    (interferes : integrity.Interferes committed transaction following moved) :
    Settled following moved := by
  refine settled.later (.of_interferes interferes) ?_ ?_
  · rw [interferes.view]
  · intro id
    rw [interferes.written]

theorem Settled.start {overwritten : List (List RecordKey)}
    (resolved : Resolved committed overwritten) :
    Settled committed (Transaction.start committed) where
  lockedOld _ _ inside := absurd inside List.not_mem_nil
  lockedNew _ _ inside := absurd inside List.not_mem_nil
  released _ _ inside := absurd inside List.not_mem_nil
  anchored _ _ inside := absurd inside List.not_mem_nil
  selfAliased := resolved.selfAliased

end Stability

section Writes
variable {committed : Store} {transaction : Transaction Record}

/-- No document of the view was written by the transaction. -/
def Unwritten (transaction : Transaction Record) : Prop :=
  ∀ document ∈ documents transaction.view, .document document.id ∉ transaction.written

theorem Unwritten.snapshot_iff (unwritten : Unwritten transaction)
    (aligned : transaction.Aligned committed) {document : MeadowlarkDocument}
    (stored : document ∈ documents transaction.view) :
    document ∈ documents transaction.snapshot := by
  rw [mem_documents] at stored ⊢
  exact (aligned.view_iff _ (unwritten document ((mem_documents _ _).mpr stored))).mp stored

/-- The delete of an unreferenced and locked document keeps the transaction settled. -/
theorem Settled.erase (settled : Settled committed transaction)
    (aligned : transaction.Aligned committed) (unwritten : Unwritten transaction)
    {existing : MeadowlarkDocument} (stored : existing ∈ documents transaction.view)
    (locked : .concurrency existing.documentUuid ∈ transaction.written)
    (unreferenced : ∀ id ∈ existing.aliasMeadowlarkIds,
      ∀ other ∈ documents transaction.view, id ∉ other.outboundRefs) :
    Settled committed (transaction.advance (transaction.view.erase [.document existing.id])
      [.document existing.id]) ∧
    Unwritten (transaction.advance (transaction.view.erase [.document existing.id])
      [.document existing.id]) := by
  have clean : Unwritten (transaction.advance (transaction.view.erase [.document existing.id])
      [.document existing.id]) := by
    intro document inside
    simp only [Transaction.advance_view, mem_documents_erase] at inside
    simpa [inside.2] using unwritten document inside.1
  refine ⟨⟨?_, ?_, ?_, ?_, ?_⟩, clean⟩
  · intro document inSnapshot inside
    simp only [Transaction.advance_written, List.singleton_append, List.mem_cons,
      RecordKey.document.injEq] at inside ⊢
    rcases inside with same | before
    · have equal := documents_eq_of_id inSnapshot (unwritten.snapshot_iff aligned stored) same
      exact .inr (equal ▸ locked)
    · exact .inr (settled.lockedOld document inSnapshot before)
  · exact fun document inView inside => absurd inside (clean document inView)
  · intro document inSnapshot inside id held
    simp only [Transaction.advance_written, List.singleton_append, List.mem_cons,
      RecordKey.document.injEq] at inside
    refine .inr ?_
    rcases inside with same | before
    · have equal := documents_eq_of_id inSnapshot (unwritten.snapshot_iff aligned stored) same
      refine .inl fun other otherStored => ?_
      exact unreferenced id (equal ▸ held) other ((mem_documents_erase _ _ _).mp otherStored).1
    · rcases settled.released document inSnapshot before id held with
        ⟨holder, holderStored, holderWritten, -⟩ | free | gone
      · exact absurd holderWritten (unwritten holder holderStored)
      · exact .inl fun other otherStored =>
          free other ((mem_documents_erase _ _ _).mp otherStored).1
      · exact .inr gone
  · exact fun document inView inside => absurd inside (clean document inView)
  · exact fun document inView =>
      settled.selfAliased document ((mem_documents_erase _ _ _).mp inView).1

/-- The write of one locked and anchored document keeps the transaction settled. -/
theorem Settled.put (settled : Settled committed transaction)
    (aligned : transaction.Aligned committed) (unwritten : Unwritten transaction)
    {document : MeadowlarkDocument}
    (locked : .concurrency document.documentUuid ∈ transaction.written)
    (lockedOld : ∀ existing ∈ documents transaction.view, existing.id = document.id →
      .concurrency existing.documentUuid ∈ transaction.written)
    (keeps : ∀ existing ∈ documents transaction.view, existing.id = document.id →
      KeepsReferenced transaction.view existing document)
    (apart : ∀ existing ∈ documents transaction.snapshot,
      .document existing.id ∈ transaction.written ∨ existing.id = document.id →
        .document existing.id ∈ transaction.overwritten ∨
          ∀ id ∈ document.outboundRefs, id ∉ existing.aliasMeadowlarkIds)
    (anchored : ∀ id ∈ document.outboundRefs, Anchored committed transaction id)
    (selfAliased : document.id ∈ document.aliasMeadowlarkIds) :
    Settled committed (transaction.advance (transaction.view.put (.document document))
      [.document document.id]) := by
  have later := Later.advance committed transaction
    (transaction.view.put (.document document)) [.document document.id]
  have newest : ∀ other ∈ documents (transaction.view.put (.document document)),
      RecordKey.document other.id ∈ [.document document.id] ++ transaction.written →
        other = document := by
    intro other inView inside
    rcases (mem_documents_put _ _ _).mp inView with ⟨old, different⟩ | same
    · simp only [List.singleton_append, List.mem_cons, RecordKey.document.injEq, different,
        false_or] at inside
      exact absurd inside (unwritten other old)
    · exact same
  have fresh : document ∈ documents (transaction.view.put (.document document)) :=
    (mem_documents_put _ _ _).mpr (.inr rfl)
  refine ⟨?_, ?_, ?_, ?_, ?_⟩
  · intro existing inSnapshot inside
    by_cases before : .document existing.id ∈ transaction.written
    · exact later.written (settled.lockedOld existing inSnapshot before)
    · have same : existing.id = document.id := by simpa [before] using inside
      have inView : existing ∈ documents transaction.view := by
        rw [mem_documents] at inSnapshot ⊢
        exact (aligned.view_iff _ before).mpr inSnapshot
      exact later.written (lockedOld existing inView same)
  · intro other inView inside
    rw [newest other inView inside]
    exact later.written locked
  · intro existing inSnapshot inside id held
    by_cases kept : id ∈ document.aliasMeadowlarkIds
    · exact .inl ⟨document, fresh, by simp, kept⟩
    · refine .inr ?_
      have touched : .document existing.id ∈ transaction.written ∨ existing.id = document.id := by
        simpa [or_comm] using inside
      rcases apart existing inSnapshot touched with gone | free
      · exact .inr gone
      · have self : id ∉ document.outboundRefs := fun referenced => free id referenced held
        by_cases before : .document existing.id ∈ transaction.written
        · rcases settled.released existing inSnapshot before id held with
            ⟨holder, holderStored, holderWritten, -⟩ | unreferenced | gone
          · exact absurd holderWritten (unwritten holder holderStored)
          · refine .inl fun other otherStored => ?_
            rcases (mem_documents_put _ _ _).mp otherStored with ⟨old, -⟩ | rfl
            · exact unreferenced other old
            · exact self
          · exact .inr gone
        · have same : existing.id = document.id := touched.resolve_left before
          have inView : existing ∈ documents transaction.view := by
            rw [mem_documents] at inSnapshot ⊢
            exact (aligned.view_iff _ before).mpr inSnapshot
          refine .inl fun other otherStored => ?_
          rcases (mem_documents_put _ _ _).mp otherStored with ⟨old, different⟩ | rfl
          · exact keeps existing inView same id held kept other old (same ▸ different)
          · exact self
  · intro other inView inside id referenced
    obtain rfl := newest other inView inside
    exact (anchored id referenced).later later
  · intro other inView
    rcases (mem_documents_put _ _ _).mp inView with ⟨old, -⟩ | rfl
    · exact settled.selfAliased other old
    · exact selfAliased

end Writes

section Commits
variable {committed : Store} {transaction : Transaction Record}

theorem snapshot_of_compatible (aligned : transaction.Aligned committed)
    (compatible : transaction.Compatible) {document : MeadowlarkDocument}
    (stored : document ∈ documents committed)
    (written : .document document.id ∈ transaction.written) :
    document ∈ documents transaction.snapshot := by
  rw [mem_documents] at stored ⊢
  exact (aligned.committed_iff _ (compatible _ written)).mp stored

theorem Settled.promise (settled : Settled committed transaction)
    (aligned : transaction.Aligned committed) (compatible : transaction.Compatible) :
    integrity.promise committed transaction.written
      (committed.install transaction.view transaction.written) := by
  intro document stored
  by_cases written : .document document.id ∈ transaction.written
  · exact .inr (settled.lockedOld document
      (snapshot_of_compatible aligned compatible stored written) written)
  · exact .inl ((mem_documents_install _ _ _ _).mpr (.inl ⟨stored, written⟩))

/-- A settled commit gives every reference a holder that the other transactions can see. -/
theorem Settled.resolved {overwritten : List (List RecordKey)}
    (settled : Settled committed transaction) (resolved : Resolved committed overwritten)
    (active : transaction.overwritten ∈ overwritten) (aligned : transaction.Aligned committed)
    (compatible : transaction.Compatible) :
    Resolved (committed.install transaction.view transaction.written)
      (overwritten.map (transaction.written ++ ·)) := by
  have kept : ∀ holder ∈ documents committed, .document holder.id ∉ transaction.written →
      holder ∈ documents (committed.install transaction.view transaction.written) :=
    fun holder stored outside => (mem_documents_install _ _ _ _).mpr (.inl ⟨stored, outside⟩)
  have added : ∀ holder ∈ documents transaction.view,
      .document holder.id ∈ transaction.written →
        holder ∈ documents (committed.install transaction.view transaction.written) :=
    fun holder stored inside => (mem_documents_install _ _ _ _).mpr (.inr ⟨stored, inside⟩)
  have visible : ∀ documentUuid, .concurrency documentUuid ∈ transaction.written →
      ∀ keys ∈ overwritten.map (transaction.written ++ ·), .concurrency documentUuid ∈ keys := by
    intro documentUuid locked keys inside
    obtain ⟨old, -, rfl⟩ := List.mem_map.mp inside
    exact List.mem_append_left _ locked
  refine ⟨?_, ?_⟩
  · intro document stored
    rcases (mem_documents_install _ _ _ _).mp stored with ⟨old, -⟩ | ⟨new, -⟩
    · exact resolved.selfAliased document old
    · exact settled.selfAliased document new
  intro document stored id referenced
  rcases (mem_documents_install _ _ _ _).mp stored with ⟨old, outside⟩ | ⟨new, inside⟩
  · obtain ⟨holder, holderStored, held, seen⟩ := resolved.resolves document old id referenced
    by_cases touched : .document holder.id ∈ transaction.written
    · have inSnapshot := snapshot_of_compatible aligned compatible holderStored touched
      rcases settled.released holder inSnapshot touched id held with
        ⟨other, otherStored, otherWritten, otherHeld⟩ | unreferenced | gone
      · exact ⟨other, added other otherStored otherWritten, otherHeld, fun keys inside _ =>
          visible _ (settled.lockedNew other otherStored otherWritten) keys inside⟩
      · have changed : .document document.id ∈ transaction.overwritten := by
          by_contra same
          have inView : document ∈ documents transaction.view := by
            rw [mem_documents] at old ⊢
            exact (aligned.view_iff _ outside).mpr ((aligned.committed_iff _ same).mp old)
          exact unreferenced document inView referenced
        have locked := settled.lockedOld holder inSnapshot touched
        exact absurd (seen _ active changed) (compatible _ locked)
      · exact absurd gone (compatible _ touched)
    · refine ⟨holder, kept holder holderStored touched, held, ?_⟩
      intro keys inside changed
      obtain ⟨before, beforeInside, rfl⟩ := List.mem_map.mp inside
      rcases List.mem_append.mp changed with now | earlier
      · exact absurd now outside
      · exact List.mem_append_right _ (seen before beforeInside earlier)
  · obtain ⟨documentUuid, locked, tracked⟩ := settled.anchored document new inside id referenced
    obtain ⟨holder, holderStored, rfl, held⟩ := tracked.resolve_right (compatible _ locked)
    by_cases touched : .document holder.id ∈ transaction.written
    · have inSnapshot := snapshot_of_compatible aligned compatible holderStored touched
      rcases settled.released holder inSnapshot touched id held with
        ⟨other, otherStored, otherWritten, otherHeld⟩ | unreferenced | gone
      · exact ⟨other, added other otherStored otherWritten, otherHeld, fun keys inside _ =>
          visible _ (settled.lockedNew other otherStored otherWritten) keys inside⟩
      · exact absurd referenced (unreferenced document new)
      · exact absurd gone (compatible _ touched)
    · exact ⟨holder, kept holder holderStored touched, held, fun keys inside _ =>
        visible _ locked keys inside⟩

end Commits
end Meadowlark.Mongo
