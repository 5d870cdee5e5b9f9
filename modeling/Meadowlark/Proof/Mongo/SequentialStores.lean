import Meadowlark.Proof.Mongo.AllOrNothing
import Meadowlark.Proof.Mongo.Creators
import Meadowlark.Proof.Mongo.UpdateFrame
import Meadowlark.Proof.Mongo.ReferenceValidation

namespace Meadowlark.Mongo
open Meadowlark.Core Systems

/-- What every sequential run keeps when the generated uuids are new. -/
structure Orderly (store : Store) : Prop where
  unlocked : Unlocked store
  uuidsUnique : UuidsUnique store
  selfAliased : SelfAliased store

theorem orderly_empty : Orderly Database.empty where
  unlocked _ := List.not_mem_nil
  uuidsUnique _ inside := absurd inside List.not_mem_nil
  selfAliased _ inside := absurd inside List.not_mem_nil

variable {store : Store} {document existing : MeadowlarkDocument}

/-- A document with a uuid of its own takes its place. -/
theorem Orderly.put (orderly : Orderly store) (aliased : document.id ∈ document.aliasMeadowlarkIds)
    (apart : ∀ other ∈ documents store, other.documentUuid = document.documentUuid →
      other.id = document.id) : Orderly (store.put (.document document)) where
  unlocked documentUuid inside := by
    rcases (Database.mem_put _ _ _).mp inside with ⟨old, -⟩ | new
    · exact orderly.unlocked documentUuid old
    · cases new
  uuidsUnique first firstStored second secondStored same := by
    rcases (mem_documents_put _ _ _).mp firstStored with ⟨firstOld, firstOther⟩ | rfl
    · rcases (mem_documents_put _ _ _).mp secondStored with ⟨secondOld, -⟩ | rfl
      · exact orderly.uuidsUnique first firstOld second secondOld same
      · exact absurd (apart first firstOld same) firstOther
    · rcases (mem_documents_put _ _ _).mp secondStored with ⟨secondOld, secondOther⟩ | rfl
      · exact absurd (apart second secondOld same.symm) secondOther
      · rfl
  selfAliased other inside := by
    rcases (mem_documents_put _ _ _).mp inside with ⟨old, -⟩ | rfl
    · exact orderly.selfAliased other old
    · exact aliased

theorem Orderly.without (orderly : Orderly store) (dropped : MeadowlarkDocument) :
    Orderly (withoutDocument store dropped) where
  unlocked documentUuid inside :=
    orderly.unlocked documentUuid ((Database.mem_erase _ _ _).mp inside).1
  uuidsUnique first firstStored second secondStored same :=
    orderly.uuidsUnique first ((mem_documents_erase _ _ _).mp firstStored).1 second
      ((mem_documents_erase _ _ _).mp secondStored).1 same
  selfAliased other inside :=
    orderly.selfAliased other ((mem_documents_erase _ _ _).mp inside).1

section Calls
variable [NodeRuntime]

/-- One call whose generated uuids are new. -/
theorem Orderly.call {call : SequentialCall} (orderly : Orderly store)
    (fresh : FreshUuids store call) : Orderly (call.perform store).2 := by
  have effect := perform_effect store call
  generalize (call.perform store).1 = result at effect
  generalize (call.perform store).2 = following at effect ⊢
  cases effect with
  | inserted inside absent accepted =>
      apply orderly.put List.mem_cons_self
      intro other stored same
      exact absurd same (fresh _ inside other stored)
  | overwritten found accepted =>
      apply orderly.put List.mem_cons_self
      intro other stored same
      obtain ⟨existingStored, sameId⟩ := findDocument_id found
      rw [orderly.uuidsUnique other stored _ existingStored same]
      exact sameId
  | @replaced generated updateRequest existing admitted found =>
      obtain ⟨existingStored, sameId, -⟩ := replaceable_some found
      apply orderly.put
      · change MeadowlarkDocument.id _ ∈ updateRequest.meadowlarkId :: _
        rw [show (setFields existing (documentFromUpdateRequest updateRequest)).id =
          updateRequest.meadowlarkId from sameId]
        exact List.mem_cons_self
      · intro other stored same
        rw [orderly.uuidsUnique other stored _ existingStored same]
        rfl
  | moved inside admitted moves =>
      obtain ⟨existingStored, sameUuid⟩ := findDocument_documentUuid moves.deletable.found
      apply (orderly.without _).put List.mem_cons_self
      intro other stored same
      obtain ⟨old, different⟩ := (mem_documents_erase _ _ _).mp stored
      have identical := orderly.uuidsUnique other old _ existingStored (same.trans sameUuid.symm)
      exact absurd (congrArg MeadowlarkDocument.id identical) different
  | deleted accepted => exact orderly.without _
  | failed unsuccessful => exact orderly

omit [NodeRuntime] in
/-- The call checks that references exist, or that no reference remains. -/
def SequentialCall.validates : SequentialCall → Bool
  | .upsert _ upsertRequest => upsertRequest.validateDocumentReferencesExist
  | .update _ updateRequest => updateRequest.validateDocumentReferencesExist
  | .delete _ deleteRequest => deleteRequest.validateNoReferencesToDocument

/-- A run with stricter calls is a run with freer ones. -/
theorem Observed.imp {Observation : Type} {allowed freer : Store → SequentialCall → Prop}
    {observe : Observation → SequentialCall → Except DriverError RepositoryResult → Observation}
    {initial observation : Observation}
    (weaker : ∀ store call, allowed store call → freer store call)
    (observed : Observed allowed observe initial store observation) :
    Observed freer observe initial store observation := by
  induction observed with
  | empty => exact .empty
  | call observed permitted inductionHypothesis =>
      exact .call inductionHypothesis (weaker _ _ permitted)

/-- Every store that a sequential run reaches is orderly. -/
theorem observed_orderly {Observation : Type} {allowed : Store → SequentialCall → Prop}
    {observe : Observation → SequentialCall → Except DriverError RepositoryResult → Observation}
    {initial observation : Observation}
    (fresh : ∀ store call, allowed store call → FreshUuids store call)
    (observed : Observed allowed observe initial store observation) : Orderly store := by
  induction observed with
  | empty => exact orderly_empty
  | call observed permitted inductionHypothesis =>
      exact inductionHypothesis.call (fresh _ _ permitted)

end Calls
end Meadowlark.Mongo
