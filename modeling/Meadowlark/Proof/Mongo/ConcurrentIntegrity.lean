import Meadowlark.Proof.Mongo.ReferentialIntegrity

namespace Meadowlark.Mongo
open Meadowlark.Core Systems

/-- The call validates references, or checks for them before a delete. -/
def RepositoryCall.Validates : RepositoryCall → Prop
  | .upsert _ upsertRequest => upsertRequest.validateDocumentReferencesExist = true
  | .update _ updateRequest => updateRequest.validateDocumentReferencesExist = true
  | .delete deleteRequest => deleteRequest.validateNoReferencesToDocument = true

abbrev ValidatedCall := { call : RepositoryCall // call.Validates }

section Runs
variable [NodeRuntime]

/-- Concurrent repository calls that all validate references. -/
def validatedRepository :
    Service Record Call Call.Answer DriverError ValidatedCall RepositoryResult where
  driver := mongoDriver
  transaction call := repositoryTransaction call.val
  commits := RepositoryResult.succeeded

theorem wp_validatedUpsert {generated : DocumentUuid} {upsertRequest : UpsertRequest}
    {committed : Store} (resolved : Resolved committed [])
    (validates : upsertRequest.validateDocumentReferencesExist = true) :
    integrity.wp mongoDriver (fun _ following moved => Settled following moved)
      (upsertDocumentTransaction generated upsertRequest none) committed
      (Transaction.start committed) := by
  have settled := Settled.start resolved
  apply wp_upsertDocumentTransaction settled
  intro documentUuid following moved interferes held replaced existingDocument own
  refine ⟨rfl, Writable.interferes ⟨settled, ?_, ?_, ?_, ?_, ?_, ?_⟩ interferes⟩
  · exact fun _ _ => List.not_mem_nil
  · exact .inl own.symm
  · exact replaced
  · exact fun _ _ inside => absurd inside List.not_mem_nil
  · exact fun id referenced => .inr (held validates id referenced)
  · exact List.mem_cons_self

theorem wp_validatedUpdate {generated : DocumentUuid} {updateRequest : UpdateRequest}
    {committed : Store} (resolved : Resolved committed [])
    (validates : updateRequest.validateDocumentReferencesExist = true) :
    integrity.wp mongoDriver (fun _ following moved => Settled following moved)
      (updateDocumentByDocumentUuidTransaction generated updateRequest) committed
      (Transaction.start committed) := by
  have settled := Settled.start resolved
  unfold updateDocumentByDocumentUuidTransaction
  rw [if_pos validates]
  apply Protocol.wp_seq
  apply wp_checkForInvalidReferences settled.selfAliased
  intro failure following moved interferes held
  cases failure with
  | some result => exact settled.interferes interferes
  | none =>
      apply wp_updateValidDocument (settled.interferes interferes)
      · intro id
        rw [interferes.written]
        exact List.not_mem_nil
      · rw [interferes.view]
        exact held rfl

/-- The repository follows the integrity protocol. -/
theorem integrity_sound : integrity.Sound validatedRepository where
  initial := ⟨fun _ stored => absurd stored (by simp), fun _ stored => absurd stored (by simp)⟩
  subset resolved inside := by
    refine ⟨resolved.selfAliased, ?_⟩
    intro document stored id referenced
    obtain ⟨holder, holderStored, held, seen⟩ := resolved.resolves document stored id referenced
    exact ⟨holder, holderStored, held, fun keys old => seen keys (inside old)⟩
  begins resolved := by
    refine ⟨resolved.selfAliased, ?_⟩
    intro document stored id referenced
    obtain ⟨holder, holderStored, held, seen⟩ := resolved.resolves document stored id referenced
    refine ⟨holder, holderStored, held, ?_⟩
    intro keys inside changed
    rcases List.mem_cons.mp inside with rfl | old
    · exact absurd changed List.not_mem_nil
    · exact seen keys old changed
  stable settled kept := settled.interferes (.commit kept (.refl _ _))
  commits resolved active aligned settled _ compatible :=
    ⟨settled.promise aligned compatible, settled.resolved resolved active aligned compatible⟩
  correct call := by
    intro committed resolved
    obtain ⟨call, validates⟩ := call
    cases call with
    | upsert generated upsertRequest =>
        apply Protocol.wp_map
        apply Protocol.wp_mono (wp_validatedUpsert resolved validates)
        exact fun _ _ _ settled _ => settled
    | update generated updateRequest =>
        apply Protocol.wp_map
        apply Protocol.wp_mono (wp_validatedUpdate resolved validates)
        exact fun _ _ _ settled _ => settled
    | delete deleteRequest =>
        apply Protocol.wp_map
        rw [show deleteRequest.validateNoReferencesToDocument = true from validates]
        apply wp_deleteDocumentByMeadowlarkIdTransaction (Settled.start resolved)
        · exact fun _ _ => List.not_mem_nil
        · exact fun _ _ _ _ settled _ => settled
        · exact fun _ _ settled _ _ _ _ _ => settled

/-- Every run whose calls the protocol allows keeps a holder for every outbound reference. -/
theorem reachable_referencesHeld {system : System Record Call Call.Answer RepositoryResult}
    (reached : validatedRepository.Reachable integrity.allows system) :
    ReferencesHeld system.committed :=
  (integrity_sound.reachable reached).invariant.referencesHeld

end Runs

section Examples
open Sample

private def schoolUpsert : ValidatedCall :=
  ⟨.upsert (documentUuid "000000000001")
    (upsertRequest (resource "School") "schoolId" "1" [] none 1 "client"), rfl⟩

private def classPeriodUpsert : ValidatedCall :=
  ⟨.upsert (documentUuid "000000000002")
    (upsertRequest (resource "ClassPeriod") "classPeriodName" "first"
      [reference "School" "schoolId" "1"] none 2 "client"), rfl⟩

private def schoolDelete : ValidatedCall :=
  ⟨.delete (deleteRequest (resource "School") (documentUuid "000000000001") "client"), rfl⟩

private def steps (index count : Nat) : List (Event ValidatedCall) :=
  List.replicate count (.step index)

/-- The class period validates its school, which another call then deletes.
The lock read finds no holder, so the two transactions share no written key. -/
private def dangling : List (Event ValidatedCall) :=
  [.begin schoolUpsert] ++ steps 0 7 ++ [.commit 0] ++
    [.begin classPeriodUpsert] ++ steps 0 3 ++
    [.begin schoolDelete] ++ steps 1 5 ++ [.commit 1] ++
    steps 0 4 ++ [.commit 0]

theorem dangling_reference :
    ∃ system, (@validatedRepository runtime).Reachable (fun _ _ => True) system ∧
      ¬ ReferencesHeld system.committed := by
  have broken : ∃ system ∈ (@validatedRepository runtime).runEvents System.empty dangling,
      ¬ ReferencesHeld system.committed := by decide +kernel
  obtain ⟨system, done, broken⟩ := broken
  exact ⟨system, Service.Reachable.runEvents _ .empty done, broken⟩

/-- The same two calls one after the other resolve the reference. -/
private def ordered : List (Event ValidatedCall) :=
  [.begin schoolUpsert] ++ steps 0 7 ++ [.commit 0] ++
    [.begin classPeriodUpsert] ++ steps 0 7 ++ [.commit 0]

theorem reachable_referencesHeld_ordered :
    ∃ system, (@validatedRepository runtime).Reachable integrity.allows system ∧
      (documents system.committed).length = 2 ∧ ReferencesHeld system.committed := by
  have stored : ∃ system ∈ integrity.runPermitted (@validatedRepository runtime) System.empty
      ordered, (documents system.committed).length = 2 := by decide +kernel
  obtain ⟨system, done, stored⟩ := stored
  have reached := Service.Reachable.runPermitted integrity _ .empty done
  exact ⟨system, reached, stored, @reachable_referencesHeld runtime system reached⟩

end Examples
end Meadowlark.Mongo
