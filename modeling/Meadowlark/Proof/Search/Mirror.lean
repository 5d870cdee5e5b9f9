import Meadowlark.Construction.Search.UpdateDocuments
import Meadowlark.Proof.Core.Listeners
import Meadowlark.Systems.Mirrors

namespace Meadowlark.Search
open Meadowlark.Core Systems
variable [NodeRuntime] {Contents : Type}

/-- The requests of the client reach the engine.
A document that is deleted is absent afterwards, and it may have been absent before. -/
structure Client.Reaches (client : Client Contents) (view : Contents → EngineContents) : Prop where
  indexed (request : EngineRequest) (body : Json) (contents : Contents) :
    view (client.index request body contents).2 =
      Function.update (view contents) request (some body)
  deleted (request : EngineRequest) (contents : Contents) :
    view (client.delete request contents).2 = Function.update (view contents) request none

omit [NodeRuntime] in
theorem engineClient_reaches : engineClient.Reaches id where
  indexed _ _ _ := rfl
  deleted request contents := by
    unfold engineClient
    dsimp only [id]
    cases stored : contents request with
    | some body => rfl
    | none => exact (Function.update_eq_self_iff.mpr stored.symm).symm

/-- Every deposit is kept as one document, in the index of its resource. -/
def Indexed (deposits : Deposits) (contents : EngineContents) : Prop :=
  Mirrors (fun request : UpsertRequest => indexFromResourceInfo request.resourceInfo)
    (fun documentUuid request => bodyFrom request documentUuid) deposits
    fun index id => contents ⟨index, id⟩

theorem indexed_empty : Indexed (fun _ => none) fun _ => none := fun _ _ => rfl

/-- The uuid has been used for no other index than the one of this resource. -/
def KeepsIndex (deposits : Deposits) (documentUuid : DocumentUuid) (resourceInfo : ResourceInfo) :
    Prop :=
  ∀ deposit, deposits documentUuid = some deposit →
    indexFromResourceInfo deposit.resourceInfo = indexFromResourceInfo resourceInfo

instance (deposits : Deposits) (documentUuid : DocumentUuid) (resourceInfo : ResourceInfo) :
    Decidable (KeepsIndex deposits documentUuid resourceInfo) :=
  inferInstanceAs (Decidable (∀ deposit ∈ deposits documentUuid, _))

/-- The event names the resource under which its document has been written before. -/
def NamesIndex (deposits : Deposits) : ListenerEvent → Prop
  | .afterUpsertDocument request (.insertSuccess newDocumentUuid) =>
      KeepsIndex deposits newDocumentUuid request.resourceInfo
  | .afterUpsertDocument request (.updateSuccess existingDocumentUuid) =>
      KeepsIndex deposits existingDocumentUuid request.resourceInfo
  | .afterUpdateDocumentById request .updateSuccess =>
      KeepsIndex deposits request.documentUuid request.resourceInfo
  | .afterDeleteDocumentById request .deleteSuccess =>
      KeepsIndex deposits request.documentUuid request.resourceInfo
  | _ => True

variable {client : Client Contents} {view : Contents → EngineContents} {deposits : Deposits}
  {contents : Contents}

omit [NodeRuntime] in
theorem setRow_update (entries : EngineContents) (request : EngineRequest) (entry : Option Json) :
    (fun index id => Function.update entries request entry ⟨index, id⟩) =
      setRow (fun index id => entries ⟨index, id⟩) request.index request.id entry := by
  funext index id
  obtain ⟨given, documentUuid⟩ := request
  simp only [setRow, Function.update_apply, EngineRequest.mk.injEq]

omit [NodeRuntime] in
/-- The handler of the errors drops them. -/
theorem handled_contents (outcome : Except Exception Unit × Contents) :
    handled outcome = (.ok (), outcome.2) := by
  obtain ⟨answer, following⟩ := outcome
  cases answer <;> rfl

/-- An indexed document replaces the earlier one when that is in the same index. -/
theorem indexed_upsertToEngine_iff (reaches : client.Reaches view)
    (indexed : Indexed deposits (view contents)) (request : UpsertRequest)
    (documentUuid : DocumentUuid) :
    Indexed (Function.update deposits documentUuid (some request))
        (view (upsertToEngine client request documentUuid contents).2) ↔
      KeepsIndex deposits documentUuid request.resourceInfo := by
  unfold upsertToEngine
  rw [handled_contents, reaches.indexed]
  unfold Indexed
  rw [setRow_update]
  apply mirrors_set_iff indexed
  rintro value ⟨⟩
  rfl

theorem indexed_delete_iff (reaches : client.Reaches view)
    (indexed : Indexed deposits (view contents)) (resourceInfo : ResourceInfo)
    (documentUuid : DocumentUuid) :
    Indexed (Function.update deposits documentUuid none)
        (view (handled (client.delete (engineRequestFrom resourceInfo documentUuid) contents)).2) ↔
      KeepsIndex deposits documentUuid resourceInfo := by
  rw [handled_contents, reaches.deleted]
  unfold Indexed
  rw [setRow_update]
  exact mirrors_set_iff indexed nofun

/-- After an event the engine holds the deposits exactly when the event names their index. -/
theorem indexed_hear_iff (reaches : client.Reaches view)
    (indexed : Indexed deposits (view contents)) (event : ListenerEvent) :
    Indexed (deposits.after event) (view ((listener client).hear event contents).2) ↔
      NamesIndex deposits event := by
  have unchanged : Indexed deposits (view contents) ↔ True := iff_true_intro indexed
  cases event with
  | afterUpsertDocument request result =>
      cases result with
      | insertSuccess newDocumentUuid => exact indexed_upsertToEngine_iff reaches indexed _ _
      | updateSuccess existingDocumentUuid => exact indexed_upsertToEngine_iff reaches indexed _ _
      | _ => exact unchanged
  | afterUpdateDocumentById request result =>
      cases result with
      | updateSuccess => exact indexed_upsertToEngine_iff reaches indexed request.toUpsertRequest _
      | _ => exact unchanged
  | afterDeleteDocumentById request result =>
      cases result with
      | deleteSuccess => exact indexed_delete_iff reaches indexed _ _
      | _ => exact unchanged
  | _ => exact unchanged

/-- The engine hears nothing but the reports of writes. -/
theorem listener_hearsReports : (listener client).HearsReports := by
  intro event contents unreported
  cases event <;> first | rfl | cases unreported

/-- The report of a write names the index of its document. -/
def TellsIndex (deposits : Deposits) (report : Option ListenerEvent) : Prop :=
  ∀ event, report = some event → NamesIndex deposits event

/-- The engine keeps up with the deposits. -/
theorem indexed_told (reaches : client.Reaches view) (report : Option ListenerEvent)
    (deposits : Deposits) (contents : Contents) (indexed : Indexed deposits (view contents))
    (tells : TellsIndex deposits report) :
    Indexed (depositsListener.told report deposits)
      (view ((listener client).told report contents)) := by
  cases report with
  | none => exact indexed
  | some event => exact (indexed_hear_iff reaches indexed event).mpr (tells event rfl)

end Meadowlark.Search
