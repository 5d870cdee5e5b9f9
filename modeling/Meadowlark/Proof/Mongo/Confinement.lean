import Meadowlark.Proof.Core.Confinement
import Meadowlark.Proof.Mongo.Requests

namespace Meadowlark.Mongo
open Meadowlark.Core Systems
variable [NodeRuntime] {store : Store}

section Resources

/-- A document is stored under the uuid, with this project and resource. -/
def Tagged (store : Store) (documentUuid : DocumentUuid) (resource : String × String) : Prop :=
  ∃ document ∈ documents store, document.documentUuid = documentUuid ∧
    (document.projectName, document.resourceName) = resource

instance (store : Store) (documentUuid : DocumentUuid) (resource : String × String) :
    Decidable (Tagged store documentUuid resource) :=
  inferInstanceAs (Decidable (∃ document ∈ documents store, _))

/-- An accepted write over a stored document carries its resource. -/
def KeepsResource (store : Store) (write : WriteRequest) : Prop :=
  WriteAccepted store write →
    match write with
    | .upsert request => ∀ existing ∈ documents store, existing.id = request.meadowlarkId →
        (storedDocument existing).BelongsTo request.resourceInfo
    | .update request => ∀ existing ∈ documents store,
        existing.documentUuid = request.documentUuid →
          (storedDocument existing).BelongsTo request.resourceInfo
    | .delete _ => True

omit [NodeRuntime] in
/-- A document that takes the uuid and the resource of a stored one adds no tag. -/
theorem tagged_put {base : Store} {existing written : MeadowlarkDocument}
    {documentUuid : DocumentUuid} {resource : String × String}
    (tagged : Tagged (base.put (.document written)) documentUuid resource)
    (within : ∀ document ∈ documents base, document ∈ documents store)
    (stored : existing ∈ documents store) (same : existing.documentUuid = written.documentUuid)
    (project : existing.projectName = written.projectName)
    (named : existing.resourceName = written.resourceName) : Tagged store documentUuid resource := by
  obtain ⟨document, inside, rfl, rfl⟩ := tagged
  rcases (mem_documents_put _ _ _).mp inside with ⟨old, -⟩ | rfl
  · exact ⟨document, within document old, rfl, rfl⟩
  · exact ⟨existing, stored, same, Prod.ext project named⟩

/-- A write tags at most the uuid that it generates. -/
theorem written_tagged (generated : GeneratedUuids) {write : WriteRequest}
    (keeps : KeepsResource store write) :
    ∃ newTag, ∀ documentUuid resource,
      Tagged (write.contents (documentStore generated) store) documentUuid resource →
        Tagged store documentUuid resource ∨
          ((documentUuid, resource) = newTag ∧ documentUuid ∈ generated.all) := by
  by_cases succeeds : write.Succeeds (documentStore generated) store
  · have belongs := keeps (writeAccepted_iff.mp ⟨generated, succeeds⟩)
    have effect := perform_effect store (callOf generated write)
    rw [contents_callOf]
    generalize ((callOf generated write).perform store).2 = following at effect
    generalize ((callOf generated write).perform store).1 = result at effect
    have unchanged (same : following = store) : ∃ newTag, ∀ documentUuid resource,
        Tagged following documentUuid resource → Tagged store documentUuid resource ∨
          ((documentUuid, resource) = newTag ∧ documentUuid ∈ generated.all) := by
      rw [same]
      exact ⟨(⟨""⟩, "", ""), fun _ _ tagged => .inl tagged⟩
    cases write with
    | upsert request =>
        dsimp only at belongs
        change CallEffect store (.upsert generated request) _ _ at effect
        cases effect with
        | @inserted _ _ documentUuid inside absent accepted =>
            refine ⟨(documentUuid, request.resourceInfo.projectName,
              request.resourceInfo.resourceName), ?_⟩
            rintro _ _ ⟨document, stored, rfl, rfl⟩
            rcases (mem_documents_put _ _ _).mp stored with ⟨old, -⟩ | rfl
            · exact .inl ⟨document, old, rfl, rfl⟩
            · exact .inr ⟨rfl, inside⟩
        | @overwritten _ _ existing found accepted =>
            obtain ⟨stored, named⟩ := findDocument_id found
            obtain ⟨project, resource⟩ := belongs existing stored named
            refine ⟨(⟨""⟩, "", ""), fun documentUuid tag tagged => .inl ?_⟩
            exact tagged_put tagged (fun _ inside => inside) stored rfl project resource
        | failed unsuccessful => exact unchanged rfl
    | update request =>
        dsimp only at belongs
        change CallEffect store (.update generated request) _ _ at effect
        cases effect with
        | @replaced _ _ existing admitted found =>
            obtain ⟨stored, matched⟩ := findDocument_some found
            have named : existing.documentUuid = request.documentUuid := by
              simp only [Filter.matches, decide_eq_true_eq] at matched
              exact matched.2.1
            obtain ⟨project, resource⟩ := belongs existing stored named
            refine ⟨(⟨""⟩, "", ""), fun documentUuid tag tagged => .inl ?_⟩
            exact tagged_put tagged (fun _ inside => inside) stored rfl project resource
        | @moved _ _ documentUuid existing inside admitted moves =>
            obtain ⟨stored, matched⟩ := findDocument_some moves.deletable.found
            have named : existing.documentUuid = request.documentUuid := by
              simpa [Filter.matches] using matched
            obtain ⟨project, resource⟩ := belongs existing stored named
            refine ⟨(⟨""⟩, "", ""), fun documentUuid tag tagged => .inl ?_⟩
            exact tagged_put tagged (fun _ inside => ((mem_documents_erase _ _ _).mp inside).1)
              stored named project resource
        | failed unsuccessful => exact unchanged rfl
    | delete request =>
        change CallEffect store (.delete generated request) _ _ at effect
        cases effect with
        | deleted accepted =>
            refine ⟨(⟨""⟩, "", ""), ?_⟩
            rintro _ _ ⟨document, stored, rfl, rfl⟩
            exact .inl ⟨document, ((mem_documents_erase _ _ _).mp stored).1, rfl, rfl⟩
        | failed unsuccessful => exact unchanged rfl
  · rw [contents_unchanged_iff.mpr succeeds]
    exact ⟨(⟨""⟩, "", ""), fun _ _ tagged => .inl tagged⟩

theorem guardAnswer_store (generated : GeneratedUuids) (validated : FrontendRequest) :
    (guardAnswer (documentStore generated) validated store).2 = store := by
  unfold guardAnswer
  split
  · dsimp only [documentStore]
    cases (rejectByOwnershipSecurity validated).interpret (mongoDriver.handler store) store <;> rfl
  · rfl

theorem tagsKept : TagsKept documentStore (fun _ => True) Tagged
    (fun generated documentUuid => documentUuid ∈ generated.all) KeepsResource where
  checked generated validated _ := by
    rw [guardAnswer_store]
    exact ⟨trivial, rfl⟩
  read _ _ _ := ⟨trivial, rfl⟩
  written generated _ _ keeps := ⟨trivial, written_tagged generated keeps⟩

end Resources

section Requests
variable [DocumentProcessing] {Memory : Type} {services : Services Memory} {memory : Memory}
  {entryPoint : EntryPoint} {frontendRequest : FrontendRequest} {document : MeadowlarkDocument}
  {queryHandler : QueryHandlerPlugin}

/-- A request whose path names another resource is confined unless it comes to the document. -/
theorem request_confined_iff (addressed : entryPoint.addressed = true)
    (foreign : Foreign
      (fun documentUuid => findDocument store (.documentUuid documentUuid) = some document)
      services entryPoint frontendRequest memory (storedDocument document)) :
    (∀ generated, Confined id store ((documentStore generated).run services
        (entryPoint.run queryHandler frontendRequest) (store, memory))) ↔
      ¬ Acts (WriteAccepted store) services entryPoint frontendRequest memory
        (storedDocument document) := by
  have generable : Nonempty GeneratedUuids := ⟨⟨⟨""⟩, []⟩⟩
  apply addressed_confined_iff addressed
  · intro generated validated following admitted
    obtain ⟨-, documentUuid, named, found⟩ := foreign validated following admitted
    exact ⟨documentUuid, named, serves_of_found generated found⟩
  · intro generated validated write _
    exact contents_unchanged_iff
  · intro write
    exact writeAccepted_iff

/-- The requests of a run generate fresh uuids and keep the resource of a stored uuid. -/
abbrev KeepsResources (services : Services Memory) :=
  KeepsTags documentStore services (fun generated documentUuid => documentUuid ∈ generated.all)
    KeepsResource

theorem served_tagging {used : List GeneratedUuids} {world : Store × Memory}
    (served : Served documentStore services (KeepsResources services)
      ([], (Database.empty, memory)) used world) :
    Tagging (fun _ => True) Tagged
      (fun generated documentUuid => documentUuid ∈ GeneratedUuids.all generated) used world.1 := by
  have named : Nonempty DocumentUuid := ⟨⟨""⟩⟩
  apply tagsKept.tagsFresh.tagging _ served
  have empty : ∀ documentUuid resource, ¬ Tagged Database.empty documentUuid resource := by
    rintro _ _ ⟨document, stored, -⟩
    cases stored
  exact ⟨trivial, fun tagged => absurd tagged (empty _ _),
    fun tagged => absurd tagged (empty _ _)⟩

/-- A stored uuid keeps its resource for the rest of a run from the empty store. -/
theorem served_resource {earlier used : List GeneratedUuids} {before after : Store × Memory}
    (reached : Served documentStore services (KeepsResources services)
      ([], (Database.empty, memory)) earlier before)
    (served : Served documentStore services (KeepsResources services)
      (earlier, before) used after)
    {documentUuid : DocumentUuid} {resource other : String × String}
    (tagged : Tagged before.1 documentUuid resource)
    (taggedAfter : Tagged after.1 documentUuid other) : other = resource := by
  have named : Nonempty DocumentUuid := ⟨⟨""⟩⟩
  exact tagsKept.tagsFresh.stable (served_tagging reached) served tagged taggedAfter

end Requests
end Meadowlark.Mongo
