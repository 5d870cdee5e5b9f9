import Meadowlark.Proof.Core.DescriptorValues
import Meadowlark.Proof.Core.JsonPaths
import Meadowlark.Proof.Mongo.MissingReferences
import Meadowlark.Construction.Postgres.Backend
import Meadowlark.Proof.Postgres.ReferenceValidation

namespace Meadowlark
open Meadowlark.Core Systems Extraction

section Stored
variable [NodeRuntime]

/-- The collection holds a document under its own id. -/
def Mongo.StoredUnder (store : Mongo.Store) (id : MeadowlarkId) : Prop :=
  ∃ document ∈ Mongo.documents store, document.id = id ∧ id ∈ document.aliasMeadowlarkIds

/-- Stored descriptors are not reported. -/
theorem Mongo.missingFrom_stored {store : Mongo.Store} {references : List DocumentReference}
    (stored : ∀ reference ∈ references,
      StoredUnder store (getMeadowlarkIdForDocumentReference reference)) :
    missingFrom store .onlyReturnId references = [] := by
  rw [missingFrom_eq]
  split
  · rw [missingIdentities_nil_iff]
    intro reference inside
    obtain ⟨document, listed, same, held⟩ := stored reference inside
    rw [readIds_id, ← same]
    apply List.mem_map_of_mem
    rw [mem_holders]
    exact ⟨listed, _, held, List.mem_map_of_mem inside⟩
  · rfl

theorem Mongo.validateReferences_stored {committed store : Mongo.Store}
    {documentReferences references : List DocumentReference}
    (stored : ∀ reference ∈ references,
      StoredUnder store (getMeadowlarkIdForDocumentReference reference)) :
    run committed (validateReferences documentReferences references) store =
      run committed (validateReferences documentReferences []) store := by
  have ran : ∀ descriptorReferences,
      run committed (validateReferences documentReferences descriptorReferences) store =
        .ok (missingFrom store .onlyReturnAliasMeadowlarkId documentReferences ++
          missingFrom store .onlyReturnId descriptorReferences, store) := fun _ => rfl
  rw [ran, ran, missingFrom_stored stored,
    @missingFrom_stored _ _ [] fun _ inside => absurd inside List.not_mem_nil]

/-- Stored descriptors are not reported. -/
theorem Postgres.missingFrom_stored {tables : Postgres.Tables} {references : List DocumentReference}
    (stored : ∀ reference ∈ references,
      Occurs tables (getMeadowlarkIdForDocumentReference reference)) :
    missingFrom tables references = [] := by
  unfold missingFrom
  dsimp only
  split
  · refine (@missingIdentities_pick _ (· ∈ aliasesAmong tables
      (references.map getMeadowlarkIdForDocumentReference)) _ references).trans ?_
    rw [missingIdentities_nil_iff]
    intro reference inside
    rw [mem_aliasesAmong]
    exact ⟨List.mem_map_of_mem inside, stored reference inside⟩
  · rfl

theorem Postgres.validateReferences_stored [ColumnTypes] {committed tables : Postgres.Tables}
    {documentReferences references : List DocumentReference}
    (stored : ∀ reference ∈ references,
      Occurs tables (getMeadowlarkIdForDocumentReference reference)) :
    (working committed tables).run (validateReferences documentReferences references) =
      (working committed tables).run (validateReferences documentReferences []) := by
  have ran : ∀ descriptorReferences, (working committed tables).run
      (validateReferences documentReferences descriptorReferences) =
        (.ok (missingFrom tables documentReferences ++ missingFrom tables descriptorReferences),
          working committed tables) := by
    intro descriptorReferences
    unfold validateReferences
    rw [run_bind_ok (run_validateReferenceList _), run_bind_ok (run_validateReferenceList _)]
    rfl
  rw [ran, ran, missingFrom_stored stored,
    @missingFrom_stored _ _ [] fun _ inside => absurd inside List.not_mem_nil]

end Stored

section Extraction
variable [NodeRuntime] [Postgres.ColumnTypes] [JsonPathLibrary]

/-- Every descriptor value becomes its own reference, with the id of the descriptor document.
Neither backend refuses a document because of descriptors that are stored. -/
structure FindsDescriptors (resourceSchema : Extraction.ResourceSchema) (documentBody : Json) : Prop where
  extracted : extractDescriptorValues resourceSchema documentBody =
    .ok (valueReferences resourceSchema documentBody)
  identified : ∀ references, extractDescriptorValues resourceSchema documentBody = .ok references →
    ∀ reference ∈ references, ∃ descriptorPath ∈ descriptorPaths resourceSchema,
      ∃ value ∈ JsonPathLibrary.flattened descriptorPath.path documentBody,
        reference = descriptorPath.referenceTo value ∧
          ∀ descriptorDocument,
            descriptorDocumentIdentityFrom descriptorDocument = [("descriptor", value)] →
            getMeadowlarkIdForDocumentReference reference = meadowlarkIdForDocumentIdentity
              descriptorPath.resourceInfo (descriptorDocumentIdentityFrom descriptorDocument)
  mongoAccepts : ∀ references, extractDescriptorValues resourceSchema documentBody = .ok references →
    ∀ committed store documentReferences,
      (∀ descriptorPath ∈ descriptorPaths resourceSchema,
        ∀ value ∈ JsonPathLibrary.flattened descriptorPath.path documentBody,
          Mongo.StoredUnder store (meadowlarkIdForDocumentIdentity descriptorPath.resourceInfo
            [("descriptor", value)])) →
      Mongo.run committed (Mongo.validateReferences documentReferences references) store =
        Mongo.run committed (Mongo.validateReferences documentReferences []) store
  postgresAccepts : ∀ references,
    extractDescriptorValues resourceSchema documentBody = .ok references →
    ∀ committed tables documentReferences,
      (∀ descriptorPath ∈ descriptorPaths resourceSchema,
        ∀ value ∈ JsonPathLibrary.flattened descriptorPath.path documentBody,
          Postgres.Occurs tables (meadowlarkIdForDocumentIdentity descriptorPath.resourceInfo
            [("descriptor", value)])) →
      (Postgres.working committed tables).run
          (Postgres.validateReferences documentReferences references) =
        (Postgres.working committed tables).run
          (Postgres.validateReferences documentReferences [])

/-- Descriptors are found exactly when every descriptor property has a single path with at most one
value. -/
theorem finds_descriptors_iff (resourceSchema : Extraction.ResourceSchema) (documentBody : Json) :
    FindsDescriptors resourceSchema documentBody ↔
      ∀ documentPaths ∈ resourceSchema.documentPathsMapping.values,
        SingleValued documentBody documentPaths := by
  rw [← extractDescriptorValues_iff]
  constructor
  · intro finds
    exact finds.extracted
  · intro extracted
    have known : ∀ references,
        extractDescriptorValues resourceSchema documentBody = .ok references →
        references = valueReferences resourceSchema documentBody := by
      intro references done
      rw [extracted] at done
      exact (Except.ok.inj done).symm
    refine ⟨extracted, ?_, ?_, ?_⟩
    · intro references done reference inside
      rw [known references done] at inside
      obtain ⟨descriptorPath, listed, value, found, rfl⟩ := mem_valueReferences.mp inside
      exact ⟨descriptorPath, listed, value, found, rfl,
        fun _ named => referenceTo_id descriptorPath named⟩
    · intro references done committed store documentReferences stored
      apply Mongo.validateReferences_stored
      intro reference inside
      rw [known references done] at inside
      obtain ⟨descriptorPath, listed, value, found, rfl⟩ := mem_valueReferences.mp inside
      exact stored descriptorPath listed value found
    · intro references done committed tables documentReferences stored
      apply Postgres.validateReferences_stored
      intro reference inside
      rw [known references done] at inside
      obtain ⟨descriptorPath, listed, value, found, rfl⟩ := mem_valueReferences.mp inside
      exact stored descriptorPath listed value found

end Extraction

section Sample
open Core.Sample

/-- A resource with a collection of grade levels. -/
def gradeLevelSchema : Extraction.ResourceSchema where
  resourceName := "Student"
  isDescriptor := false
  isSchoolYearEnumeration := false
  equalityConstraints := []
  identityFullnames := []
  identityPathOrder := []
  documentPathsMapping := ⟨[("GradeLevel", .reference
    ⟨⟨[("gradeLevelDescriptor", "$.gradeLevels[*].gradeLevelDescriptor")], List.nodup_singleton _⟩,
      ["gradeLevelDescriptor"]⟩ "Ed-Fi" "GradeLevelDescriptor" true)], List.nodup_singleton _⟩
  subclass := none

def gradeLevels (values : List String) : Json :=
  .object [("gradeLevels", .array (values.map fun value =>
    .object [("gradeLevelDescriptor", .string value)]))]

def gradeLevelId (value : String) : MeadowlarkId :=
  @meadowlarkIdForDocumentIdentity runtime ⟨"Ed-Fi", "GradeLevelDescriptor", true⟩
    [("descriptor", .string value)]

/-- The aliases table holds both grade levels. -/
def storedGradeLevels : Postgres.Tables :=
  { Postgres.Tables.empty with aliases :=
      [⟨documentUuid "000000000001", gradeLevelId "#10", gradeLevelId "#10"⟩,
        ⟨documentUuid "000000000002", gradeLevelId "#11", gradeLevelId "#11"⟩] }

/-- Two stored grade levels of one document are taken for a single descriptor that is missing. -/
theorem two_grade_levels_refused :
    @extractDescriptorValues jsonPaths gradeLevelSchema (gradeLevels ["#10", "#11"]) =
        .ok [⟨"Ed-Fi", "GradeLevelDescriptor", true,
          [("descriptor", .string "#10"), ("descriptor", .string "#11")]⟩] ∧
      (∀ value ∈ ["#10", "#11"], Postgres.Occurs storedGradeLevels (gradeLevelId value)) ∧
      @Postgres.missingFrom runtime storedGradeLevels [⟨"Ed-Fi", "GradeLevelDescriptor", true,
          [("descriptor", .string "#10"), ("descriptor", .string "#11")]⟩] =
        [⟨"GradeLevelDescriptor",
          [("descriptor", .string "#10"), ("descriptor", .string "#11")]⟩] ∧
      ¬ @FindsDescriptors runtime Postgres.Sample.columns jsonPaths gradeLevelSchema
        (gradeLevels ["#10", "#11"]) := by
  have merged : @extractDescriptorValues jsonPaths gradeLevelSchema (gradeLevels ["#10", "#11"]) =
      .ok [⟨"Ed-Fi", "GradeLevelDescriptor", true,
        [("descriptor", .string "#10"), ("descriptor", .string "#11")]⟩] := by
    rfl
  refine ⟨merged, by decide +kernel, by decide +kernel, ?_⟩
  intro finds
  have counted : 1 = 2 := congrArg List.length
    (Except.ok.inj (merged.symm.trans
      (@FindsDescriptors.extracted runtime Postgres.Sample.columns jsonPaths _ _ finds)))
  exact absurd counted (by decide)

end Sample
end Meadowlark
