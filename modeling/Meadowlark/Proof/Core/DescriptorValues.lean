import Meadowlark.Construction.Core.Extraction

namespace Meadowlark.Core.Extraction
open Systems

/-- The resource of a descriptor property with the path to its values. -/
structure DescriptorPath where
  projectName : String
  resourceName : String
  path : String

/-- The descriptor paths of a property. -/
def descriptorPathsOf : DocumentPaths → List DescriptorPath
  | .reference base projectName resourceName true =>
      (base.pathOrder.filterMap base.paths.get?).map (⟨projectName, resourceName, ·⟩)
  | _ => []

def descriptorPaths (resourceSchema : ResourceSchema) : List DescriptorPath :=
  resourceSchema.documentPathsMapping.values.flatMap descriptorPathsOf

/-- The resource of the descriptor documents that a path refers to. -/
def DescriptorPath.resourceInfo (descriptorPath : DescriptorPath) : BaseResourceInfo :=
  ⟨descriptorPath.projectName, descriptorPath.resourceName, true⟩

/-- The reference to the descriptor with a value. -/
def DescriptorPath.referenceTo (descriptorPath : DescriptorPath) (value : Json) :
    DocumentReference where
  projectName := descriptorPath.projectName
  resourceName := descriptorPath.resourceName
  isDescriptor := true
  documentIdentity := [("descriptor", value)]

/-- The id of a reference to a descriptor is the id of the descriptor document. -/
theorem referenceTo_id [NodeRuntime] (descriptorPath : DescriptorPath) {descriptorDocument value : Json}
    (named : descriptorDocumentIdentityFrom descriptorDocument = [("descriptor", value)]) :
    getMeadowlarkIdForDocumentReference (descriptorPath.referenceTo value) =
      meadowlarkIdForDocumentIdentity descriptorPath.resourceInfo
        (descriptorDocumentIdentityFrom descriptorDocument) := by
  rw [named]
  rfl

variable [JsonPathLibrary] {documentBody : Json}

/-- One reference for each value of one property. -/
def valueReferencesOf (documentBody : Json) (documentPaths : DocumentPaths) :
    List DocumentReference :=
  (descriptorPathsOf documentPaths).flatMap fun descriptorPath =>
    (JsonPathLibrary.flattened descriptorPath.path documentBody).map descriptorPath.referenceTo

/-- One reference for each descriptor value of a document. -/
def valueReferences (resourceSchema : ResourceSchema) (documentBody : Json) :
    List DocumentReference :=
  resourceSchema.documentPathsMapping.values.flatMap (valueReferencesOf documentBody)

theorem mem_valueReferences {resourceSchema : ResourceSchema} {reference : DocumentReference} :
    reference ∈ valueReferences resourceSchema documentBody ↔
      ∃ descriptorPath ∈ descriptorPaths resourceSchema,
        ∃ value ∈ JsonPathLibrary.flattened descriptorPath.path documentBody,
          descriptorPath.referenceTo value = reference := by
  unfold valueReferences valueReferencesOf descriptorPaths
  simp only [List.mem_flatMap, List.mem_map]
  constructor
  · rintro ⟨documentPaths, listed, descriptorPath, inside, value, found, same⟩
    exact ⟨descriptorPath, ⟨documentPaths, listed, inside⟩, value, found, same⟩
  · rintro ⟨descriptorPath, ⟨documentPaths, listed, inside⟩, value, found, same⟩
    exact ⟨documentPaths, listed, descriptorPath, inside, value, found, same⟩

/-- A descriptor property has a single path, and the path has at most one value. -/
def SingleValued (documentBody : Json) : DocumentPaths → Prop
  | .reference base _ _ true => ∃ descriptorKey descriptorJsonPath,
      base.pathOrder = [descriptorKey] ∧ base.paths.get? descriptorKey = some descriptorJsonPath ∧
        (JsonPathLibrary.flattened descriptorJsonPath documentBody).length ≤ 1
  | _ => True

section Property
variable {base : BaseDocumentPaths} {projectName resourceName descriptorKey descriptorJsonPath : String}

theorem descriptorReferencesOf_single (ordered : base.pathOrder = [descriptorKey])
    (found : base.paths.get? descriptorKey = some descriptorJsonPath) :
    descriptorReferencesOf documentBody (.reference base projectName resourceName true) =
      if (JsonPathLibrary.flattened descriptorJsonPath documentBody).length = 0 then .ok []
      else .ok [⟨projectName, resourceName, true,
        (JsonPathLibrary.flattened descriptorJsonPath documentBody).map ("descriptor", ·)⟩] := by
  unfold descriptorReferencesOf
  simp only [ordered, found, if_true]

theorem valueReferencesOf_single (ordered : base.pathOrder = [descriptorKey])
    (found : base.paths.get? descriptorKey = some descriptorJsonPath) :
    valueReferencesOf documentBody (.reference base projectName resourceName true) =
      (JsonPathLibrary.flattened descriptorJsonPath documentBody).map
        (DescriptorPath.referenceTo ⟨projectName, resourceName, descriptorJsonPath⟩) := by
  unfold valueReferencesOf descriptorPathsOf
  simp [ordered, found]

/-- An extraction that does not throw has found the only path of the property. -/
theorem single_of_ok {references : List DocumentReference}
    (extracted : descriptorReferencesOf documentBody
      (.reference base projectName resourceName true) = .ok references) :
    ∃ descriptorKey descriptorJsonPath, base.pathOrder = [descriptorKey] ∧
      base.paths.get? descriptorKey = some descriptorJsonPath := by
  unfold descriptorReferencesOf at extracted
  simp only [if_true] at extracted
  split at extracted
  · rename_i descriptorKey ordered
    cases found : base.paths.get? descriptorKey with
    | none =>
        simp only [found] at extracted
        cases extracted
    | some descriptorJsonPath => exact ⟨descriptorKey, descriptorJsonPath, ordered, found⟩
  · cases extracted

end Property

/-- A single value is extracted as its own reference. -/
theorem descriptorReferencesOf_ok {documentPaths : DocumentPaths}
    (single : SingleValued documentBody documentPaths) :
    descriptorReferencesOf documentBody documentPaths =
      .ok (valueReferencesOf documentBody documentPaths) := by
  match documentPaths, single with
  | .scalar _, _ => rfl
  | .reference _ _ _ false, _ => rfl
  | .reference base projectName resourceName true,
      ⟨descriptorKey, descriptorJsonPath, ordered, found, atMost⟩ =>
      rw [descriptorReferencesOf_single ordered found, valueReferencesOf_single ordered found]
      match values : JsonPathLibrary.flattened descriptorJsonPath documentBody with
      | [] => rfl
      | [value] => rfl
      | first :: second :: rest =>
          rw [values] at atMost
          simp at atMost

/-- The extraction gives no more references than values, and as many only for single values. -/
theorem length_extracted {documentPaths : DocumentPaths} {references : List DocumentReference}
    (extracted : descriptorReferencesOf documentBody documentPaths = .ok references) :
    references.length ≤ (valueReferencesOf documentBody documentPaths).length ∧
      (references.length = (valueReferencesOf documentBody documentPaths).length →
        SingleValued documentBody documentPaths) := by
  match documentPaths with
  | .scalar _ =>
      cases extracted
      exact ⟨Nat.zero_le _, fun _ => trivial⟩
  | .reference _ _ _ false =>
      cases extracted
      exact ⟨Nat.zero_le _, fun _ => trivial⟩
  | .reference base projectName resourceName true =>
      obtain ⟨descriptorKey, descriptorJsonPath, ordered, found⟩ := single_of_ok extracted
      rw [descriptorReferencesOf_single ordered found] at extracted
      rw [valueReferencesOf_single ordered found, List.length_map]
      by_cases absent : (JsonPathLibrary.flattened descriptorJsonPath documentBody).length = 0
      · rw [if_pos absent] at extracted
        cases extracted
        exact ⟨Nat.zero_le _, fun _ => ⟨descriptorKey, descriptorJsonPath, ordered, found,
          by omega⟩⟩
      · rw [if_neg absent] at extracted
        cases extracted
        rw [List.length_singleton]
        exact ⟨by omega, fun counted => ⟨descriptorKey, descriptorJsonPath, ordered, found,
          by omega⟩⟩

/-- The lengths are bounded property by property, so an equal sum leaves no property out. -/
theorem length_extracted_all {properties : List DocumentPaths}
    {found : List (List DocumentReference)}
    (extracted : properties.mapM (descriptorReferencesOf documentBody) = .ok found) :
    found.flatten.length ≤ (properties.flatMap (valueReferencesOf documentBody)).length ∧
      (found.flatten.length = (properties.flatMap (valueReferencesOf documentBody)).length →
        ∀ documentPaths ∈ properties, SingleValued documentBody documentPaths) := by
  induction properties generalizing found with
  | nil =>
      cases extracted
      exact ⟨le_rfl, fun _ _ inside => absurd inside List.not_mem_nil⟩
  | cons documentPaths rest ih =>
      obtain ⟨references, later, first, others, rfl⟩ := mapM_cons_ok extracted
      obtain ⟨firstBound, firstSingle⟩ := length_extracted first
      obtain ⟨laterBound, laterSingle⟩ := ih others
      rw [List.flatten_cons, List.flatMap_cons, List.length_append, List.length_append]
      refine ⟨by omega, ?_⟩
      intro counted other inside
      rcases List.mem_cons.mp inside with rfl | listed
      · exact firstSingle (by omega)
      · exact laterSingle (by omega) other listed

/-- The extraction gives one reference for each value exactly when every descriptor property has a
single path with at most one value. -/
theorem extractDescriptorValues_iff (resourceSchema : ResourceSchema) :
    extractDescriptorValues resourceSchema documentBody =
        .ok (valueReferences resourceSchema documentBody) ↔
      ∀ documentPaths ∈ resourceSchema.documentPathsMapping.values,
        SingleValued documentBody documentPaths := by
  unfold extractDescriptorValues valueReferences
  constructor
  · intro same
    cases extracted : resourceSchema.documentPathsMapping.values.mapM
        (descriptorReferencesOf documentBody) with
    | error error =>
        rw [extracted] at same
        cases same
    | ok found =>
        rw [extracted] at same
        have flattened : found.flatten = _ := Except.ok.inj same
        exact (length_extracted_all extracted).2 (congrArg List.length flattened)
  · intro single
    rw [mapM_ok_of_forall fun documentPaths inside =>
      descriptorReferencesOf_ok (single documentPaths inside), List.flatMap_def]
    rfl

end Meadowlark.Core.Extraction
