import Meadowlark.Construction.Core.Extraction
import Meadowlark.Proof.Core.JsonPaths

namespace Meadowlark.Core.Extraction
open Systems

/-- The place of the reference objects of a property in every document.
The names of a key lead from an object to its value, and the target gives the order of the keys. -/
structure ReferenceShape where
  steps : List (Step String)
  names : String → List String
  identityPathOrder : List String

namespace ReferenceShape

/-- The reference objects that are present in a document. -/
def objects (shape : ReferenceShape) (documentBody : Json) : List Json :=
  documentBody.addressed shape.steps

/-- The value of a key in one reference object. -/
def value (shape : ReferenceShape) (object : Json) (documentKey : String) : Json :=
  (follow Json.field? (shape.names documentKey) object).getD .null

/-- The identity that one reference object gives. -/
def identityOf (shape : ReferenceShape) (object : Json) : DocumentIdentity :=
  shape.identityPathOrder.map fun documentKey => (documentKey, shape.value object documentKey)

/-- Every reference object has a primitive value for each key of the target's identity. -/
def Carried (shape : ReferenceShape) (documentBody : Json) : Prop :=
  ∀ object ∈ shape.objects documentBody, ∀ documentKey ∈ shape.identityPathOrder,
    ∃ value, follow Json.field? (shape.names documentKey) object = some value ∧
      value.isPrimitive = true

/-- The paths of a reference property go to the objects of its shape and from there by names.
They are the paths of the keys that identify the target. -/
structure Describes (shape : ReferenceShape) (apiSchema : ApiSchema) (base : BaseDocumentPaths)
    (projectName resourceName : String) : Prop where
  plainSteps : ∀ step ∈ shape.steps, isPlainStep step = true
  plainNames : ∀ documentKey ∈ shape.identityPathOrder,
    ∀ name ∈ shape.names documentKey, isPlainName name = true
  paths : ∀ documentKey documentJsonPath, base.paths.get? documentKey = some documentJsonPath →
    documentJsonPath = jsonPathOf (shape.steps ++ (shape.names documentKey).map .member)
  ordered : ∀ documentKey, documentKey ∈ base.pathOrder ↔ documentKey ∈ base.paths.keys
  identified : ∀ documentKey, documentKey ∈ shape.identityPathOrder ↔ documentKey ∈ base.pathOrder
  target : identityPathOrderForReference apiSchema projectName resourceName =
    .ok shape.identityPathOrder
  keyed : shape.identityPathOrder ≠ []

end ReferenceShape

section Identity

/-- The fold assigns the cell of every key and keeps the other keys. -/
theorem unsortedDocumentIdentity_from {intermediate : Mapping String (List Json)}
    {pathOrder : List String} {column : String → List Json}
    (columns : ∀ documentKey ∈ pathOrder, intermediate.get? documentKey = some (column documentKey))
    (index : Nat) (start : Mapping String (Option Json)) :
    ∃ unsorted, pathOrder.foldlM (fun unsorted documentKey =>
        match intermediate.get? documentKey with
        | none => .error (undefinedProperty (toString index))
        | some documentValuesSlice => .ok (unsorted.set documentKey documentValuesSlice[index]?))
        start = Except.ok unsorted ∧
      ∀ documentKey, unsorted.get? documentKey =
        if documentKey ∈ pathOrder then some (column documentKey)[index]?
        else start.get? documentKey := by
  induction pathOrder generalizing start with
  | nil => exact ⟨start, rfl, fun _ => rfl⟩
  | cons first rest ih =>
      obtain ⟨unsorted, done, read⟩ := ih
        (fun documentKey inside => columns documentKey (List.mem_cons_of_mem _ inside))
        (start.set first (column first)[index]?)
      refine ⟨unsorted, ?_, ?_⟩
      · rw [List.foldlM_cons, columns first List.mem_cons_self]
        exact done
      · intro documentKey
        rw [read, Mapping.get?_set]
        by_cases later : documentKey ∈ rest
        · simp [later]
        · by_cases same : documentKey = first <;> simp [later, same]

/-- The keys of an ordering are read from their columns. -/
theorem unsortedDocumentIdentity_ok {intermediate : Mapping String (List Json)}
    {pathOrder : List String} {column : String → List Json}
    (columns : ∀ documentKey ∈ pathOrder, intermediate.get? documentKey = some (column documentKey))
    (index : Nat) :
    ∃ unsorted, unsortedDocumentIdentity intermediate pathOrder index = .ok unsorted ∧
      ∀ documentKey ∈ pathOrder, unsorted.get? documentKey = some (column documentKey)[index]? := by
  obtain ⟨unsorted, done, read⟩ := unsortedDocumentIdentity_from columns index Mapping.empty
  refine ⟨unsorted, done, ?_⟩
  intro documentKey inside
  rw [read, if_pos inside]

end Identity

section Property
variable [JsonPathLibrary] [LawfulJsonPathLibrary] {apiSchema : ApiSchema}
  {shape : ReferenceShape} {base : BaseDocumentPaths} {projectName resourceName : String}
  {documentBody : Json}

/-- A path of the property reads one value from each reference object. -/
theorem flattened_column (described : shape.Describes apiSchema base projectName resourceName)
    (carried : shape.Carried documentBody) {documentKey documentJsonPath : String}
    (found : base.paths.get? documentKey = some documentJsonPath) :
    JsonPathLibrary.flattened documentJsonPath documentBody =
      (shape.objects documentBody).map (shape.value · documentKey) := by
  have listed : documentKey ∈ shape.identityPathOrder := by
    rw [described.identified, described.ordered]
    exact Mapping.mem_keys.mpr ⟨_, found⟩
  have plain : ∀ step ∈ shape.steps ++ (shape.names documentKey).map .member,
      isPlainStep step = true := by
    intro step inside
    rcases List.mem_append.mp inside with outer | inner
    · exact described.plainSteps step outer
    · obtain ⟨name, named, rfl⟩ := List.mem_map.mp inner
      exact described.plainNames documentKey listed name named
  have column : documentBody.addressed (shape.steps ++ (shape.names documentKey).map .member) =
      (shape.objects documentBody).map (shape.value · documentKey) := by
    apply select_column
    intro object inside
    obtain ⟨value, read, -⟩ := carried object inside documentKey listed
    unfold ReferenceShape.value
    rw [read]
    rfl
  rw [described.paths documentKey documentJsonPath found,
    LawfulJsonPathLibrary.flattened_plain _ _ plain, column, List.flatMap_map, List.map_eq_flatMap]
  apply List.flatMap_congr
  intro object inside
  obtain ⟨value, read, primitive⟩ := carried object inside documentKey listed
  unfold ReferenceShape.value
  rw [read]
  exact Json.unpack_primitive primitive

/-- Every column of the property has one value for each reference object. -/
theorem intermediate_columns (described : shape.Describes apiSchema base projectName resourceName)
    (carried : shape.Carried documentBody) {documentKey : String} {slice : List Json}
    (found : (intermediateDocumentIdentities base.paths documentBody).get? documentKey = some slice) :
    slice = (shape.objects documentBody).map (shape.value · documentKey) ∧ slice.length ≠ 0 := by
  unfold intermediateDocumentIdentities at found
  rw [Mapping.get?_filterMap, Option.bind_eq_some_iff] at found
  obtain ⟨documentJsonPath, listed, same⟩ := found
  dsimp only at same
  split at same
  · cases same
  · rename_i present
    obtain rfl := Option.some.inj same
    exact ⟨flattened_column described carried listed, present⟩

/-- A column is kept when the property has reference objects. -/
theorem intermediate_present (described : shape.Describes apiSchema base projectName resourceName)
    (carried : shape.Carried documentBody) {documentKey : String}
    (inside : documentKey ∈ base.pathOrder) (present : shape.objects documentBody ≠ []) :
    (intermediateDocumentIdentities base.paths documentBody).get? documentKey =
      some ((shape.objects documentBody).map (shape.value · documentKey)) := by
  obtain ⟨documentJsonPath, listed⟩ := Mapping.mem_keys.mp ((described.ordered documentKey).mp inside)
  unfold intermediateDocumentIdentities
  rw [Mapping.get?_filterMap, listed, Option.bind_some, flattened_column described carried listed]
  simp [present]

/-- The rows of the columns are the identities of the reference objects. -/
theorem row_ok (described : shape.Describes apiSchema base projectName resourceName)
    (carried : shape.Carried documentBody) {index : Nat} {object : Json}
    (at_index : (shape.objects documentBody)[index]? = some object) :
    ∃ unsorted, unsortedDocumentIdentity (intermediateDocumentIdentities base.paths documentBody)
        base.pathOrder index = .ok unsorted ∧
      orderedDocumentIdentity unsorted shape.identityPathOrder = shape.identityOf object := by
  have present : shape.objects documentBody ≠ [] := by
    intro absent
    rw [absent] at at_index
    cases at_index
  obtain ⟨unsorted, done, read⟩ := unsortedDocumentIdentity_ok
    (fun documentKey inside => intermediate_present described carried inside present) index
  refine ⟨unsorted, done, ?_⟩
  unfold orderedDocumentIdentity ReferenceShape.identityOf
  apply List.map_congr_left
  intro documentKey inside
  rw [read documentKey ((described.identified documentKey).mp inside), List.getElem?_map, at_index]
  rfl

/-- The property gives one reference for each reference object. -/
theorem documentReferencesOf_ok
    (described : shape.Describes apiSchema base projectName resourceName)
    (carried : shape.Carried documentBody) :
    documentReferencesOf apiSchema documentBody (.reference base projectName resourceName false) =
      .ok ((shape.objects documentBody).map fun object =>
        ⟨projectName, resourceName, false, shape.identityOf object⟩) := by
  have counted : ∀ slice ∈ (intermediateDocumentIdentities base.paths documentBody).values,
      slice.length = (shape.objects documentBody).length ∧ slice.length ≠ 0 := by
    intro slice inside
    obtain ⟨documentKey, found⟩ := Mapping.mem_values.mp inside
    obtain ⟨column, nonempty⟩ := intermediate_columns described carried found
    refine ⟨?_, nonempty⟩
    rw [column, List.length_map]
  unfold documentReferencesOf
  simp only [Bool.false_eq_true, if_false]
  split
  · rename_i empty
    have absent : shape.objects documentBody = [] := by
      by_contra present
      obtain ⟨documentKey, keyed⟩ := List.exists_mem_of_ne_nil _ described.keyed
      have found := intermediate_present described carried
        ((described.identified documentKey).mp keyed) present
      have listed := Mapping.mem_values.mpr ⟨documentKey, found⟩
      rw [empty] at listed
      cases listed
    rw [absent]
    rfl
  · rename_i first rest columns
    rw [columns] at counted
    have firstCounted := (counted first List.mem_cons_self).1
    have aligned : (first :: rest).all (·.length = first.length) = true := by
      rw [List.all_eq_true]
      intro slice inside
      rw [decide_eq_true_eq, (counted slice inside).1, firstCounted]
    rw [if_pos aligned, described.target, firstCounted]
    apply mapM_range_ok
    intro index object at_index
    obtain ⟨unsorted, done, ordered⟩ := row_ok described carried at_index
    rw [done, ← ordered]
    rfl

end Property

section Document
variable [JsonPathLibrary] {apiSchema : ApiSchema} {shapeOf : DocumentPaths → ReferenceShape}
  {documentBody : Json}

/-- A property that refers to documents is described by its shape and carried by the document. -/
def ReadsObjects (apiSchema : ApiSchema) (shapeOf : DocumentPaths → ReferenceShape)
    (documentBody : Json) (documentPaths : DocumentPaths) : Prop :=
  match documentPaths with
  | .reference base projectName resourceName false =>
      (shapeOf documentPaths).Describes apiSchema base projectName resourceName ∧
        (shapeOf documentPaths).Carried documentBody
  | _ => True

/-- One reference for each reference object of a property. -/
def objectReferencesOf (shapeOf : DocumentPaths → ReferenceShape) (documentBody : Json)
    (documentPaths : DocumentPaths) : List DocumentReference :=
  match documentPaths with
  | .reference _ projectName resourceName false =>
      ((shapeOf documentPaths).objects documentBody).map fun object =>
        ⟨projectName, resourceName, false, (shapeOf documentPaths).identityOf object⟩
  | _ => []

/-- The extraction gives one reference for each reference object of each property, in document
order, with the values of that object alone in the identity order of the target. -/
theorem extractDocumentReferences_ok [LawfulJsonPathLibrary] (resourceSchema : ResourceSchema)
    (reads : ∀ documentPaths ∈ resourceSchema.documentPathsMapping.values,
      ReadsObjects apiSchema shapeOf documentBody documentPaths) :
    extractDocumentReferences apiSchema resourceSchema documentBody =
      .ok (resourceSchema.documentPathsMapping.values.flatMap
        (objectReferencesOf shapeOf documentBody)) := by
  have each : ∀ documentPaths ∈ resourceSchema.documentPathsMapping.values,
      documentReferencesOf apiSchema documentBody documentPaths =
        .ok (objectReferencesOf shapeOf documentBody documentPaths) := by
    intro documentPaths inside
    have read := reads documentPaths inside
    match documentPaths, read with
    | .scalar _, _ => rfl
    | .reference _ _ _ true, _ => rfl
    | .reference base projectName resourceName false, read =>
        exact documentReferencesOf_ok read.1 read.2
  unfold extractDocumentReferences
  rw [mapM_ok_of_forall each, List.flatMap_def]
  rfl

end Document

section Sample
open Core.Sample

/-- Class periods are referenced from the sections of the courses of a document. -/
def classPeriodPaths : BaseDocumentPaths where
  paths := ⟨[("schoolId", "$.courses[*].sections[*].classPeriodReference.schoolId"),
    ("classPeriodName", "$.courses[*].sections[*].classPeriodReference.classPeriodName")],
    by decide⟩
  pathOrder := ["schoolId", "classPeriodName"]

def classPeriodShape : ReferenceShape where
  steps := [.member "courses", .every, .member "sections", .every, .member "classPeriodReference"]
  names documentKey := [documentKey]
  identityPathOrder := ["classPeriodName", "schoolId"]

def classPeriodSchema : ResourceSchema where
  resourceName := "ClassPeriod"
  isDescriptor := false
  isSchoolYearEnumeration := false
  equalityConstraints := []
  identityFullnames := []
  identityPathOrder := ["classPeriodName", "schoolId"]
  documentPathsMapping := Mapping.empty
  subclass := none

def sectionsSchema : ResourceSchema :=
  { classPeriodSchema with
    resourceName := "CourseSections"
    identityPathOrder := []
    documentPathsMapping :=
      ⟨[("ClassPeriod", .reference classPeriodPaths "Ed-Fi" "ClassPeriod" false)],
        List.nodup_singleton _⟩ }

def classPeriodApiSchema : ApiSchema where
  projectSchemas := ⟨[("ed-fi",
    ⟨"Ed-Fi", ⟨[("classPeriods", classPeriodSchema)], List.nodup_singleton _⟩, Mapping.empty⟩)],
    List.nodup_singleton _⟩

def classPeriodObject (schoolId classPeriodName : String) : Json :=
  .object [("classPeriodReference",
    .object [("schoolId", .string schoolId), ("classPeriodName", .string classPeriodName)])]

/-- The second section of the first course has no class period. -/
def sectionsDocument : Json :=
  .object [("courses", .array [
    .object [("sections", .array [classPeriodObject "24" "z1", .object []])],
    .object [("sections", .array [classPeriodObject "25" "z2", classPeriodObject "26" "z3"])]])]

theorem classPeriodShape_describes :
    classPeriodShape.Describes classPeriodApiSchema classPeriodPaths "Ed-Fi" "ClassPeriod" where
  plainSteps := by decide
  plainNames := by decide
  paths := by
    intro documentKey documentJsonPath found
    have listed := Mapping.get?_eq_some.mp found
    rcases List.mem_cons.mp listed with same | later
    · obtain ⟨rfl, rfl⟩ := Prod.mk.inj same
      decide
    · obtain ⟨rfl, rfl⟩ := Prod.mk.inj (List.mem_singleton.mp later)
      decide
  ordered := fun _ => Iff.rfl
  identified documentKey := by simp [classPeriodShape, classPeriodPaths, or_comm]
  target := rfl
  keyed := by decide

/-- Each of the three class periods keeps its own school. -/
theorem class_periods_kept_apart :
    @extractDocumentReferences jsonPaths classPeriodApiSchema sectionsSchema sectionsDocument =
      .ok [⟨"Ed-Fi", "ClassPeriod", false,
          [("classPeriodName", .string "z1"), ("schoolId", .string "24")]⟩,
        ⟨"Ed-Fi", "ClassPeriod", false,
          [("classPeriodName", .string "z2"), ("schoolId", .string "25")]⟩,
        ⟨"Ed-Fi", "ClassPeriod", false,
          [("classPeriodName", .string "z3"), ("schoolId", .string "26")]⟩] := by
  refine (@extractDocumentReferences_ok jsonPaths classPeriodApiSchema (fun _ => classPeriodShape)
    sectionsDocument jsonPaths_lawful sectionsSchema ?_).trans rfl
  intro documentPaths inside
  rw [List.mem_singleton.mp inside]
  refine ⟨classPeriodShape_describes, ?_⟩
  intro object present documentKey listed
  have primitive : ∀ object ∈ classPeriodShape.objects sectionsDocument,
      ∀ documentKey ∈ classPeriodShape.identityPathOrder,
        (follow Json.field? (classPeriodShape.names documentKey) object).any Json.isPrimitive = true := by
    decide
  exact (Option.any_eq_true ..).mp (primitive object present documentKey listed)

end Sample
end Meadowlark.Core.Extraction
