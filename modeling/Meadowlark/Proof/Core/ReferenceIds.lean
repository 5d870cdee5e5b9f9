import Meadowlark.Proof.Core.DocumentReferences
import Meadowlark.Proof.Core.MergedIdentities

namespace Meadowlark.Core.Extraction
open Systems

/-- The api schema finds the resource schema by its project and its name. -/
def IsResourceOf (apiSchema : ApiSchema) (projectName : String) (resourceSchema : ResourceSchema) :
    Prop :=
  ∃ projectSchema, apiSchema.projectSchemas.values.find? (·.projectName = projectName) =
      some projectSchema ∧
    projectSchema.resourceSchemas.values.find? (·.resourceName = resourceSchema.resourceName) =
      some resourceSchema

/-- The keys that identify a resource are in lexical order without duplicates. -/
def LexicalOrder (apiSchema : ApiSchema) (projectName resourceName : String) : Prop :=
  ∀ identityPathOrder,
    identityPathOrderForReference apiSchema projectName resourceName = .ok identityPathOrder →
    identityPathOrder.Pairwise (· < ·)

theorem resource_order {apiSchema : ApiSchema} {projectName : String}
    {resourceSchema : ResourceSchema}
    (resource : IsResourceOf apiSchema projectName resourceSchema) :
    identityPathOrderForReference apiSchema projectName resourceSchema.resourceName =
      .ok resourceSchema.identityPathOrder := by
  obtain ⟨projectSchema, project, found⟩ := resource
  unfold identityPathOrderForReference
  rw [project]
  dsimp only
  rw [found]

/-- Ordered lists with the same keys are the same. -/
theorem ordered_keys_eq {first second : List String} (firstOrdered : first.Pairwise (· < ·))
    (secondOrdered : second.Pairwise (· < ·)) (same : ∀ key, key ∈ first ↔ key ∈ second) :
    first = second := by
  have distinct : ∀ {keys : List String}, keys.Pairwise (· < ·) → keys.Nodup := by
    intro keys ordered
    apply ordered.imp
    rintro key _ less rfl
    exact String.lt_irrefl key less
  apply List.Perm.eq_of_pairwise ?_ firstOrdered secondOrdered
  · exact (List.perm_ext_iff_of_nodup (distinct firstOrdered) (distinct secondOrdered)).mpr same
  · intro first second _ _ less greater
    exact absurd greater (String.lt_asymm less)

section Identities
variable [JsonPathLibrary] {resourceSchema : ResourceSchema} {documentBody : Json}

/-- An identity has a key for each key of the order, and none of its values is null. -/
structure Identifies (identity : DocumentIdentity) (pathOrder : List String) : Prop where
  keys : identity.map Prod.fst = pathOrder
  values : ∀ element ∈ identity, element.2 ≠ .null

theorem identityElements_identify {identityPaths : Mapping String String} {pathOrder : List String}
    {identity : DocumentIdentity}
    (read : pathOrder.mapM (identityElement identityPaths documentBody) = .ok identity) :
    Identifies identity pathOrder := by
  induction pathOrder generalizing identity with
  | nil =>
      cases read
      exact ⟨rfl, fun _ inside => absurd inside List.not_mem_nil⟩
  | cons documentKey rest ih =>
      obtain ⟨element, later, first, others, rfl⟩ := mapM_cons_ok read
      obtain ⟨keys, values⟩ := ih others
      constructor
      · rw [List.map_cons, identityElement_key first, keys]
      · intro other inside
        rcases List.mem_cons.mp inside with rfl | listed
        · exact identityElement_value first
        · exact values other listed

theorem extractDocumentIdentity_identifies (concrete : resourceSchema.isDescriptor = false)
    (schoolYears : resourceSchema.isSchoolYearEnumeration = true →
      resourceSchema.identityPathOrder = ["schoolYear"]) {identity : DocumentIdentity}
    (extracted : extractDocumentIdentity resourceSchema documentBody = .ok identity) :
    Identifies identity resourceSchema.identityPathOrder := by
  unfold extractDocumentIdentity at extracted
  rw [concrete, if_neg Bool.false_ne_true] at extracted
  split at extracted
  · rename_i enumeration
    rw [schoolYears enumeration]
    unfold schoolYearEnumerationDocumentIdentityFrom at extracted
    split at extracted
    · cases extracted
    · cases extracted
    · cases extracted
      refine ⟨rfl, ?_⟩
      intro element inside
      rw [List.mem_singleton.mp inside]
      exact Json.noConfusion
  · cases paths : identityDocumentPaths resourceSchema with
    | error error =>
        rw [paths] at extracted
        cases extracted
    | ok identityPaths =>
        rw [paths] at extracted
        exact identityElements_identify (identityAlong_read extracted)

end Identities

section Values

/-- A reference object has the keys of an identity with values that read the same in an id. -/
structure SameValues (shape : ReferenceShape) (object : Json) (identity : DocumentIdentity) :
    Prop where
  keys : ∀ documentKey, documentKey ∈ shape.identityPathOrder ↔ documentKey ∈ identity.map Prod.fst
  values : ∀ element ∈ identity,
    (shape.value object element.1).toTemplateText = element.2.toTemplateText

/-- The same values in the same order give the same hash. -/
theorem identityOf_hash [NodeRuntime] {shape : ReferenceShape} {object : Json}
    {identity : DocumentIdentity} (same : SameValues shape object identity)
    (ordered : identity.map Prod.fst = shape.identityPathOrder) :
    documentIdentityHashFrom (shape.identityOf object) = documentIdentityHashFrom identity := by
  unfold documentIdentityHashFrom ReferenceShape.identityOf
  rw [← ordered, List.map_map, List.map_map]
  congr 2
  apply List.map_congr_left
  intro element inside
  simp only [Function.comp_apply, same.values element inside]

end Values

section Superclass
variable {resourceSchema : ResourceSchema} {identity : DocumentIdentity}

/-- A domain entity subclass is identified by its renamed key alone. -/
def RenamedAlone (resourceSchema : ResourceSchema) : Prop :=
  match resourceSchema.subclass with
  | some (.domainEntity _ _ _ subclassIdentityDocumentKey) =>
      resourceSchema.identityPathOrder = [subclassIdentityDocumentKey]
  | _ => True

/-- The superclass identity is derived, and it keeps the lexical order of the keys. -/
theorem superclassInfo_derived (identifies : Identifies identity resourceSchema.identityPathOrder)
    (subclass : resourceSchema.subclass ≠ none) (renamed : RenamedAlone resourceSchema) :
    ∃ superclassInfo, deriveSuperclassInfoFrom resourceSchema identity = .ok (some superclassInfo) ∧
      (resourceSchema.identityPathOrder.Pairwise (· < ·) →
        (superclassInfo.documentIdentity.map Prod.fst).Pairwise (· < ·)) := by
  unfold deriveSuperclassInfoFrom
  unfold RenamedAlone at renamed
  match found : resourceSchema.subclass with
  | none => exact absurd found subclass
  | some (.association superclassProjectName superclassResourceName) =>
      refine ⟨_, rfl, fun lexical => ?_⟩
      rw [identifies.keys]
      exact lexical
  | some (.domainEntity superclassProjectName superclassResourceName superclassIdentityDocumentKey
      subclassIdentityDocumentKey) =>
      rw [found] at renamed
      obtain ⟨keys, values⟩ := identifies
      rw [renamed] at keys
      match identity, keys, values with
      | [(documentKey, documentValue)], keys, values =>
          obtain rfl : documentKey = subclassIdentityDocumentKey := List.singleton_inj.mp keys
          have present := values _ List.mem_cons_self
          have derived : renamedIdentity superclassIdentityDocumentKey documentKey
              [(documentKey, documentValue)] =
                .ok [(superclassIdentityDocumentKey, documentValue)] := by
            unfold renamedIdentity
            simp [List.findIdx?_cons, present]
          dsimp only
          rw [derived]
          exact ⟨_, rfl, fun _ => List.pairwise_singleton _ _⟩

end Superclass

section Ids
variable {apiSchema : ApiSchema} {shapeOf : DocumentPaths → ReferenceShape}
  {referringSchema : ResourceSchema} {referringBody : Json}

/-- Every reference object of a property with the values of an identity is extracted as a reference
with an id. -/
def ReferredBy [NodeRuntime] (shapeOf : DocumentPaths → ReferenceShape)
    (referringSchema : ResourceSchema) (referringBody : Json) (references : List DocumentReference)
    (projectName resourceName : String) (identity : DocumentIdentity) (id : MeadowlarkId) : Prop :=
  ∀ base, .reference base projectName resourceName false ∈
      referringSchema.documentPathsMapping.values →
    ∀ object ∈ (shapeOf (.reference base projectName resourceName false)).objects referringBody,
      SameValues (shapeOf (.reference base projectName resourceName false)) object identity →
      ∃ reference ∈ references,
        reference.documentIdentity =
            (shapeOf (.reference base projectName resourceName false)).identityOf object ∧
          getMeadowlarkIdForDocumentReference reference = id

/-- References with the keys of an identity in the same order have its id. -/
theorem referredBy_ordered [NodeRuntime]
    (reads : ∀ documentPaths ∈ referringSchema.documentPathsMapping.values,
      ReadsObjects apiSchema shapeOf referringBody documentPaths)
    {projectName resourceName : String} {identity : DocumentIdentity}
    (ordered : ∀ identityPathOrder,
      identityPathOrderForReference apiSchema projectName resourceName = .ok identityPathOrder →
      (∀ documentKey, documentKey ∈ identityPathOrder ↔ documentKey ∈ identity.map Prod.fst) →
      identity.map Prod.fst = identityPathOrder) (isDescriptor : Bool) :
    ReferredBy shapeOf referringSchema referringBody
      (referringSchema.documentPathsMapping.values.flatMap
        (objectReferencesOf shapeOf referringBody)) projectName resourceName identity
      (meadowlarkIdForDocumentIdentity ⟨projectName, resourceName, isDescriptor⟩ identity) := by
  intro base listed object present same
  refine ⟨⟨projectName, resourceName, false,
      (shapeOf (.reference base projectName resourceName false)).identityOf object⟩,
    List.mem_flatMap.mpr ⟨_, listed, List.mem_map_of_mem present⟩, rfl, ?_⟩
  have described := (reads _ listed).1
  have hashed := identityOf_hash same (ordered _ described.target same.keys)
  unfold getMeadowlarkIdForDocumentReference meadowlarkIdForDocumentIdentity
  rw [hashed]
  rfl

variable [JsonPathLibrary]

/-- An extracted reference with the values of a document's identity has the id of the document.
For a subclass whose keys are all renamed or none, a reference to the superclass with the values of
the derived identity has the superclass id when the keys of both resources are in lexical order. -/
theorem reference_ids_agree [NodeRuntime] [LawfulJsonPathLibrary]
    {projectName : String} {resourceSchema : ResourceSchema}
    (resource : IsResourceOf apiSchema projectName resourceSchema)
    (concrete : resourceSchema.isDescriptor = false)
    (schoolYears : resourceSchema.isSchoolYearEnumeration = true →
      resourceSchema.identityPathOrder = ["schoolYear"])
    {documentBody : Json} {identity : DocumentIdentity}
    (extracted : extractDocumentIdentity resourceSchema documentBody = .ok identity)
    (reads : ∀ documentPaths ∈ referringSchema.documentPathsMapping.values,
      ReadsObjects apiSchema shapeOf referringBody documentPaths) :
    ∃ references, extractDocumentReferences apiSchema referringSchema referringBody =
        .ok references ∧
      ReferredBy shapeOf referringSchema referringBody references projectName
        resourceSchema.resourceName identity
        (meadowlarkIdForDocumentIdentity
          ⟨projectName, resourceSchema.resourceName, resourceSchema.isDescriptor⟩ identity) ∧
      (resourceSchema.subclass ≠ none → RenamedAlone resourceSchema →
        ∃ superclassInfo,
          deriveSuperclassInfoFrom resourceSchema identity = .ok (some superclassInfo) ∧
            (LexicalOrder apiSchema projectName resourceSchema.resourceName →
              LexicalOrder apiSchema superclassInfo.projectName superclassInfo.resourceName →
              ReferredBy shapeOf referringSchema referringBody references superclassInfo.projectName
                superclassInfo.resourceName superclassInfo.documentIdentity
                (getMeadowlarkIdForSuperclassInfo superclassInfo))) := by
  have identifies := extractDocumentIdentity_identifies concrete schoolYears extracted
  refine ⟨_, extractDocumentReferences_ok referringSchema reads, ?_, ?_⟩
  · apply referredBy_ordered reads
    intro identityPathOrder target _
    rw [resource_order resource] at target
    rw [identifies.keys]
    exact Except.ok.inj target
  · intro subclass renamed
    obtain ⟨superclassInfo, derived, superclassOrdered⟩ :=
      superclassInfo_derived identifies subclass renamed
    refine ⟨superclassInfo, derived, fun lexical superclassLexical => ?_⟩
    have ordered := superclassOrdered (lexical _ (resource_order resource))
    apply referredBy_ordered reads
    intro identityPathOrder target sameKeys
    exact ordered_keys_eq ordered (superclassLexical _ target) fun key => (sameKeys key).symm

end Ids

section Sample
open Core.Sample

/-- A school is an education organization under a name of its own. -/
def schoolSchema : ResourceSchema where
  resourceName := "School"
  isDescriptor := false
  isSchoolYearEnumeration := false
  equalityConstraints := []
  identityFullnames := ["SchoolId"]
  identityPathOrder := ["schoolId"]
  documentPathsMapping := ⟨[("SchoolId", .scalar
    ⟨⟨[("schoolId", "$.schoolId")], List.nodup_singleton _⟩, ["schoolId"]⟩)], List.nodup_singleton _⟩
  subclass := some (.domainEntity "Ed-Fi" "EducationOrganization" "educationOrganizationId" "schoolId")

def schoolApiSchema : ApiSchema where
  projectSchemas := ⟨[("ed-fi", ⟨"Ed-Fi", ⟨[("schools", schoolSchema)], List.nodup_singleton _⟩,
    ⟨[("EducationOrganization", ["educationOrganizationId"])], List.nodup_singleton _⟩⟩)],
    List.nodup_singleton _⟩

/-- The schools of a document are a collection, and its education organization stands alone. -/
def schoolPaths (documentKey path : String) : BaseDocumentPaths :=
  ⟨⟨[(documentKey, path)], List.nodup_singleton _⟩, [documentKey]⟩

def schoolsProperty : DocumentPaths :=
  .reference (schoolPaths "schoolId" "$.schools[*].schoolReference.schoolId") "Ed-Fi" "School" false

def organizationProperty : DocumentPaths :=
  .reference (schoolPaths "educationOrganizationId"
    "$.educationOrganizationReference.educationOrganizationId") "Ed-Fi" "EducationOrganization" false

def organizationsSchema : ResourceSchema :=
  { schoolSchema with
    resourceName := "FeederSchoolNetwork"
    documentPathsMapping :=
      ⟨[("School", schoolsProperty), ("EducationOrganization", organizationProperty)], by decide⟩
    subclass := none }

def organizationShape : DocumentPaths → ReferenceShape
  | .reference _ _ "School" _ =>
      ⟨[.member "schools", .every, .member "schoolReference"], fun key => [key], ["schoolId"]⟩
  | _ => ⟨[.member "educationOrganizationReference"], fun key => [key], ["educationOrganizationId"]⟩

def schoolReference (schoolId : String) : Json :=
  .object [("schoolReference", .object [("schoolId", .string schoolId)])]

def organizationsBody : Json :=
  .object [("schools", .array [schoolReference "2", schoolReference "1"]),
    ("educationOrganizationReference", .object [("educationOrganizationId", .string "1")])]

/-- A reference with a single key is described by its path and its target. -/
theorem schoolPaths_describes {steps : List (Step String)} {documentKey path resourceName : String}
    (plain : ∀ step ∈ steps, isPlainStep step = true) (named : isPlainName documentKey = true)
    (same : path = jsonPathOf (steps ++ [.member documentKey]))
    (target : identityPathOrderForReference schoolApiSchema "Ed-Fi" resourceName =
      .ok [documentKey]) :
    ReferenceShape.Describes ⟨steps, fun key => [key], [documentKey]⟩ schoolApiSchema
      (schoolPaths documentKey path) "Ed-Fi" resourceName where
  plainSteps := plain
  plainNames key inside name listed := by
    rw [List.mem_singleton.mp listed, List.mem_singleton.mp inside]
    exact named
  paths key other found := by
    obtain ⟨rfl, rfl⟩ := Prod.mk.inj (List.mem_singleton.mp (Mapping.get?_eq_some.mp found))
    exact same
  ordered _ := Iff.rfl
  identified _ := Iff.rfl
  target := target
  keyed := List.cons_ne_nil _ _

theorem organizationShape_reads : ∀ documentPaths ∈ organizationsSchema.documentPathsMapping.values,
    ReadsObjects schoolApiSchema organizationShape organizationsBody documentPaths := by
  have schools : (organizationShape schoolsProperty).Carried organizationsBody := by
    intro object present documentKey listed
    have primitive : ∀ object ∈ (organizationShape schoolsProperty).objects organizationsBody,
        (follow Json.field? ["schoolId"] object).any Json.isPrimitive = true := by
      decide
    rw [List.mem_singleton.mp listed]
    exact (Option.any_eq_true ..).mp (primitive object present)
  have organization : (organizationShape organizationProperty).Carried organizationsBody := by
    intro object present documentKey listed
    have primitive : ∀ object ∈ (organizationShape organizationProperty).objects organizationsBody,
        (follow Json.field? ["educationOrganizationId"] object).any Json.isPrimitive = true := by
      decide
    rw [List.mem_singleton.mp listed]
    exact (Option.any_eq_true ..).mp (primitive object present)
  intro documentPaths inside
  rcases List.mem_cons.mp inside with rfl | later
  · exact ⟨schoolPaths_describes (by decide) (by decide) (by decide) rfl, schools⟩
  · rw [List.mem_singleton.mp later]
    exact ⟨schoolPaths_describes (by decide) (by decide) (by decide) rfl, organization⟩

theorem singleKey_lexical {apiSchema : ApiSchema} {projectName resourceName documentKey : String}
    (target : identityPathOrderForReference apiSchema projectName resourceName =
      .ok [documentKey]) : LexicalOrder apiSchema projectName resourceName := by
  intro identityPathOrder found
  cases target.symm.trans found
  exact List.pairwise_singleton _ _

/-- The second school of the collection and the education organization both lead to the school. -/
theorem school_referred_twice :
    ∃ references, @extractDocumentReferences jsonPaths schoolApiSchema organizationsSchema
        organizationsBody = .ok references ∧
      (∃ reference ∈ references, reference.documentIdentity = [("schoolId", .string "1")] ∧
        @getMeadowlarkIdForDocumentReference runtime reference =
          @meadowlarkIdForDocumentIdentity runtime ⟨"Ed-Fi", "School", false⟩
            [("schoolId", .string "1")]) ∧
      ∃ reference ∈ references,
        reference.documentIdentity = [("educationOrganizationId", .string "1")] ∧
        @getMeadowlarkIdForDocumentReference runtime reference =
          @getMeadowlarkIdForSuperclassInfo runtime ⟨[("educationOrganizationId", .string "1")],
            "Ed-Fi", "EducationOrganization"⟩ := by
  have extracted : @extractDocumentIdentity jsonPaths schoolSchema
      (.object [("schoolId", .string "1")]) = .ok [("schoolId", .string "1")] := by
    decide +kernel
  obtain ⟨references, done, school, superclass⟩ := @reference_ids_agree schoolApiSchema
    organizationShape organizationsSchema organizationsBody jsonPaths runtime jsonPaths_lawful
    "Ed-Fi" schoolSchema ⟨_, rfl, rfl⟩ rfl (fun enumeration => absurd enumeration (by decide))
    _ _ extracted organizationShape_reads
  obtain ⟨superclassInfo, derived, ordered⟩ := superclass (by decide) rfl
  obtain rfl : superclassInfo = ⟨[("educationOrganizationId", .string "1")], "Ed-Fi",
      "EducationOrganization"⟩ := (Option.some.inj (Except.ok.inj derived)).symm
  have organization := ordered (singleKey_lexical rfl) (singleKey_lexical rfl)
  refine ⟨references, done, ?_, ?_⟩
  · exact school _ List.mem_cons_self (.object [("schoolId", .string "1")]) (by decide)
      ⟨fun _ => Iff.rfl, by decide⟩
  · exact organization _ (List.mem_cons_of_mem _ List.mem_cons_self)
      (.object [("educationOrganizationId", .string "1")]) (by decide)
      ⟨fun _ => Iff.rfl, by decide⟩

/-- A program association of a student lists the keys of its superclass in another order. -/
def titleProgramSchema : ResourceSchema :=
  { schoolSchema with
    resourceName := "StudentTitleIPartAProgramAssociation"
    identityFullnames := ["Student", "BeginDate"]
    identityPathOrder := ["studentUniqueId", "beginDate"]
    documentPathsMapping := ⟨[
      ("Student", .reference (schoolPaths "studentUniqueId" "$.studentReference.studentUniqueId")
        "Ed-Fi" "Student" false),
      ("BeginDate", .scalar (schoolPaths "beginDate" "$.beginDate"))], by decide⟩
    subclass := some (.association "Ed-Fi" "GeneralStudentProgramAssociation") }

def programApiSchema : ApiSchema where
  projectSchemas := ⟨[("ed-fi", ⟨"Ed-Fi",
    ⟨[("studentTitleIPartAProgramAssociations", titleProgramSchema)], List.nodup_singleton _⟩,
    ⟨[("GeneralStudentProgramAssociation", ["beginDate", "studentUniqueId"])],
      List.nodup_singleton _⟩⟩)], List.nodup_singleton _⟩

def titleProgramBody : Json :=
  .object [("studentReference", .object [("studentUniqueId", .string "1")]),
    ("beginDate", .string "2023-08-01")]

def programProperty : DocumentPaths :=
  .reference ⟨⟨[("beginDate", "$.programReference.beginDate"),
      ("studentUniqueId", "$.programReference.studentUniqueId")], by decide⟩,
    ["beginDate", "studentUniqueId"]⟩ "Ed-Fi" "GeneralStudentProgramAssociation" false

def evaluationSchema : ResourceSchema :=
  { schoolSchema with
    resourceName := "ProgramEvaluation"
    documentPathsMapping := ⟨[("Program", programProperty)], List.nodup_singleton _⟩
    subclass := none }

def evaluationBody : Json :=
  .object [("programReference", .object [("beginDate", .string "2023-08-01"),
    ("studentUniqueId", .string "1")])]

/-- The keys of an association subclass in another order give another superclass id. -/
theorem association_order_separates :
    IsResourceOf programApiSchema "Ed-Fi" titleProgramSchema ∧
      (∃ identityPathOrder, identityPathOrderForReference programApiSchema "Ed-Fi"
          "GeneralStudentProgramAssociation" = .ok identityPathOrder ∧
        programProperty.base.pathOrder.Perm identityPathOrder) ∧
      @validateEqualityConstraints jsonPaths titleProgramSchema titleProgramBody = [] ∧
      ∃ identity superclassInfo reference,
        @extractDocumentIdentity jsonPaths titleProgramSchema titleProgramBody = .ok identity ∧
        deriveSuperclassInfoFrom titleProgramSchema identity = .ok (some superclassInfo) ∧
        @extractDocumentReferences jsonPaths programApiSchema evaluationSchema evaluationBody =
          .ok [reference] ∧
        (reference.projectName, reference.resourceName) =
          (superclassInfo.projectName, superclassInfo.resourceName) ∧
        reference.documentIdentity.Perm superclassInfo.documentIdentity ∧
        @getMeadowlarkIdForDocumentReference runtime reference ≠
          @getMeadowlarkIdForSuperclassInfo runtime superclassInfo := by
  refine ⟨⟨_, rfl, rfl⟩, ⟨_, rfl, List.Perm.refl _⟩, rfl,
    [("studentUniqueId", .string "1"), ("beginDate", .string "2023-08-01")],
    ⟨[("studentUniqueId", .string "1"), ("beginDate", .string "2023-08-01")], "Ed-Fi",
      "GeneralStudentProgramAssociation"⟩,
    ⟨"Ed-Fi", "GeneralStudentProgramAssociation", false,
      [("beginDate", .string "2023-08-01"), ("studentUniqueId", .string "1")]⟩,
    ?_, rfl, ?_, rfl, List.Perm.swap .., ?_⟩
  · decide +kernel
  · decide +kernel
  · decide +kernel

end Sample
end Meadowlark.Core.Extraction
