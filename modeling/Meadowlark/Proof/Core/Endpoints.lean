import Meadowlark.Proof.Core.EntryPoint

namespace Meadowlark.Core
open Systems

section Endpoints
variable [DocumentProcessing] {apiSchema : ApiSchema} {pathComponents : PathComponents}

/-- The endpoint is found, and this is what it stands for. -/
def Resolves (apiSchema : ApiSchema) (pathComponents : PathComponents)
    (resourceSchema : ResourceSchema) (resourceInfo : ResourceInfo) : Prop :=
  findResourceSchema apiSchema pathComponents = .ok (some resourceSchema) ∧
    resourceInfo = resourceInfoFrom (findProjectSchema apiSchema pathComponents.projectNamespace)
      resourceSchema

/-- The namespace is that of a project, which has nothing under the name of the endpoint. -/
def Unlisted (apiSchema : ApiSchema) (pathComponents : PathComponents) : Prop :=
  ∃ projectSchema,
    apiSchema.projectSchemas.property pathComponents.projectNamespace = some projectSchema ∧
      projectSchema.resourceSchemas.property pathComponents.endpointName = none

/-- What is found belongs to a project, or every object inherits it. -/
theorem Resolves.cases {resourceSchema : ResourceSchema} {resourceInfo : ResourceInfo}
    (resolves : Resolves apiSchema pathComponents resourceSchema resourceInfo) :
    (∃ projectSchema,
      apiSchema.projectSchemas.property pathComponents.projectNamespace = some projectSchema ∧
      projectSchema.resourceSchemas.property pathComponents.endpointName = some resourceSchema ∧
      resourceInfo = resourceInfoFrom projectSchema resourceSchema) ∨
    (apiSchema.projectSchemas.property pathComponents.projectNamespace = none ∧
      DocumentProcessing.prototypeResourceSchema pathComponents.endpointName =
        some resourceSchema) := by
  obtain ⟨found, described⟩ := resolves
  unfold findResourceSchema findProjectSchema at found
  unfold findProjectSchema at described
  cases project : apiSchema.projectSchemas.property pathComponents.projectNamespace with
  | none =>
      rw [project] at found
      split at found
      · cases found
      · exact Or.inr ⟨rfl, Except.ok.inj found⟩
  | some projectSchema =>
      rw [project] at found described
      rw [if_neg (by simp)] at found
      exact Or.inl ⟨projectSchema, rfl, Except.ok.inj found, described⟩

/-- What an empty object inherits is no schema, so that no document can be validated by it. -/
def RefusesInherited : Prop :=
  ∀ endpointName resourceSchema,
    DocumentProcessing.prototypeResourceSchema endpointName = some resourceSchema →
      ∀ parsedBody isUpdate verdict,
        DocumentProcessing.validateDocument resourceSchema parsedBody isUpdate ≠ .ok verdict

/-- The resource of an accepted document belongs to a project of the schema. -/
theorem Resolves.known {pathComponents : PathComponents} {resourceSchema : ResourceSchema}
    {resourceInfo : ResourceInfo} (inherited : RefusesInherited)
    (resolves : Resolves apiSchema pathComponents resourceSchema resourceInfo)
    {parsedBody : Json} {isUpdate : Bool} {verdict : Option Json × Json}
    (valid : DocumentProcessing.validateDocument resourceSchema parsedBody isUpdate = .ok verdict) :
    ∃ projectSchema,
      apiSchema.projectSchemas.property pathComponents.projectNamespace = some projectSchema ∧
      projectSchema.resourceSchemas.property pathComponents.endpointName = some resourceSchema ∧
      resourceInfo = resourceInfoFrom projectSchema resourceSchema := by
  rcases resolves.cases with ⟨projectSchema, project, resource, described⟩ | ⟨-, found⟩
  · exact ⟨projectSchema, project, resource, described⟩
  · exact absurd valid (inherited _ _ found _ _ _)

theorem Unlisted.unresolved (unlisted : Unlisted apiSchema pathComponents)
    {resourceSchema : ResourceSchema} {resourceInfo : ResourceInfo} :
    ¬ Resolves apiSchema pathComponents resourceSchema resourceInfo := by
  obtain ⟨projectSchema, project, missing⟩ := unlisted
  intro resolves
  rcases resolves.cases with ⟨other, also, found, -⟩ | ⟨unknown, -⟩
  · rw [project] at also
    cases also
    rw [missing] at found
    cases found
  · rw [project] at unknown
    cases unknown

variable {frontendRequest : FrontendRequest}

/-- A request with a known endpoint passes the validation of endpoints. -/
theorem endpointValidation_resolves {resourceSchema : ResourceSchema} {resourceInfo : ResourceInfo}
    (resolves : Resolves frontendRequest.middleware.apiSchema
      frontendRequest.middleware.pathComponents resourceSchema resourceInfo) :
    ∃ headerMetadata, endpointValidation ⟨frontendRequest, none⟩ =
      .ok (continueWith frontendRequest
        { frontendRequest.middleware with
          resourceSchema := resourceSchema
          resourceInfo := resourceInfo
          headerMetadata := headerMetadata }) := by
  obtain ⟨found, rfl⟩ := resolves
  unfold endpointValidation validateEndpoint matchResourceSchema
  dsimp only
  rw [found]
  exact ⟨_, rfl⟩

/-- In a known project another endpoint may be suggested. -/
theorem matchResourceSchema_unlisted (unlisted : Unlisted apiSchema pathComponents) :
    matchResourceSchema apiSchema pathComponents = .ok .nothing ∨
      ∃ suggestion, matchResourceSchema apiSchema pathComponents = .ok (.suggestion suggestion) := by
  obtain ⟨projectSchema, project, missing⟩ := unlisted
  have known : findProjectSchema apiSchema pathComponents.projectNamespace = projectSchema := by
    unfold findProjectSchema
    rw [project]
    rfl
  cases suggested : DocumentProcessing.didYouMean pathComponents.endpointName
      projectSchema.resourceSchemas.keys with
  | none =>
      left
      unfold matchResourceSchema findResourceSchema validEndpointNamesFor
      rw [known, project, missing, if_neg (by simp)]
      simp [bind, Except.bind, pure, Except.pure, suggested]
  | some suggestion =>
      right
      refine ⟨suggestion, ?_⟩
      unfold matchResourceSchema findResourceSchema validEndpointNamesFor
      rw [known, project, missing, if_neg (by simp)]
      simp [bind, Except.bind, pure, Except.pure, suggested]

/-- An endpoint that is not in a known project is answered. -/
theorem endpointValidation_unlisted
    (unlisted : Unlisted frontendRequest.middleware.apiSchema
      frontendRequest.middleware.pathComponents) :
    ∃ frontendResponse, frontendResponse.statusCode = 404 ∧
      endpointValidation ⟨frontendRequest, none⟩ =
        .ok (respondWith frontendRequest frontendResponse) := by
  unfold endpointValidation validateEndpoint
  dsimp only
  rcases matchResourceSchema_unlisted unlisted with matched | ⟨suggestion, matched⟩
  · rw [matched]
    exact ⟨_, rfl, rfl⟩
  · rw [matched]
    exact ⟨_, rfl, rfl⟩

/-- Otherwise the validation throws. -/
theorem endpointValidation_throws
    (listed : ¬ Unlisted frontendRequest.middleware.apiSchema
      frontendRequest.middleware.pathComponents)
    (unresolved : ∀ resourceSchema resourceInfo, ¬ Resolves frontendRequest.middleware.apiSchema
      frontendRequest.middleware.pathComponents resourceSchema resourceInfo) :
    ∃ error, endpointValidation ⟨frontendRequest, none⟩ = .error error := by
  unfold endpointValidation validateEndpoint matchResourceSchema
  dsimp only
  cases found : findResourceSchema frontendRequest.middleware.apiSchema
      frontendRequest.middleware.pathComponents with
  | error error => exact ⟨error, rfl⟩
  | ok resource =>
      cases resource with
      | some resourceSchema => exact absurd ⟨found, rfl⟩ (unresolved resourceSchema _)
      | none =>
          unfold validEndpointNamesFor
          cases project : frontendRequest.middleware.apiSchema.projectSchemas.property
              frontendRequest.middleware.pathComponents.projectNamespace with
          | none => exact ⟨_, rfl⟩
          | some projectSchema =>
              unfold findResourceSchema findProjectSchema at found
              rw [project, if_neg (by simp)] at found
              exact absurd ⟨projectSchema, project, Except.ok.inj found⟩ listed

/-- A request that passes has a known endpoint, which is all that it gains. -/
theorem endpointValidation_passed {model : MiddlewareModel} {validated : FrontendRequest}
    (done : endpointValidation model = .ok ⟨validated, none⟩) :
    model.frontendResponse = none ∧
      Resolves model.frontendRequest.middleware.apiSchema
        model.frontendRequest.middleware.pathComponents validated.middleware.resourceSchema
        validated.middleware.resourceInfo ∧
      validated.middleware.apiSchema = model.frontendRequest.middleware.apiSchema ∧
      validated.middleware.pathComponents = model.frontendRequest.middleware.pathComponents := by
  obtain ⟨frontendRequest, posted⟩ := model
  cases posted with
  | some frontendResponse => cases done
  | none =>
      refine ⟨rfl, ?_⟩
      by_cases resolved : ∃ resourceSchema resourceInfo,
          Resolves frontendRequest.middleware.apiSchema
            frontendRequest.middleware.pathComponents resourceSchema resourceInfo
      · obtain ⟨resourceSchema, resourceInfo, resolves⟩ := resolved
        obtain ⟨headerMetadata, passed⟩ := endpointValidation_resolves resolves
        rw [passed] at done
        cases done
        exact ⟨resolves, rfl, rfl⟩
      · by_cases unlisted : Unlisted frontendRequest.middleware.apiSchema
            frontendRequest.middleware.pathComponents
        · obtain ⟨frontendResponse, -, refused⟩ := endpointValidation_unlisted unlisted
          rw [refused] at done
          cases done
        · obtain ⟨error, thrown⟩ := endpointValidation_throws unlisted
            fun resourceSchema resourceInfo resolves =>
              resolved ⟨resourceSchema, resourceInfo, resolves⟩
          rw [thrown] at done
          cases done

/-- A response of the validation is that to an unlisted endpoint. -/
theorem endpointValidation_posted {validated : FrontendRequest} {frontendResponse : FrontendResponse}
    (answered : endpointValidation ⟨frontendRequest, none⟩ =
      .ok ⟨validated, some frontendResponse⟩) :
    Unlisted frontendRequest.middleware.apiSchema frontendRequest.middleware.pathComponents ∧
      frontendResponse.statusCode = 404 := by
  by_cases unlisted : Unlisted frontendRequest.middleware.apiSchema
      frontendRequest.middleware.pathComponents
  · obtain ⟨other, missing, refused⟩ := endpointValidation_unlisted unlisted
    rw [refused] at answered
    cases answered
    exact ⟨unlisted, missing⟩
  · by_cases resolved : ∃ resourceSchema resourceInfo,
        Resolves frontendRequest.middleware.apiSchema frontendRequest.middleware.pathComponents
          resourceSchema resourceInfo
    · obtain ⟨resourceSchema, resourceInfo, resolves⟩ := resolved
      obtain ⟨headerMetadata, passed⟩ := endpointValidation_resolves resolves
      rw [passed] at answered
      cases answered
    · obtain ⟨error, thrown⟩ := endpointValidation_throws unlisted
        fun resourceSchema resourceInfo resolves =>
          resolved ⟨resourceSchema, resourceInfo, resolves⟩
      rw [thrown] at answered
      cases answered

end Endpoints

section Writes
variable [NodeRuntime] [DocumentProcessing] {model : MiddlewareModel} {validated : FrontendRequest}

/-- What a middleware after the validation of the endpoint leaves alone. -/
structure KeepsEndpoint (frontendRequest validated : FrontendRequest) : Prop where
  apiSchema : validated.middleware.apiSchema = frontendRequest.middleware.apiSchema
  pathComponents : validated.middleware.pathComponents = frontendRequest.middleware.pathComponents
  resourceSchema : validated.middleware.resourceSchema = frontendRequest.middleware.resourceSchema
  resourceInfo : validated.middleware.resourceInfo = frontendRequest.middleware.resourceInfo

omit [NodeRuntime] [DocumentProcessing] in
theorem KeepsEndpoint.trans {first second third : FrontendRequest}
    (before : KeepsEndpoint first second) (after : KeepsEndpoint second third) :
    KeepsEndpoint first third where
  apiSchema := after.apiSchema.trans before.apiSchema
  pathComponents := after.pathComponents.trans before.pathComponents
  resourceSchema := after.resourceSchema.trans before.resourceSchema
  resourceInfo := after.resourceInfo.trans before.resourceInfo

omit [NodeRuntime] in
/-- A document that passes is a document of a resource schema that does not refuse all of them. -/
theorem documentValidation_passed (done : documentValidation model = .ok ⟨validated, none⟩) :
    model.frontendResponse = none ∧ KeepsEndpoint model.frontendRequest validated ∧
      ∃ parsedBody isUpdate verdict, DocumentProcessing.validateDocument
        model.frontendRequest.middleware.resourceSchema parsedBody isUpdate = .ok verdict := by
  obtain ⟨frontendRequest, posted⟩ := model
  cases posted with
  | some frontendResponse => cases done
  | none =>
      obtain ⟨⟨error, parsedBody⟩, valid, built⟩ := ok_of_bind done
      cases error with
      | some error => cases built
      | none =>
          cases built
          exact ⟨rfl, ⟨rfl, rfl, rfl, rfl⟩, _, _, _, valid⟩

omit [NodeRuntime] in
theorem equalityConstraintValidation_passed
    (done : equalityConstraintValidation model = .ok ⟨validated, none⟩) :
    model.frontendResponse = none ∧ KeepsEndpoint model.frontendRequest validated := by
  obtain ⟨frontendRequest, posted⟩ := model
  cases posted with
  | some frontendResponse => cases done
  | none =>
      obtain ⟨validationFailures, -, built⟩ := ok_of_bind done
      split at built
      · cases built
        exact ⟨rfl, rfl, rfl, rfl, rfl⟩
      · cases built

omit [NodeRuntime] in
theorem documentInfoExtraction_passed
    (done : documentInfoExtraction model = .ok ⟨validated, none⟩) :
    model.frontendResponse = none ∧ KeepsEndpoint model.frontendRequest validated := by
  obtain ⟨frontendRequest, posted⟩ := model
  cases posted with
  | some frontendResponse => cases done
  | none =>
      obtain ⟨documentInfo, -, built⟩ := ok_of_bind done
      cases documentInfo with
      | none => cases built
      | some documentInfo =>
          cases built
          exact ⟨rfl, rfl, rfl, rfl, rfl⟩

omit [DocumentProcessing] in
theorem parseBody_passed {frontendRequest : FrontendRequest}
    (done : parseBody model = ⟨frontendRequest, none⟩) :
    model.frontendResponse = none ∧ KeepsEndpoint model.frontendRequest frontendRequest := by
  obtain ⟨earlier, posted⟩ := model
  unfold parseBody at done
  cases posted with
  | some frontendResponse => cases done
  | none =>
      dsimp only at done
      split at done
      · cases done
      · split at done
        · cases done
        · cases done
          exact ⟨rfl, rfl, rfl, rfl, rfl⟩

omit [DocumentProcessing] in
theorem parsePath_passed {frontendRequest parsed : FrontendRequest}
    (done : parsePath ⟨frontendRequest, none⟩ = ⟨parsed, none⟩) :
    pathComponentsFrom frontendRequest.path = some parsed.middleware.pathComponents ∧
      parsed.middleware.apiSchema = frontendRequest.middleware.apiSchema := by
  unfold parsePath at done
  dsimp only at done
  split at done
  · cases done
  · rename_i pathComponents read
    split at done
    · cases done
      exact ⟨read, rfl⟩
    · cases done

/-- A write that passes all middlewares has a path whose endpoint is known, and its resource schema
accepts documents. -/
theorem validateWrite_passed {frontendRequest : FrontendRequest}
    (done : validateWrite ⟨frontendRequest, none⟩ = .ok ⟨validated, none⟩) :
    pathComponentsFrom frontendRequest.path = some validated.middleware.pathComponents ∧
      validated.middleware.apiSchema = frontendRequest.middleware.apiSchema ∧
      Resolves validated.middleware.apiSchema validated.middleware.pathComponents
        validated.middleware.resourceSchema validated.middleware.resourceInfo ∧
      ∃ parsedBody isUpdate verdict, DocumentProcessing.validateDocument
        validated.middleware.resourceSchema parsedBody isUpdate = .ok verdict := by
  obtain ⟨⟨first, firstPosted⟩, endpointDone, rest⟩ := ok_of_bind done
  obtain ⟨⟨second, secondPosted⟩, documentDone, rest⟩ := ok_of_bind rest
  obtain ⟨⟨third, thirdPosted⟩, constraintsDone, rest⟩ := ok_of_bind rest
  obtain ⟨thirdOpen, thirdKept⟩ := documentInfoExtraction_passed rest
  obtain rfl : thirdPosted = none := thirdOpen
  obtain ⟨secondOpen, secondKept⟩ := equalityConstraintValidation_passed constraintsDone
  obtain rfl : secondPosted = none := secondOpen
  obtain ⟨firstOpen, firstKept, valid⟩ := documentValidation_passed documentDone
  obtain rfl : firstPosted = none := firstOpen
  have kept := (firstKept.trans secondKept).trans thirdKept
  obtain ⟨bodyOpen, resolves, sameSchema, samePath⟩ := endpointValidation_passed endpointDone
  cases bodied : parseBody (parsePath ⟨frontendRequest, none⟩) with
  | mk parsedBody posted =>
      rw [bodied] at bodyOpen resolves sameSchema samePath
      obtain rfl : posted = none := bodyOpen
      obtain ⟨pathOpen, bodyKept⟩ := parseBody_passed bodied
      cases parsed : parsePath ⟨frontendRequest, none⟩ with
      | mk parsedPath posted =>
          rw [parsed] at pathOpen bodyKept
          obtain rfl : posted = none := pathOpen
          obtain ⟨read, pathSchema⟩ := parsePath_passed parsed
          have schemaOf : validated.middleware.apiSchema = parsedBody.middleware.apiSchema :=
            kept.apiSchema.trans sameSchema
          have pathOf : validated.middleware.pathComponents =
              parsedBody.middleware.pathComponents := kept.pathComponents.trans samePath
          refine ⟨?_, ?_, ?_, ?_⟩
          · rw [pathOf, bodyKept.pathComponents]
            exact read
          · rw [schemaOf, bodyKept.apiSchema]
            exact pathSchema
          · rw [schemaOf, pathOf, kept.resourceSchema, kept.resourceInfo]
            exact resolves
          · rw [kept.resourceSchema]
            exact valid

end Writes

end Meadowlark.Core
