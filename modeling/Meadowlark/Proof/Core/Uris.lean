import Meadowlark.Proof.Core.PathGrammar
import Meadowlark.Proof.Core.Confinement
import Meadowlark.Proof.Core.Endpoints
import Meadowlark.Systems.Selections

namespace Meadowlark.Core
open Systems

section Paths
variable [NodeRuntime] {projectShortVersion projectNamespace endpointName : String}
  {documentUuid : DocumentUuid} {frontendRequest : FrontendRequest}

/-- A version 4 uuid as it is generated for a document. -/
structure GeneratedUuid (documentUuid : DocumentUuid) : Prop where
  segment : IsSegment documentUuid.value
  wellFormed : isDocumentUuidWellFormed documentUuid

/-- The path of a document is read as its parts. -/
theorem parsePath_document (version : IsSegment projectShortVersion)
    (space : IsSegment projectNamespace) (endpoint : IsSegment endpointName)
    (generated : GeneratedUuid documentUuid)
    (path : frontendRequest.path = collectionPath projectShortVersion projectNamespace endpointName ++
      "/" ++ documentUuid.value) :
    parsePath ⟨frontendRequest, none⟩ = continueWith frontendRequest
      { frontendRequest.middleware with
        pathComponents :=
          { projectShortVersion := projectShortVersion
            projectNamespace := NodeRuntime.toLowerCase projectNamespace
            endpointName := decapitalize endpointName
            documentUuid := some documentUuid } } := by
  have read : matchDocumentUuid [documentUuid.value.toList] = some documentUuid :=
    matchDocumentUuid_iff.mpr (.last generated.segment.filled)
  have filled : projectShortVersion.toList ≠ [] ∧ projectNamespace.toList ≠ [] ∧
      endpointName.toList ≠ [] :=
    @startsTriple_of_segments [documentUuid.value.toList] _ _ _ version space endpoint
  apply parsePath_wellFormed
  · rw [pathComponentsFrom, path, splitOn_documentPath version space endpoint
      generated.segment.unslashed, List.tail_cons, matchSegments, if_pos filled, read]
    simp
  · exact generated.wellFormed

/-- The version of a path that is read is one of its segments. -/
theorem projectShortVersion_segment {path : String} {pathComponents : PathComponents}
    (read : pathComponentsFrom path = some pathComponents) :
    IsSegment pathComponents.projectShortVersion := by
  have unslashed := splitOn_unslashed path.toList
  cases split : path.toList.splitOn '/' with
  | nil => exact absurd split (List.splitOn_ne_nil '/' _)
  | cons before segments =>
      rw [pathComponentsFrom, split, List.tail_cons] at read
      rw [split] at unslashed
      rcases matchSegments_cases segments with ⟨unmatched, -⟩ |
        ⟨skipped, version, space, endpoint, rest, triple, matched⟩
      · rw [unmatched] at read
        cases read
      · rw [matched] at read
        cases read
        have inside : version ∈ before :: segments := by
          rw [triple.split]
          simp
        have filled := triple.starts.1
        exact ⟨by simpa [componentsOf] using filled,
          by simpa [componentsOf] using unslashed version inside⟩

end Paths

section Schemas
variable [NodeRuntime] [DocumentProcessing] {apiSchema : ApiSchema}

/-- Namespaces are lower case, and endpoint names are decapitalized. -/
structure KeysReadBack (apiSchema : ApiSchema) : Prop where
  namespaces {projectNamespace : String} {projectSchema : ProjectSchema}
    (project : apiSchema.projectSchemas.property projectNamespace = some projectSchema) :
    NodeRuntime.toLowerCase projectNamespace = projectNamespace
  endpoints {projectNamespace endpointName : String} {projectSchema : ProjectSchema}
    {resourceSchema : ResourceSchema}
    (project : apiSchema.projectSchemas.property projectNamespace = some projectSchema)
    (resource : projectSchema.resourceSchemas.property endpointName = some resourceSchema) :
    decapitalize endpointName = endpointName

/-- Namespaces and endpoint names can stand in a path. -/
structure KeysAreSegments (apiSchema : ApiSchema) : Prop where
  namespaces {projectNamespace : String} {projectSchema : ProjectSchema}
    (project : apiSchema.projectSchemas.property projectNamespace = some projectSchema) :
    IsSegment projectNamespace
  endpoints {projectNamespace endpointName : String} {projectSchema : ProjectSchema}
    {resourceSchema : ResourceSchema}
    (project : apiSchema.projectSchemas.property projectNamespace = some projectSchema)
    (resource : projectSchema.resourceSchemas.property endpointName = some resourceSchema) :
    IsSegment endpointName

/-- The mappings of the names invert the keys of the projects and of their resources. -/
structure NamesInvertKeys (apiSchema : ApiSchema) : Prop where
  projects {projectName projectNamespace : String}
    (mapped : apiSchema.projectNameMapping.property projectName = some projectNamespace) :
    ∃ projectSchema, apiSchema.projectSchemas.property projectNamespace = some projectSchema ∧
      projectSchema.projectName = projectName
  resources {projectNamespace resourceName endpointName : String} {projectSchema : ProjectSchema}
    (project : apiSchema.projectSchemas.property projectNamespace = some projectSchema)
    (mapped : projectSchema.resourceNameMapping.property resourceName = some endpointName) :
    ∃ resourceSchema, projectSchema.resourceSchemas.property endpointName = some resourceSchema ∧
      resourceSchema.resourceName = resourceName

/-- A request for the uri passes the parser of the path and the validation of the endpoint, with the
uuid and the resource. -/
def LeadsTo (apiSchema : ApiSchema) (uri : String) (resourceInfo : ResourceInfo)
    (documentUuid : DocumentUuid) : Prop :=
  ∀ frontendRequest : FrontendRequest, frontendRequest.path = uri →
    frontendRequest.middleware.apiSchema = apiSchema →
      ∃ validated, endpointValidation (parsePath ⟨frontendRequest, none⟩) = .ok ⟨validated, none⟩ ∧
        validated.middleware.pathComponents.documentUuid = some documentUuid ∧
        validated.middleware.resourceInfo = resourceInfo

/-- The uri of a known endpoint leads to its resource. -/
theorem leadsTo_resourceUriFrom {pathComponents : PathComponents} {documentUuid : DocumentUuid}
    {projectSchema : ProjectSchema} {resourceSchema : ResourceSchema}
    (readBack : KeysReadBack apiSchema) (segments : KeysAreSegments apiSchema)
    (version : IsSegment pathComponents.projectShortVersion)
    (project : apiSchema.projectSchemas.property pathComponents.projectNamespace =
      some projectSchema)
    (resource : projectSchema.resourceSchemas.property pathComponents.endpointName =
      some resourceSchema)
    (generated : GeneratedUuid documentUuid) :
    LeadsTo apiSchema (resourceUriFrom pathComponents documentUuid)
      (resourceInfoFrom projectSchema resourceSchema) documentUuid := by
  rintro frontendRequest path rfl
  have parsed := parsePath_document version (segments.namespaces project)
    (segments.endpoints project resource) generated path
  rw [readBack.namespaces project, readBack.endpoints project resource] at parsed
  rw [parsed]
  have known : findProjectSchema frontendRequest.middleware.apiSchema
      pathComponents.projectNamespace = projectSchema := by
    unfold findProjectSchema
    rw [project]
    rfl
  have resolves : Resolves frontendRequest.middleware.apiSchema
      { pathComponents with documentUuid := some documentUuid } resourceSchema
      (resourceInfoFrom projectSchema resourceSchema) := by
    unfold Resolves findResourceSchema
    dsimp only
    rw [known, project, resource]
    exact ⟨rfl, rfl⟩
  obtain ⟨headerMetadata, passed⟩ := @endpointValidation_resolves _
    { frontendRequest with
      middleware :=
        { frontendRequest.middleware with
          pathComponents := { pathComponents with documentUuid := some documentUuid } } } _ _ resolves
  exact ⟨_, passed, rfl, rfl⟩

end Schemas

section Locations
variable {frontendRequest : FrontendRequest} {frontendResponse : FrontendResponse}

/-- The uuid of the document that an upsert has stored. -/
def UpsertResult.documentUuid : UpsertResult → Option DocumentUuid
  | .insertSuccess newDocumentUuid => some newDocumentUuid
  | .updateSuccess existingDocumentUuid => some existingDocumentUuid
  | _ => none

def FrontendResponse.location (frontendResponse : FrontendResponse) : Option String :=
  frontendResponse.headers.bind (·.lookup LOCATION_HEADER_NAME)

theorem lookup_withHeader (headers : Headers) (name value : String) :
    (withHeader headers name value).lookup name = some value := by
  unfold withHeader
  induction headers with
  | nil => simp
  | cons header rest ih =>
      obtain ⟨other, content⟩ := header
      by_cases same : other = name
      · simpa [same] using ih
      · have apart : (name == other) = false := by simpa using Ne.symm same
        simpa [same, List.lookup_cons, apart] using ih

/-- The location of a stored document is built from its uuid and the path of the request. -/
theorem upsertResponse_location {result : UpsertResult}
    (built : upsertResponse frontendRequest result = .ok frontendResponse)
    (success : frontendResponse.success) :
    ∃ documentUuid, result.documentUuid = some documentUuid ∧ frontendResponse.location =
      some (resourceUriFrom frontendRequest.middleware.pathComponents documentUuid) := by
  have succeeded := upsertResponse_success built success
  cases result with
  | insertSuccess newDocumentUuid =>
      cases built
      exact ⟨newDocumentUuid, rfl, lookup_withHeader _ _ _⟩
  | updateSuccess existingDocumentUuid =>
      cases built
      exact ⟨existingDocumentUuid, rfl, lookup_withHeader _ _ _⟩
  | _ => cases succeeded

variable [NodeRuntime] [DocumentProcessing] {Contents Memory : Type}
  {documentStore : DocumentStore Contents} {services : Services Memory} {contents : Contents}
  {memory following : Memory} {queryHandler : QueryHandlerPlugin} {validated : FrontendRequest}

/-- An upsert that succeeds is answered with the location of the document that has been stored. -/
theorem run_upsert_location
    (admitted : EntryPoint.upsert.Admits services frontendRequest memory validated following)
    (responded : (documentStore.run services (EntryPoint.upsert.run queryHandler frontendRequest)
      (contents, memory)).1 = .ok frontendResponse) (success : frontendResponse.success) :
    ∃ result documentUuid, (documentStore.upsertDocument (upsertRequestFrom validated)
        (guardAnswer documentStore validated contents).2).1 = .ok result ∧
      result.documentUuid = some documentUuid ∧ frontendResponse.location =
        some (resourceUriFrom validated.middleware.pathComponents documentUuid) := by
  have guards : EntryPoint.upsert ≠ .query := by decide
  rw [run_admitted admitted, run_finish guards] at responded
  have finished := caught_success responded success
  cases checked : guardAnswer documentStore validated contents with
  | mk outcome after =>
      rw [checked] at finished
      cases outcome with
      | error error => cases finished
      | ok answer =>
          dsimp only at finished
          split at finished
          · rw [@run_planned _ _ _ documentStore services after following queryHandler .upsert
              validated _ rfl] at finished
            obtain ⟨-, result, answered, -, built⟩ :=
              announced_response.mp (caught_success finished success)
            obtain ⟨documentUuid, stored, located⟩ := upsertResponse_location built success
            exact ⟨result, documentUuid, answered, stored, located⟩
          · obtain rfl := Except.ok.inj finished
            exact absurd success (not_success (rejection_error answer))

end Locations

section Claim
variable [NodeRuntime] [DocumentProcessing] {apiSchema : ApiSchema}

/-- The location that an upsert answers leads to the stored document. -/
def LocationLeadsBack {Contents Memory : Type} (apiSchema : ApiSchema)
    (documentStore : DocumentStore Contents) (services : Services Memory) (contents : Contents)
    (memory : Memory) (queryHandler : QueryHandlerPlugin) (frontendRequest : FrontendRequest) :
    Prop :=
  ∀ validated following frontendResponse,
    EntryPoint.upsert.Admits services frontendRequest memory validated following →
    validated.middleware.apiSchema = apiSchema →
    (documentStore.run services (EntryPoint.upsert.run queryHandler frontendRequest)
      (contents, memory)).1 = .ok frontendResponse →
    frontendResponse.success →
      ∃ result documentUuid uri, (documentStore.upsertDocument (upsertRequestFrom validated)
          (guardAnswer documentStore validated contents).2).1 = .ok result ∧
        result.documentUuid = some documentUuid ∧ frontendResponse.location = some uri ∧
        (GeneratedUuid documentUuid →
          LeadsTo apiSchema uri validated.middleware.resourceInfo documentUuid)

omit [NodeRuntime] [DocumentProcessing] in
/-- The path of a uri behind the stage, which is not part of the path of a request. -/
def withoutStage (stage uri : String) : String :=
  if stage ≠ "" then String.ofList (uri.toList.drop (stage.length + 1)) else uri

omit [NodeRuntime] [DocumentProcessing] in
theorem withoutStage_staged (stage uri : String) :
    withoutStage stage (if stage ≠ "" then "/" ++ stage ++ uri else uri) = uri := by
  unfold withoutStage
  split
  · have staged : ("/" ++ stage ++ uri).toList = ('/' :: stage.toList) ++ uri.toList := by simp
    have length : ('/' :: stage.toList).length = stage.length + 1 :=
      congrArg Nat.succ String.length_toList
    rw [staged, List.drop_left' length, String.ofList_toList]
  · rfl

/-- The uri leads to the document, whose resource is known by its names. -/
def LeadsToDocument (apiSchema : ApiSchema) (document : ReferringDocumentInfo) (uri : String) :
    Prop :=
  ∃ resourceInfo, resourceInfo.projectName = document.projectName ∧
    resourceInfo.resourceName = document.resourceName ∧
    LeadsTo apiSchema uri resourceInfo document.documentUuid

/-- The uris of blocking documents lead to these documents one by one. -/
def UrisLeadBack (apiSchema : ApiSchema) (frontendRequest : FrontendRequest)
    (referringDocumentInfo : List ReferringDocumentInfo) : Prop :=
  ∀ uris, blockingDocumentsToUris frontendRequest referringDocumentInfo = .ok uris →
    List.Forall₂ (fun document uri => GeneratedUuid document.documentUuid →
      LeadsToDocument apiSchema document (withoutStage frontendRequest.stage uri))
      referringDocumentInfo uris

omit [NodeRuntime] [DocumentProcessing] in
theorem versionAbbreviation_segment (resourceVersion : String) :
    IsSegment (versionAbbreviationFor resourceVersion) :=
  ⟨(by decide : "3.3b" ≠ ""), (by decide : '/' ∉ "3.3b".toList)⟩

/-- The uri of one blocking document leads to it. -/
theorem blockingDocumentUri_leads {frontendRequest : FrontendRequest}
    {document : ReferringDocumentInfo} {uri : String} (readBack : KeysReadBack apiSchema)
    (segments : KeysAreSegments apiSchema) (names : NamesInvertKeys apiSchema)
    (schema : frontendRequest.middleware.apiSchema = apiSchema)
    (built : blockingDocumentUri frontendRequest document = .ok uri)
    (generated : GeneratedUuid document.documentUuid) :
    LeadsToDocument apiSchema document (withoutStage frontendRequest.stage uri) := by
  subst schema
  obtain ⟨projectNamespace, mapped, rest⟩ := ok_of_bind built
  obtain ⟨endpointName, named, rest⟩ := ok_of_bind rest
  unfold projectNamespaceFor at mapped
  split at mapped
  · rename_i found
    cases mapped
    obtain ⟨projectSchema, project, projectNamed⟩ := names.projects found
    unfold endpointNameFor at named
    rw [project] at named
    dsimp only at named
    split at named
    · rename_i found
      cases named
      obtain ⟨resourceSchema, resource, resourceNamed⟩ := names.resources project found
      have leads := @leadsTo_resourceUriFrom _ _ _
        ⟨versionAbbreviationFor document.resourceVersion, projectNamespace, endpointName, none⟩ _ _ _
        readBack segments (versionAbbreviation_segment document.resourceVersion) project resource generated
      refine ⟨resourceInfoFrom projectSchema resourceSchema, projectNamed, resourceNamed, ?_⟩
      have same : withoutStage frontendRequest.stage uri = resourceUriFrom
          ⟨versionAbbreviationFor document.resourceVersion, projectNamespace, endpointName, none⟩
          document.documentUuid := by
        obtain rfl := Except.ok.inj rest
        exact withoutStage_staged _ _
      rw [same]
      exact leads
    · cases named
  · cases mapped

/-- Every uri that is issued for a document leads back to it. -/
theorem issued_uris_lead_back (inherited : RefusesInherited) (readBack : KeysReadBack apiSchema)
    (segments : KeysAreSegments apiSchema) (names : NamesInvertKeys apiSchema) :
    (∀ {Contents Memory : Type} (documentStore : DocumentStore Contents)
        (services : Services Memory) contents memory queryHandler frontendRequest,
      LocationLeadsBack apiSchema documentStore services contents memory queryHandler
        frontendRequest) ∧
    ∀ frontendRequest referringDocumentInfo, frontendRequest.middleware.apiSchema = apiSchema →
      UrisLeadBack apiSchema frontendRequest referringDocumentInfo := by
  constructor
  · intro Contents Memory documentStore services contents memory queryHandler frontendRequest
      validated following frontendResponse admitted schema responded success
    obtain ⟨result, documentUuid, answered, stored, located⟩ :=
      run_upsert_location admitted responded success
    refine ⟨result, documentUuid, _, answered, stored, located, fun generated => ?_⟩
    obtain ⟨identified, -, valid⟩ := admitted
    have passed : validateWrite ⟨identified, none⟩ = .ok ⟨validated, none⟩ := valid
    obtain ⟨read, -, resolves, parsedBody, isUpdate, verdict, accepted⟩ :=
      validateWrite_passed passed
    obtain ⟨projectSchema, project, resource, described⟩ := resolves.known inherited accepted
    rw [schema] at project
    rw [described]
    exact leadsTo_resourceUriFrom readBack segments (projectShortVersion_segment read) project
      resource generated
  · intro frontendRequest referringDocumentInfo schema
    induction referringDocumentInfo with
    | nil =>
        intro uris built
        cases built
        exact .nil
    | cons document rest ih =>
        intro uris built
        obtain ⟨uri, later, first, others, rfl⟩ := mapM_cons_ok built
        exact .cons (blockingDocumentUri_leads readBack segments names schema first)
          (ih later others)

end Claim

section Examples
open Sample

/-- A schema with one resource under the given endpoint name. -/
private def schemaWith (endpointName : String) : ApiSchema :=
  let projectSchema : ProjectSchema :=
    { projectName := "Ed-Fi"
      projectVersion := "3.3.1-b"
      resourceSchemas := ⟨[endpointName], fun name =>
        if name = endpointName then some (resourceSchema "School") else none⟩
      resourceNameMapping := ⟨["School"], fun name =>
        if name = "School" then some endpointName else none⟩ }
  { projectSchemas := ⟨["ed-fi"], fun name => if name = "ed-fi" then some projectSchema else none⟩
    projectNameMapping := ⟨["Ed-Fi"], fun name => if name = "Ed-Fi" then some "ed-fi" else none⟩ }

private theorem namesInvertKeys_schemaWith (endpointName : String) :
    NamesInvertKeys (schemaWith endpointName) := by
  constructor
  · intro projectName projectNamespace mapped
    obtain ⟨rfl, same⟩ := Option.ite_none_right_eq_some.mp mapped
    cases same
    exact ⟨_, rfl, rfl⟩
  · intro projectNamespace resourceName other projectSchema project mapped
    obtain ⟨rfl, same⟩ := Option.ite_none_right_eq_some.mp project
    cases same
    obtain ⟨rfl, same⟩ := Option.ite_none_right_eq_some.mp mapped
    cases same
    exact ⟨resourceSchema "School", if_pos rfl, rfl⟩

private theorem keysReadBack_schemaWith {endpointName : String}
    (decapitalized : @decapitalize runtime endpointName = endpointName) :
    @KeysReadBack runtime (schemaWith endpointName) := by
  apply @KeysReadBack.mk runtime
  · intro projectNamespace projectSchema project
    obtain ⟨rfl, -⟩ := Option.ite_none_right_eq_some.mp project
    decide
  · intro projectNamespace other projectSchema _ project resource
    obtain ⟨rfl, same⟩ := Option.ite_none_right_eq_some.mp project
    cases same
    obtain ⟨rfl, -⟩ := Option.ite_none_right_eq_some.mp resource
    exact decapitalized

private def school : ReferringDocumentInfo where
  projectName := "Ed-Fi"
  resourceName := "School"
  resourceVersion := "3.3.1-b"
  documentUuid := documentUuid "000000000001"
  meadowlarkId := ⟨"school"⟩

private theorem generated_school : @GeneratedUuid runtime school.documentUuid :=
  @GeneratedUuid.mk runtime _ ⟨by decide, by decide +kernel⟩ (by decide +kernel)

private def schoolRequest (endpointName path : String) : FrontendRequest :=
  { newFrontendRequest with
    path := path
    stage := "local"
    middleware := { newFrontendRequestMiddleware with apiSchema := schemaWith endpointName } }

/-- The uri of a document under an endpoint name with a slash is read as another endpoint. -/
theorem slashed_endpoint_misread :
    NamesInvertKeys (schemaWith "local/schools") ∧
      @KeysReadBack runtime (schemaWith "local/schools") ∧
      @GeneratedUuid runtime school.documentUuid ∧
      ¬ @UrisLeadBack runtime processing (schemaWith "local/schools")
        (schoolRequest "local/schools" "") [school] := by
  refine ⟨namesInvertKeys_schemaWith _, keysReadBack_schemaWith (by decide +kernel),
    generated_school, fun leads => ?_⟩
  have built : blockingDocumentsToUris (schoolRequest "local/schools" "") [school] = .ok
      ["/local/3.3b/ed-fi/local/schools/00000000-0000-4000-a000-000000000001"] := by rfl
  obtain ⟨leadsBack, -⟩ := List.forall₂_cons.mp (leads _ built)
  obtain ⟨resourceInfo, -, -, leadsTo⟩ := leadsBack generated_school
  obtain ⟨validated, passed, -⟩ :=
    leadsTo (schoolRequest "local/schools" (withoutStage "local" _)) rfl rfl
  have refused : ((@endpointValidation processing (@parsePath runtime
      ⟨schoolRequest "local/schools" (withoutStage "local"
        "/local/3.3b/ed-fi/local/schools/00000000-0000-4000-a000-000000000001"), none⟩)).toOption.bind
          (·.frontendResponse)).isSome = true := by decide +kernel
  rw [passed] at refused
  cases refused

private theorem keysAreSegments_schemaWith {endpointName : String}
    (segment : IsSegment endpointName) : KeysAreSegments (schemaWith endpointName) := by
  constructor
  · intro projectNamespace projectSchema project
    obtain ⟨rfl, -⟩ := Option.ite_none_right_eq_some.mp project
    exact ⟨by decide, by decide⟩
  · intro projectNamespace other projectSchema _ project resource
    obtain ⟨rfl, same⟩ := Option.ite_none_right_eq_some.mp project
    cases same
    obtain ⟨rfl, -⟩ := Option.ite_none_right_eq_some.mp resource
    exact segment

private def schoolServices : Services Int where
  answer
    | .findApiSchema _, time => (.ok (schemaWith "schools"), time)
    | call, time => services.answer call time

/-- A store that gives each document the same uuid. -/
private def singleStore : DocumentStore Unit where
  rejectByOwnershipSecurity _ contents := (.ok .notApplicable, contents)
  upsertDocument _ contents := (.ok (.insertSuccess school.documentUuid), contents)
  updateDocumentById _ contents := (.ok .updateFailureNotExists, contents)
  deleteDocumentById _ contents := (.ok .deleteFailureNotExists, contents)
  getDocumentById _ contents := (.ok .getFailureNotExists, contents)

private def noHandler : QueryHandlerPlugin := ⟨fun _ => pure ⟨.querySuccess, [], none, none⟩⟩

private def postSchoolRequest : FrontendRequest :=
  request "/v3.3b/Ed-Fi/Schools" "first" (some "\x7b\"schoolId\": \"1\"\x7d")

private def postedSchool : Except Exception FrontendResponse :=
  (singleStore.run schoolServices
    (@EntryPoint.run runtime processing noHandler .upsert postSchoolRequest) ((), 1)).1

example : postedSchool.toOption.bind (·.location) =
    some "/v3.3b/ed-fi/schools/00000000-0000-4000-a000-000000000001" := by decide +kernel

/-- The location of a stored school and the uri of a blocking school lead to the school. -/
theorem school_uris_lead_back :
    @LocationLeadsBack runtime processing _ _ (schemaWith "schools") singleStore schoolServices () 1
        noHandler postSchoolRequest ∧
      blockingDocumentsToUris (schoolRequest "schools" "") [school] =
        .ok ["/local/3.3b/ed-fi/schools/00000000-0000-4000-a000-000000000001"] ∧
      @LeadsToDocument runtime processing (schemaWith "schools") school
        "/3.3b/ed-fi/schools/00000000-0000-4000-a000-000000000001" := by
  have plain : @RefusesInherited processing := by
    rintro _ _ ⟨⟩
  obtain ⟨locations, uris⟩ := @issued_uris_lead_back runtime processing _ plain
    (keysReadBack_schemaWith (by decide +kernel))
    (keysAreSegments_schemaWith ⟨by decide, by decide +kernel⟩)
    (namesInvertKeys_schemaWith "schools")
  have built : blockingDocumentsToUris (schoolRequest "schools" "") [school] =
      .ok ["/local/3.3b/ed-fi/schools/00000000-0000-4000-a000-000000000001"] := by rfl
  refine ⟨locations _ _ _ _ _ _, built, ?_⟩
  obtain ⟨leadsBack, -⟩ := List.forall₂_cons.mp (uris (schoolRequest "schools" "") _ rfl _ built)
  have unstaged : withoutStage "local"
      "/local/3.3b/ed-fi/schools/00000000-0000-4000-a000-000000000001" =
        "/3.3b/ed-fi/schools/00000000-0000-4000-a000-000000000001" := by decide +kernel
  rw [← unstaged]
  exact leadsBack generated_school

end Examples
end Meadowlark.Core
