import Meadowlark.Construction.Core.DocumentStore
import Meadowlark.Construction.Core.Extraction

namespace Meadowlark.Core
open Systems

section Reading

/-- The values of each descriptor under its name. -/
abbrev XmlDescriptorData := Mapping String (List Json)

/-- A value that is not an array becomes an array of length 1. -/
def arrayifyScalarObjectValue : Json → List Json
  | .array elements => elements
  | value => [value]

/-- The values under the names inside an element, without its metadata. -/
def groupsFrom (interchangeDescriptorsElement : Json) : List (String × List Json) :=
  (interchangeDescriptorsElement.entries.filter (·.1 ≠ "$")).map fun field =>
    (field.1, arrayifyScalarObjectValue field.2)

/-- A file without the element is skipped.
The element is asked for its metadata by a method of its own, and the characters of a text cannot be
replaced by arrays. -/
def readDescriptorFile (parsedContents : Json) : Except Exception (List (String × List Json)) :=
  if parsedContents = .null then
    .error (typeError "Cannot convert undefined or null to object")
  else
    match parsedContents.field? "InterchangeDescriptors" with
    | none => .ok []
    | some .null =>
        .error (typeError "Cannot read properties of null (reading 'hasOwnProperty')")
    | some (.string text) =>
        if text = "" then .ok []
        else .error (typeError ("Cannot assign to read only property '0' of string '" ++ text ++ "'"))
    | some interchangeDescriptorsElement =>
        if (interchangeDescriptorsElement.field? "hasOwnProperty").isSome then
          .error (typeError "interchangeDescriptorsElement.hasOwnProperty is not a function")
        else .ok (groupsFrom interchangeDescriptorsElement)

/-- The files are given by their parsed contents. -/
def readDescriptors (files : List Json) : Except Exception XmlDescriptorData :=
  files.foldlM (fun result parsedContents => do
    let groups ← readDescriptorFile parsedContents
    pure (result.setAll groups)) Mapping.empty

end Reading

section Loading
variable [NodeRuntime]

/-- A later key that is decapitalized to the same text replaces the value of the earlier one. -/
def decapitalizeKeys (obj : Json) : Json :=
  Json.spread [obj.entries.map fun field => (decapitalize field.1, field.2)]

def newDocumentInfo : DocumentInfo := NoDocumentInfo

omit [NodeRuntime] in
def descriptorDocumentInfoFrom (descriptorDocument : Json) : DocumentInfo :=
  { newDocumentInfo with
    documentIdentity := Extraction.descriptorDocumentIdentityFrom descriptorDocument }

omit [NodeRuntime] in
def isDescriptorName (descriptorName : String) : Bool :=
  "Descriptor".toList.isSuffixOf descriptorName.toList

omit [NodeRuntime] in
/-- A value without one of the properties is skipped. -/
def hasDescriptorProperties (descriptorReference : Json) : Bool :=
  ["Namespace", "CodeValue", "ShortDescription", "Description"].all fun name =>
    (descriptorReference.field? name).isSome

omit [NodeRuntime] in
def descriptorResourceInfo (descriptorName : String) : ResourceInfo where
  projectName := "Ed-Fi"
  resourceName := descriptorName
  resourceVersion := "3.3.1-b"
  isDescriptor := true
  allowIdentityUpdates := false

def descriptorRequestFrom (descriptorName : String) (descriptorReference : Json) : UpsertRequest :=
  let resourceInfo := descriptorResourceInfo descriptorName
  let descriptorDocument := decapitalizeKeys descriptorReference
  let documentInfo := descriptorDocumentInfoFrom descriptorDocument
  { meadowlarkId := meadowlarkIdForDocumentIdentity resourceInfo.toBaseResourceInfo
      documentInfo.documentIdentity
    resourceInfo := resourceInfo
    documentInfo := documentInfo
    edfiDoc := descriptorDocument
    validateDocumentReferencesExist := true
    security := { UndefinedSecurity with authorizationStrategy := .fullAccess }
    traceId := ⟨"-"⟩ }

/-- The result of the upsert is only logged. -/
def loadDescriptorReference (documentStore : DocumentStorePlugin) (descriptorName : String)
    (descriptorReference : Json) : Frontend Unit :=
  if descriptorReference = .null then
    throw (typeError "Cannot convert undefined or null to object")
  else if hasDescriptorProperties descriptorReference then do
    let upsertRequest := descriptorRequestFrom descriptorName descriptorReference
    perform (.publish (.beforeUpsertDocument upsertRequest))
    let upsertResult ← documentStore.upsertDocument upsertRequest
    perform (.publish (.afterUpsertDocument upsertRequest upsertResult))
  else pure ()

def loadParsedDescriptors (documentStore : DocumentStorePlugin) (descriptorData : XmlDescriptorData) :
    Frontend Unit :=
  forM descriptorData.entries fun group =>
    if isDescriptorName group.1 then
      forM group.2 (loadDescriptorReference documentStore group.1)
    else pure ()

def loadDescriptorsFromFile (documentStore : DocumentStorePlugin) (files : List Json) :
    Frontend Unit := do
  let data ← readDescriptors files
  loadParsedDescriptors documentStore data

end Loading

section Supply
variable {Generated Contents : Type}

/-- Every call to the document store takes the next generated value. -/
def suppliedStore (documentStore : Generated → DocumentStore Contents) :
    DocumentStore (Contents × (Nat → Generated)) where
  rejectByOwnershipSecurity frontendRequest world :=
    let (answer, following) :=
      (documentStore (world.2 0)).rejectByOwnershipSecurity frontendRequest world.1
    (answer, (following, world.2 ∘ Nat.succ))
  upsertDocument request world :=
    let (answer, following) := (documentStore (world.2 0)).upsertDocument request world.1
    (answer, (following, world.2 ∘ Nat.succ))
  updateDocumentById request world :=
    let (answer, following) := (documentStore (world.2 0)).updateDocumentById request world.1
    (answer, (following, world.2 ∘ Nat.succ))
  deleteDocumentById request world :=
    let (answer, following) := (documentStore (world.2 0)).deleteDocumentById request world.1
    (answer, (following, world.2 ∘ Nat.succ))
  getDocumentById request world :=
    let (answer, following) := (documentStore (world.2 0)).getDocumentById request world.1
    (answer, (following, world.2 ∘ Nat.succ))

end Supply
end Meadowlark.Core
