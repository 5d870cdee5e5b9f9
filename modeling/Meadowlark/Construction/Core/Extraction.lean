import Meadowlark.Construction.Core.JsonPaths
import Meadowlark.Systems.Mappings

namespace Meadowlark.Core.Extraction
open Systems

section Schema

/-- The part that scalar and reference properties have in common. -/
structure BaseDocumentPaths where
  paths : Mapping String String
  pathOrder : List String

/-- The paths to the values of a property in a document. -/
inductive DocumentPaths where
  | reference (base : BaseDocumentPaths) (projectName resourceName : String) (isDescriptor : Bool)
  | scalar (base : BaseDocumentPaths)

def DocumentPaths.base : DocumentPaths → BaseDocumentPaths
  | .reference base .. => base
  | .scalar base => base

/-- A pair of paths whose values must be equal in a document. -/
structure EqualityConstraint where
  sourceJsonPath : String
  targetJsonPath : String
  deriving DecidableEq

/-- The information on the superclass of a subclass resource. -/
inductive Subclass where
  | association (superclassProjectName superclassResourceName : String)
  | domainEntity (superclassProjectName superclassResourceName superclassIdentityDocumentKey
      subclassIdentityDocumentKey : String)
  deriving DecidableEq

/-- The part of a resource schema that extraction reads. -/
structure ResourceSchema where
  resourceName : String
  isDescriptor : Bool
  isSchoolYearEnumeration : Bool
  equalityConstraints : List EqualityConstraint
  identityFullnames : List String
  identityPathOrder : List String
  documentPathsMapping : Mapping String DocumentPaths
  subclass : Option Subclass

/-- The identity path orders of the abstract resources are kept under their resource names. -/
structure ProjectSchema where
  projectName : String
  resourceSchemas : Mapping String ResourceSchema
  abstractResources : Mapping String (List String)

structure ApiSchema where
  projectSchemas : Mapping String ProjectSchema

end Schema

section Errors

/-- The error of a failed invariant. -/
def invariantError (message : String) : Exception := ⟨"Invariant Violation", message, none⟩

def undefinedProperty (property : String) : Exception :=
  typeError ("Cannot read properties of undefined (reading '" ++ property ++ "')")

/-- An undefined value has this text in every template. -/
def undefinedText : String := "undefined"

def templateText (value : Option Json) : String := value.elim undefinedText Json.toTemplateText

end Errors

section DescriptorValues
variable [JsonPathLibrary]

/-- The descriptor reference of one property. -/
def descriptorReferencesOf (documentBody : Json) :
    DocumentPaths → Except Exception (List DocumentReference)
  | .scalar _ => .ok []
  | .reference base projectName resourceName isDescriptor =>
      if isDescriptor then
        match base.pathOrder with
        | [descriptorKey] =>
            match base.paths.get? descriptorKey with
            | none => .error JsonPathLibrary.missingPath
            | some descriptorJsonPath =>
                let descriptorValues := JsonPathLibrary.flattened descriptorJsonPath documentBody
                -- The path has no values when the descriptor is optional.
                if descriptorValues.length = 0 then .ok []
                else .ok [{
                  documentIdentity := descriptorValues.map fun descriptorValue =>
                    ("descriptor", descriptorValue)
                  isDescriptor := isDescriptor
                  projectName := projectName
                  resourceName := resourceName }]
        | _ => .error (invariantError ("DescriptorValueExtractor: Descriptor reference for " ++
            resourceName ++ " must have a single path key"))
      else .ok []

def extractDescriptorValues (resourceSchema : ResourceSchema) (documentBody : Json) :
    Except Exception (List DocumentReference) := do
  let found ← resourceSchema.documentPathsMapping.values.mapM (descriptorReferencesOf documentBody)
  pure found.flatten

end DescriptorValues

section DocumentReferences

/-- The order comes from the resource schema or from the abstract resource of this name. -/
def identityPathOrderForReference (apiSchema : ApiSchema) (projectName resourceName : String) :
    Except Exception (List String) :=
  match apiSchema.projectSchemas.values.find? (·.projectName = projectName) with
  | none => .error (invariantError
      ("Project schema with projectName " ++ projectName ++ " was not found"))
  | some projectSchema =>
      match projectSchema.resourceSchemas.values.find? (·.resourceName = resourceName) with
      | some resourceSchema => .ok resourceSchema.identityPathOrder
      | none =>
          match projectSchema.abstractResources.get? resourceName with
          | some identityPathOrder => .ok identityPathOrder
          | none => .error (invariantError
              ("Resource schema with resourceName " ++ resourceName ++ " was not found"))

/-- One object's values from the columns, with its keys unsorted. -/
def unsortedDocumentIdentity (intermediateDocumentReferences : Mapping String (List Json))
    (pathOrder : List String) (index : Nat) : Except Exception (Mapping String (Option Json)) :=
  pathOrder.foldlM (fun unsorted documentKey =>
    match intermediateDocumentReferences.get? documentKey with
    | none => .error (undefinedProperty (toString index))
    | some documentValuesSlice => .ok (unsorted.set documentKey documentValuesSlice[index]?))
    Mapping.empty

/-- An absent value is read as undefined. -/
def orderedDocumentIdentity (unsorted : Mapping String (Option Json)) (identityPathOrder : List String) :
    DocumentIdentity :=
  identityPathOrder.map fun documentKey =>
    (documentKey, ((unsorted.get? documentKey).join).getD (.string undefinedText))

variable [JsonPathLibrary]

/-- The columns of values, one for each key whose path has values. -/
def intermediateDocumentIdentities (paths : Mapping String String) (documentBody : Json) :
    Mapping String (List Json) :=
  paths.filterMap fun documentJsonPath =>
    let documentValuesSlice := JsonPathLibrary.flattened documentJsonPath documentBody
    if documentValuesSlice.length = 0 then none else some documentValuesSlice

/-- The columns become references, one for each index. -/
def documentReferencesOf (apiSchema : ApiSchema) (documentBody : Json) :
    DocumentPaths → Except Exception (List DocumentReference)
  | .scalar _ => .ok []
  | .reference base projectName resourceName isDescriptor =>
      if isDescriptor then .ok []
      else
        let intermediateDocumentReferences :=
          intermediateDocumentIdentities base.paths documentBody
        match intermediateDocumentReferences.values with
        | [] => .ok []
        | first :: rest =>
            -- The text for different lengths is an argument of the wrong call.
            if (first :: rest).all (·.length = first.length) then do
              let identityPathOrder ←
                identityPathOrderForReference apiSchema projectName resourceName
              (List.range first.length).mapM fun index => do
                let unsorted ←
                  unsortedDocumentIdentity intermediateDocumentReferences base.pathOrder index
                pure {
                  documentIdentity := orderedDocumentIdentity unsorted identityPathOrder
                  isDescriptor := isDescriptor
                  projectName := projectName
                  resourceName := resourceName }
            else .error (invariantError "Invariant Violation")

def extractDocumentReferences (apiSchema : ApiSchema) (resourceSchema : ResourceSchema)
    (documentBody : Json) : Except Exception (List DocumentReference) := do
  let found ← resourceSchema.documentPathsMapping.values.mapM
    (documentReferencesOf apiSchema documentBody)
  pure found.flatten

end DocumentReferences

section Identity

def descriptorDocumentIdentityFrom (descriptorDocument : Json) : DocumentIdentity :=
  [("descriptor", .string (templateText (descriptorDocument.field? "namespace") ++ "#" ++
    templateText (descriptorDocument.field? "codeValue")))]

def schoolYearEnumerationDocumentIdentityFrom (schoolYearEnumerationDocument : Json) :
    Except Exception DocumentIdentity :=
  match schoolYearEnumerationDocument.field? "schoolYear" with
  | none => .error (undefinedProperty "toString")
  | some .null => .error (typeError "Cannot read properties of null (reading 'toString')")
  | some schoolYear => .ok [("schoolYear", .string schoolYear.toTemplateText)]

/-- The paths of an identity property overwrite earlier paths with the same keys. -/
def overwritePaths (documentPathsMapping : Mapping String DocumentPaths)
    (identityPaths : Mapping String String) (identityFullName : String) :
    Except Exception (Mapping String String) :=
  match documentPathsMapping.get? identityFullName with
  | none => .error (undefinedProperty "paths")
  | some documentPaths => .ok (identityPaths.setAll documentPaths.base.paths.entries)

def identityDocumentPaths (resourceSchema : ResourceSchema) :
    Except Exception (Mapping String String) :=
  resourceSchema.identityFullnames.foldlM (overwritePaths resourceSchema.documentPathsMapping)
    Mapping.empty

variable [JsonPathLibrary]

/-- One element of an identity. -/
def identityElement (identityPaths : Mapping String String) (documentBody : Json) (documentKey : String) :
    Except Exception (String × Json) :=
  match identityPaths.get? documentKey with
  | none => .error JsonPathLibrary.missingPath
  | some documentJsonPath =>
      match JsonPathLibrary.unwrapped documentJsonPath documentBody with
      | some (.array values) => .error (invariantError ("Identity for path " ++ documentJsonPath ++
          " should not be multiple values but was " ++ (Json.array values).toTemplateText))
      | none | some .null => .error (invariantError
          ("Identity for path " ++ documentJsonPath ++ " was not found in the document"))
      | some documentValue => .ok (documentKey, documentValue)

/-- The identity that the paths of its keys give. -/
def identityAlong (identityPaths : Mapping String String) (resourceSchema : ResourceSchema)
    (documentBody : Json) : Except Exception DocumentIdentity := do
  let documentIdentity ←
    resourceSchema.identityPathOrder.mapM (identityElement identityPaths documentBody)
  if documentIdentity.length > 0 then pure documentIdentity
  else throw (invariantError
    ("DocumentIdentityExtractor: Document identity is empty for " ++ resourceSchema.resourceName))

def extractDocumentIdentity (resourceSchema : ResourceSchema) (documentBody : Json) :
    Except Exception DocumentIdentity :=
  if resourceSchema.isDescriptor then .ok (descriptorDocumentIdentityFrom documentBody)
  else if resourceSchema.isSchoolYearEnumeration then
    schoolYearEnumerationDocumentIdentityFrom documentBody
  else do
    let identityPaths ← identityDocumentPaths resourceSchema
    identityAlong identityPaths resourceSchema documentBody

end Identity

section Superclass

/-- The first element with a value for the key is renamed. -/
def renamedIdentity (superclassIdentityDocumentKey subclassIdentityDocumentKey : String)
    (documentIdentity : DocumentIdentity) : Except Exception DocumentIdentity :=
  match documentIdentity.findIdx? fun element =>
    element.1 = subclassIdentityDocumentKey ∧ element.2 ≠ .null with
  | none => .error (invariantError ("deriveSuperclassInfoFrom found no identity element with name " ++
      subclassIdentityDocumentKey))
  | some indexForRename => .ok (documentIdentity.modify indexForRename fun element =>
      (superclassIdentityDocumentKey, element.2))

/-- An association keeps the keys of its superclass, while a domain entity renames one. -/
def deriveSuperclassInfoFrom (resourceSchema : ResourceSchema)
    (documentIdentity : DocumentIdentity) : Except Exception (Option SuperclassInfo) :=
  match resourceSchema.subclass with
  | none => .ok none
  | some (.association superclassProjectName superclassResourceName) =>
      .ok (some ⟨documentIdentity, superclassProjectName, superclassResourceName⟩)
  | some (.domainEntity superclassProjectName superclassResourceName superclassIdentityDocumentKey
      subclassIdentityDocumentKey) => do
      let superclassIdentity ← renamedIdentity superclassIdentityDocumentKey
        subclassIdentityDocumentKey documentIdentity
      pure (some ⟨superclassIdentity, superclassProjectName, superclassResourceName⟩)

end Superclass

section DocumentInfo
variable [JsonPathLibrary]

def buildDocumentInfo (apiSchema : ApiSchema) (resourceSchema : ResourceSchema) (body : Json)
    (requestTimestamp : Int) : Except Exception DocumentInfo := do
  let documentIdentity ← extractDocumentIdentity resourceSchema body
  let superclassInfo ←
    if resourceSchema.isDescriptor then pure none
    else deriveSuperclassInfoFrom resourceSchema documentIdentity
  let documentReferences ← extractDocumentReferences apiSchema resourceSchema body
  let descriptorReferences ← extractDescriptorValues resourceSchema body
  pure { documentIdentity, documentReferences, descriptorReferences, superclassInfo, requestTimestamp }

end DocumentInfo

section EqualityConstraints

def allEqual : List Json → Bool
  | [] => true
  | first :: rest => (first :: rest).all (· = first)

variable [JsonPathLibrary]

/-- The failure message of one constraint, unless its values are equal. -/
def constraintFailure (parsedBody : Json) (equalityConstraint : EqualityConstraint) :
    Option String :=
  let sourceValues := JsonPathLibrary.flattened equalityConstraint.sourceJsonPath parsedBody
  let targetValues := JsonPathLibrary.flattened equalityConstraint.targetJsonPath parsedBody
  if allEqual (sourceValues ++ targetValues) then none
  else some ("Constraint failure: document paths " ++ equalityConstraint.sourceJsonPath ++ " and " ++
    equalityConstraint.targetJsonPath ++ " must have the same values")

def validateEqualityConstraints (resourceSchema : ResourceSchema) (parsedBody : Json) :
    List String :=
  resourceSchema.equalityConstraints.filterMap (constraintFailure parsedBody)

end EqualityConstraints
end Meadowlark.Core.Extraction
