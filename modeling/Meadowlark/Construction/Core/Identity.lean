import Meadowlark.Construction.Core.Json

namespace Meadowlark.Core

/-- The functions that the source takes from its platform.
A numeral is given as its text, and a date outside the calendar has no text. -/
class NodeRuntime where
  shake256 (outputLength : Nat) (data : String) : String
  toLowerCase : String → String
  toLocaleLowerCase : String → String
  numberToString : String → String
  dateToISOString : Int → Option String
  syntaxErrorMessage : String → String

/-- A string branded as a document uuid. -/
structure DocumentUuid where
  value : String
  deriving DecidableEq

/-- A string branded as a meadowlark id. -/
structure MeadowlarkId where
  value : String
  deriving DecidableEq

/-- A string branded as a trace id. -/
structure TraceId where
  value : String
  deriving DecidableEq

/-- Every element of an identity holds exactly one key and its value. -/
abbrev DocumentIdentity := List (String × Json)

/-- The resource information that an id depends on. -/
structure BaseResourceInfo where
  projectName : String
  resourceName : String
  isDescriptor : Bool
  deriving DecidableEq

/-- The resource information of a request. -/
structure ResourceInfo extends BaseResourceInfo where
  resourceVersion : String
  allowIdentityUpdates : Bool
  deriving DecidableEq

def NoResourceInfo : ResourceInfo where
  resourceName := "NoResourceName"
  projectName := "NoProjectName"
  resourceVersion := "0.0.0"
  allowIdentityUpdates := false
  isDescriptor := false

/-- The identity that a failed validation reports. -/
structure MissingIdentity where
  resourceName : String
  identity : DocumentIdentity
  deriving DecidableEq

/-- The reference from a document to another one. -/
structure DocumentReference where
  projectName : String
  resourceName : String
  isDescriptor : Bool
  documentIdentity : DocumentIdentity
  deriving DecidableEq

/-- The identity of a subclass document in the form of its superclass. -/
structure SuperclassInfo where
  documentIdentity : DocumentIdentity
  projectName : String
  resourceName : String
  deriving DecidableEq

/-- Complete information on a validated API document. -/
structure DocumentInfo where
  documentIdentity : DocumentIdentity
  documentReferences : List DocumentReference
  descriptorReferences : List DocumentReference
  superclassInfo : Option SuperclassInfo
  requestTimestamp : Int
  deriving DecidableEq

def NoDocumentInfo : DocumentInfo where
  documentIdentity := []
  superclassInfo := none
  documentReferences := []
  descriptorReferences := []
  requestTimestamp := 0

/-- The conversion replaces two characters and removes the padding at the end. -/
def toBase64Url (base64 : String) : String :=
  let replaced := base64.toList.map fun char =>
    if char = '+' then '-' else if char = '/' then '_' else char
  String.ofList (replaced.reverse.dropWhile (· = '=')).reverse

section Hash
variable [NodeRuntime]

def toHash (data : String) (lengthInBytes : Nat) : String :=
  toBase64Url (NodeRuntime.shake256 lengthInBytes data)

def resourceInfoHashFrom (resourceInfo : BaseResourceInfo) : String :=
  toHash (resourceInfo.projectName ++ "#" ++ resourceInfo.resourceName) 12

def documentIdentityHashFrom (documentIdentity : DocumentIdentity) : String :=
  toHash ("#".intercalate
    (documentIdentity.map fun element => element.1 ++ "=" ++ element.2.toTemplateText)) 16

/-- The id joins the hash of the resource and the hash of the identity. -/
def meadowlarkIdForDocumentIdentity (resourceInfo : BaseResourceInfo)
    (documentIdentity : DocumentIdentity) : MeadowlarkId :=
  ⟨resourceInfoHashFrom resourceInfo ++ documentIdentityHashFrom documentIdentity⟩

def getMeadowlarkIdForDocumentReference (documentReference : DocumentReference) : MeadowlarkId :=
  meadowlarkIdForDocumentIdentity
    { projectName := documentReference.projectName
      resourceName := documentReference.resourceName
      isDescriptor := documentReference.isDescriptor }
    documentReference.documentIdentity

def getMeadowlarkIdForSuperclassInfo (superclassInfo : SuperclassInfo) : MeadowlarkId :=
  meadowlarkIdForDocumentIdentity
    { projectName := superclassInfo.projectName
      resourceName := superclassInfo.resourceName
      isDescriptor := false }
    superclassInfo.documentIdentity

def isHexDigit (char : Char) : Bool :=
  ('0' ≤ char && char ≤ '9') || ('a' ≤ char && char ≤ 'f')

/-- One test for each character of a version 4 uuid. -/
def uuid4Regex : List (Char → Bool) :=
  let dash : List (Char → Bool) := [(· == '-')]
  List.replicate 8 isHexDigit ++ dash ++ List.replicate 4 isHexDigit ++ dash ++
    [(· == '4')] ++ List.replicate 3 isHexDigit ++ dash ++
    [fun char => char == '8' || char == '9' || char == 'a' || char == 'b'] ++
    List.replicate 3 isHexDigit ++ dash ++ List.replicate 12 isHexDigit

def isDocumentUuidWellFormed (documentUuid : DocumentUuid) : Bool :=
  let chars := (NodeRuntime.toLowerCase documentUuid.value).toList
  chars.length == uuid4Regex.length &&
    (uuid4Regex.zip chars).all fun position => position.1 position.2

end Hash
end Meadowlark.Core
