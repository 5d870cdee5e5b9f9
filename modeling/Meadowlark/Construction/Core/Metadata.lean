import Meadowlark.Construction.Core.Frontend

namespace Meadowlark.Core
open Systems

section Templates

def dollarSign : Char := '$'

/-- The replacement text of `String.replace`, in which some pairs of characters stand for a part of
the text. A token has no groups, so a digit after a dollar sign is a digit. -/
def expandReplacement (before token after : List Char) : List Char → List Char
  | [] => []
  | [char] => [char]
  | char :: next :: rest =>
      if char = dollarSign then
        if next = dollarSign then dollarSign :: expandReplacement before token after rest
        else if next = '&' then token ++ expandReplacement before token after rest
        else if next.toNat = 0x60 then before ++ expandReplacement before token after rest
        else if next.toNat = 0x27 then after ++ expandReplacement before token after rest
        else char :: expandReplacement before token after (next :: rest)
      else char :: expandReplacement before token after (next :: rest)

/-- Every occurrence of the token is replaced from the left.
The number counts the characters of an occurrence that are still to be passed. -/
def replaceTokens (token replacement : List Char) : Nat → List Char → List Char → List Char
  | _, _, [] => []
  | passed + 1, before, char :: rest => replaceTokens token replacement passed (before ++ [char]) rest
  | 0, before, char :: rest =>
      if token.isPrefixOf (char :: rest) then
        expandReplacement before token ((char :: rest).drop token.length) replacement ++
          replaceTokens token replacement (token.length - 1) (before ++ [char]) rest
      else char :: replaceTokens token replacement 0 (before ++ [char]) rest

def replaceAll (text token replacement : String) : String :=
  String.ofList (replaceTokens token.toList replacement.toList 0 [] text.toList)

def basePathToken : String := "\x7b\x7b basePath \x7d\x7d"

def tokenUrlToken : String := "\x7b\x7b tokenUrl \x7d\x7d"

def hostToken : String := "\x7b\x7b host \x7d\x7d"

def schemesToken : String := "\x7b\x7b\x7b schemes \x7d\x7d\x7d"

/-- The token url is the configured endpoint for own token requests. -/
def useTemplate (tokenUrl data host stage : String) : String :=
  let basePath := "/" ++ stage ++ "/v3.3b/"
  let schemes := if stage = "local" then "\"http\"" else "\"https\""
  let withBasePath := replaceAll data basePathToken basePath
  let withTokenUrl := replaceAll withBasePath tokenUrlToken tokenUrl
  let withHost := replaceAll withTokenUrl hostToken host
  replaceAll withHost schemesToken schemes

/-- A header that is absent or empty counts as false. -/
def truthyHeader (headers : Headers) (name : String) : Option String :=
  (headers.lookup name).filter (· ≠ "")

def hostFrom (headers : Headers) : String :=
  match truthyHeader headers "x-forwarded-host", truthyHeader headers "x-forwarded-port" with
  | some forwardedHost, some forwardedPort => forwardedHost ++ ":" ++ forwardedPort
  | _, _ => (truthyHeader headers "Host").getD ""

end Templates

section Cache

/-- The files of the upstream that are served. -/
inductive MetadataFile where
  | swaggerResource
  | swaggerDescriptor
  | dependencies
  deriving DecidableEq

def MetadataFile.url : MetadataFile → String
  | .swaggerResource =>
      "https://edfidata.s3.us-west-2.amazonaws.com/Meadowlark/3.3.0-b-resource.json"
  | .swaggerDescriptor =>
      "https://edfidata.s3.us-west-2.amazonaws.com/Meadowlark/3.3.0-b-descriptor.json"
  | .dependencies =>
      "https://edfidata.s3.us-west-2.amazonaws.com/Meadowlark/v3.3.0-b.dependencies.json"

/-- Only a text can be used as a template, and the dependencies are served as they are. -/
def MetadataFile.transformer (file : MetadataFile) (tokenUrl : String)
    (frontendRequest : FrontendRequest) (data : Json) : Except Exception Json :=
  match file, data with
  | .dependencies, data => .ok data
  | _, .string data =>
      .ok (.string (useTemplate tokenUrl data (hostFrom frontendRequest.headers)
        frontendRequest.stage))
  | _, _ => .error (typeError "data.replace is not a function")

structure ExternalResource where
  body : Json
  etag : Option String
  deriving DecidableEq

abbrev ResourceCache := String → Option ExternalResource

/-- The upstream sends new contents, it reports no changes, or the request fails. -/
inductive UpstreamAnswer where
  | newContents (data : Json) (etag : Option String)
  | noChanges
  | failure
  deriving DecidableEq

def metadataResponse (body : Json) : FrontendResponse :=
  ⟨200, some [("Access-Control-Allow-Origin", "*")], some body⟩

def metadataFailure : FrontendResponse := ⟨404, none, some (.string "")⟩

/-- A cached resource is changed in place: it has the new etag before its body is rendered.
A new resource is cached when it has its body. -/
def getFileFromBlobStorage (url : String) (transformer : Json → Except Exception Json)
    (get : Option String → UpstreamAnswer) (resourceCache : ResourceCache) :
    FrontendResponse × ResourceCache :=
  let resource := (resourceCache url).getD ⟨.string "", some ""⟩
  match get resource.etag with
  | .failure => (metadataFailure, resourceCache)
  | .noChanges => (metadataResponse resource.body, resourceCache)
  | .newContents data etag =>
      match transformer data with
      | .ok body =>
          (metadataResponse body, Function.update resourceCache url (some ⟨body, etag⟩))
      | .error _ => (metadataFailure, Function.update resourceCache url
          ((resourceCache url).map fun resource => { resource with etag := etag }))

/-- One request for a file of the upstream. -/
def serveMetadata (tokenUrl : String) (file : MetadataFile) (frontendRequest : FrontendRequest)
    (get : Option String → UpstreamAnswer) (resourceCache : ResourceCache) :
    FrontendResponse × ResourceCache :=
  getFileFromBlobStorage file.url (file.transformer tokenUrl frontendRequest) get resourceCache

end Cache
end Meadowlark.Core
