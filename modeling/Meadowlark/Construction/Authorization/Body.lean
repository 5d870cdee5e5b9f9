import Meadowlark.Construction.Authorization.Server

namespace Meadowlark.Authorization
open Meadowlark.Core Systems

/-- The library and platform functions that the handlers of the server use. -/
class ServerLibrary where
  shake256 (data : List UInt8) : String
  didYouMean : String → List String → Option String
  betterAjvErrors : String → Json → Json
  querystringParse : String → Json
  base64ToBinary : String → String

section Schemas

/-- What a body schema says, and the names of its properties. -/
structure BodySchema where
  title : String
  properties : List String
  accepts : List (String × Json) → Bool

/-- An object may have a property only if the schema names it. -/
def BodySchema.validates (schema : BodySchema) : Json → Bool
  | .object fields => schema.accepts fields && (fields.map (·.1)).all (· ∈ schema.properties)
  | _ => false

def stringOf : Json → Option String
  | .string value => some value
  | _ => none

def booleanOf : Json → Option Bool
  | .boolean value => some value
  | _ => none

def allRoles : List AuthorizationClientRole := [.vendor, .host, .admin, .assessment, .verifyOnly]

def roleOf (value : Json) : Option AuthorizationClientRole :=
  allRoles.find? fun role => value = .string role.toText

/-- One or two different roles. -/
def rolesOfJson : Json → Option (List AuthorizationClientRole)
  | .array elements => do
      let roles ← elements.mapM roleOf
      if roles.Nodup ∧ 1 ≤ roles.length ∧ roles.length ≤ 2 then some roles else none
  | _ => none

/-- The body of a request that creates or updates a client. -/
structure ClientBody where
  clientName : String
  active : Option Bool
  roles : List AuthorizationClientRole
  deriving DecidableEq

/-- An optional property is absent or has the type that the schema gives it. -/
def optionalField {A : Type} (read : Json → Option A) (value : Option Json) : Option (Option A) :=
  match value with
  | none => some none
  | some value => (read value).map some

def clientBodyFrom (fields : List (String × Json)) : Option ClientBody := do
  let clientName ← (fields.lookup "clientName").bind stringOf
  let active ← optionalField booleanOf (fields.lookup "active")
  let roles ← (fields.lookup "roles").bind rolesOfJson
  pure ⟨clientName, active, roles⟩

def clientBodySchema : BodySchema where
  title := "Create body"
  properties := ["clientName", "active", "roles"]
  accepts fields := (clientBodyFrom fields).isSome

structure RequestTokenBody where
  grantType : String
  clientId : Option String
  clientSecret : Option String
  deriving DecidableEq

/-- The client id and the client secret are both there or both absent. -/
def requestTokenBodyFrom (fields : List (String × Json)) : Option RequestTokenBody := do
  let grantType ← (fields.lookup "grant_type").bind stringOf
  let clientId ← optionalField stringOf (fields.lookup "client_id")
  let clientSecret ← optionalField stringOf (fields.lookup "client_secret")
  if grantType = "client_credentials" ∧ clientId.isSome = clientSecret.isSome then
    some ⟨grantType, clientId, clientSecret⟩
  else none

def requestTokenBodySchema : BodySchema where
  title := "Request token body"
  properties := ["grant_type", "client_id", "client_secret"]
  accepts fields := (requestTokenBodyFrom fields).isSome

structure VerifyTokenBody where
  token : String
  tokenTypeHint : Option String
  deriving DecidableEq

def verifyTokenBodyFrom (fields : List (String × Json)) : Option VerifyTokenBody := do
  let token ← (fields.lookup "token").bind stringOf
  let tokenTypeHint ← optionalField stringOf (fields.lookup "token_type_hint")
  pure ⟨token, tokenTypeHint⟩

def verifyTokenBodySchema : BodySchema where
  title := "Verify token body"
  properties := ["token", "token_type_hint"]
  accepts fields := (verifyTokenBodyFrom fields).isSome

/-- An update of a client has the schema of its creation. -/
def bodySchemas : List BodySchema :=
  [clientBodySchema, requestTokenBodySchema, verifyTokenBodySchema]

end Schemas

section Validation

structure Suggestion where
  current : String
  suggested : String
  deriving DecidableEq

inductive BodyValidation where
  | valid
  | invalid (failureMessage : Json) (suggestions : List Suggestion)

variable [ServerLibrary]

/-- A suggestion is made for a property that the schema does not name. -/
def suggestionsFor (schema : BodySchema) : Json → List Suggestion
  | .object fields => (fields.map (·.1)).filterMap fun current =>
      if current ∈ schema.properties then none
      else (ServerLibrary.didYouMean current schema.properties).map (⟨current, ·⟩)
  | _ => []

def validateBody (schema : BodySchema) (body : Json) : BodyValidation :=
  if schema.validates body then .valid
  else .invalid (ServerLibrary.betterAjvErrors schema.title body) (suggestionsFor schema body)

/-- A text replaces the first occurrence of another one. -/
def replaceFirst (current suggested : List Char) : List Char → List Char
  | [] => if current = [] then suggested else []
  | first :: rest =>
      if current.isPrefixOf (first :: rest) then suggested ++ (first :: rest).drop current.length
      else first :: replaceFirst current suggested rest

def applySuggestions [NodeRuntime] (body : Json) (suggestions : List Suggestion) :
    Except Exception Json :=
  let bodyWithSuggestions := String.ofList (suggestions.foldl
    (fun text suggestion =>
      replaceFirst suggestion.current.toList suggestion.suggested.toList text)
    (Json.stringify body).toList)
  match Json.parse bodyWithSuggestions with
  | some updatedBody => .ok updatedBody
  | none => .error ⟨"SyntaxError", NodeRuntime.syntaxErrorMessage bodyWithSuggestions, none⟩

/-- The suggestions for an invalid body are applied once, and the body is checked again. -/
def validateWithSuggestions [NodeRuntime] (schema : BodySchema) (parsedBody : Json) :
    Except Exception (Except Json Json) :=
  match validateBody schema parsedBody with
  | .valid => .ok (.ok parsedBody)
  | .invalid _ suggestions => do
      let updatedBody ← applySuggestions parsedBody suggestions
      match validateBody schema updatedBody with
      | .valid => pure (.ok updatedBody)
      | .invalid failureMessage _ => pure (.error failureMessage)

end Validation

section Secrets

def hexDigitOf (value : Nat) : Char := Json.hexDigits.getD value '0'

/-- Two lower case digits for each byte. -/
def toHex (bytes : List UInt8) : String :=
  String.ofList (bytes.flatMap fun byte => [hexDigitOf (byte.toNat / 16), hexDigitOf (byte.toNat % 16)])

/-- A string consists of 16 bit units, two for a character outside the basic plane. -/
def codeUnits (char : Char) : List Nat :=
  if char.toNat < 0x10000 then [char.toNat]
  else [0xD800 + (char.toNat - 0x10000) / 0x400, 0xDC00 + (char.toNat - 0x10000) % 0x400]

/-- The decoder looks at the low byte of a unit alone. -/
def hexUnit (unit : Nat) : Option Nat := Json.hexValue (Char.ofNat (unit % 256))

/-- The decoding stops at the first pair that is not a byte. -/
def hexBytes : List Nat → List UInt8
  | high :: low :: rest =>
      match hexUnit high, hexUnit low with
      | some upper, some lower => UInt8.ofNat (16 * upper + lower) :: hexBytes rest
      | _, _ => []
  | _ => []

def fromHex (text : String) : List UInt8 := hexBytes (text.toList.flatMap codeUnits)

variable [ServerLibrary]

def hashClientSecretBuffer (clientSecretBytes : List UInt8) : String :=
  ServerLibrary.shake256 clientSecretBytes

def hashClientSecretHexString (clientSecretHexString : String) : String :=
  hashClientSecretBuffer (fromHex clientSecretHexString)

end Secrets
namespace Sample
/-- The hash is the text of the bytes itself. -/
abbrev library : ServerLibrary where
  shake256 := toHex
  didYouMean _ _ := none
  betterAjvErrors _ _ := .null
  querystringParse _ := .null
  base64ToBinary text := text

/-- Every token belongs to an admin. -/
abbrev adminTokens : TokenLibrary where
  verify _ _ := .verified (some ⟨none, some ⟨none, none, none, none, none, none, some ["admin"]⟩⟩)
  compact _ _ := "token"

end Sample
end Meadowlark.Authorization
