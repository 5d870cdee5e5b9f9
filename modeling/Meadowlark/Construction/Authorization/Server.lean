import Meadowlark.Construction.Authorization.Message
import Meadowlark.Construction.Core.Frontend

namespace Meadowlark.Authorization
open Meadowlark.Core Systems

section Configuration

/-- The settings of the authorization server.
The environment variable is read apart from the loaded configuration. -/
structure Config where
  oauthSigningKey : List UInt8
  oauthTokenIssuer : String
  oauthTokenAudience : String
  oauthExpirationMinutes : Int
  oauthHardCodedCredentialsEnabled : Bool
  environmentHardCodedCredentialsEnabled : Bool

structure HardcodedCredential where
  key : String
  secret : String
  vendor : String
  role : List String

def admin1 : HardcodedCredential where
  key := "meadowlark_admin_key_1"
  secret := "meadowlark_admin_secret_1"
  vendor := ""
  role := ["admin"]

def verifyOnly1 : HardcodedCredential where
  key := "meadowlark_verify-only_key_1"
  secret := "meadowlark_verify-only_secret_1"
  vendor := ""
  role := ["verify-only"]

end Configuration

section Tokens

/-- The claims of a token. -/
structure JwtBody where
  iss : Option String
  aud : Option String
  sub : Option String
  clientId : Option String
  iat : Option Int
  exp : Option Int
  roles : Option (List String)
  deriving DecidableEq

structure Jwt where
  message : Option String
  body : Option JwtBody
  deriving DecidableEq

/-- An error of the token library keeps the claims that it could parse in a field of its own. -/
structure JwtError where
  message : String
  body : Option JwtBody
  parsedBody : Option JwtBody
  deriving DecidableEq

/-- The token library returns a token, returns nothing, or throws. -/
inductive Verification where
  | verified (jwt : Option Jwt)
  | threw (error : JwtError)
  deriving DecidableEq

/-- The functions of the token library. -/
class TokenLibrary where
  verify (token : String) (signingKey : List UInt8) : Verification
  compact (body : JwtBody) (signingKey : List UInt8) : String

/-- Information extracted from a bearer token. -/
structure IntrospectedToken where
  active : Bool
  clientId : String
  sub : String
  aud : String
  iss : String
  exp : Int
  iat : Int
  roles : List String
  deriving DecidableEq

inductive IntrospectionResponse where
  | invalid
  | valid (introspectedToken : IntrospectedToken)
  deriving DecidableEq

end Tokens

section Request

structure AuthorizationRequest where
  path : String
  traceId : TraceId
  body : Option String
  headers : Headers
  queryParameters : List (String × String)
  stage : String

def extractAuthorizationHeader (authorizationRequest : AuthorizationRequest) : Option String :=
  (authorizationRequest.headers.lookup "authorization").or
    (authorizationRequest.headers.lookup "Authorization")

/-- The bodies that a response can have. -/
inductive ResponseBody where
  | failure (error : Json) (errorDescription : Option String)
  | token (accessToken : String) (expiresIn : Option Int)
  | introspection (introspectedToken : IntrospectedToken)
  | createdClient (clientId clientSecret clientName : String) (roles : List AuthorizationClientRole)
  | clientSecret (clientId clientSecret : String)
  deriving DecidableEq

structure AuthorizationResponse where
  statusCode : Nat
  headers : Option Headers
  body : Option ResponseBody
  deriving DecidableEq

def AuthorizationResponse.ofStatus (statusCode : Nat) : AuthorizationResponse :=
  ⟨statusCode, none, none⟩

end Request

section Calls

/-- The calls to the authorization store, to the clock and to the random generators. -/
inductive AuthorizationCall where
  | createAuthorizationClient (request : CreateAuthorizationClientRequest)
  | tryCreateBootstrapAuthorizationAdmin (request : CreateAuthorizationClientRequest)
  | getAuthorizationClient (request : GetAuthorizationClientRequest)
  | updateAuthorizationClient (request : UpdateAuthorizationClientRequest)
  | resetAuthorizationClientSecret (request : ResetAuthorizationClientSecretRequest)
  | newClientId
  | randomBytes (size : Nat)
  | dateNow

abbrev AuthorizationCall.Result : AuthorizationCall → Type
  | .createAuthorizationClient _ => CreateAuthorizationClientResult
  | .tryCreateBootstrapAuthorizationAdmin _ => TryCreateBootstrapAuthorizationAdminResult
  | .getAuthorizationClient _ => GetAuthorizationClientResult
  | .updateAuthorizationClient _ => UpdateAuthorizationClientResult
  | .resetAuthorizationClientSecret _ => ResetAuthorizationClientSecretResult
  | .newClientId => String
  | .randomBytes _ => List UInt8
  | .dateNow => Int

/-- Every call can throw. -/
abbrev AuthorizationCall.Answer (call : AuthorizationCall) : Type := Except Exception call.Result

/-- A function of the server is a program over these calls that can throw an error. -/
abbrev Server := ExceptT Exception (Program AuthorizationCall AuthorizationCall.Answer)

def ask (call : AuthorizationCall) : Server call.Result := ExceptT.mk (Program.request call)

/-- The functions of an authorization store on its contents while no other request runs. -/
structure AuthorizationStore (Contents : Type) where
  createAuthorizationClient : CreateAuthorizationClientRequest → Contents →
    Except Exception CreateAuthorizationClientResult × Contents
  tryCreateBootstrapAuthorizationAdmin : CreateAuthorizationClientRequest → Contents →
    Except Exception TryCreateBootstrapAuthorizationAdminResult × Contents
  getAuthorizationClient : GetAuthorizationClientRequest → Contents →
    Except Exception GetAuthorizationClientResult × Contents
  updateAuthorizationClient : UpdateAuthorizationClientRequest → Contents →
    Except Exception UpdateAuthorizationClientResult × Contents
  resetAuthorizationClientSecret : ResetAuthorizationClientSecretRequest → Contents →
    Except Exception ResetAuthorizationClientSecretResult × Contents

/-- What the clock and the random generators answer next. -/
structure Entropy where
  clientId : String
  bytes : Nat → List UInt8
  now : Int

section Serve
variable {Contents : Type}

def answerCall (authorizationStore : AuthorizationStore Contents) (entropy : Entropy) :
    (call : AuthorizationCall) → Contents → call.Answer × Contents
  | .createAuthorizationClient request, contents =>
      authorizationStore.createAuthorizationClient request contents
  | .tryCreateBootstrapAuthorizationAdmin request, contents =>
      authorizationStore.tryCreateBootstrapAuthorizationAdmin request contents
  | .getAuthorizationClient request, contents =>
      authorizationStore.getAuthorizationClient request contents
  | .updateAuthorizationClient request, contents =>
      authorizationStore.updateAuthorizationClient request contents
  | .resetAuthorizationClientSecret request, contents =>
      authorizationStore.resetAuthorizationClientSecret request contents
  | .newClientId, contents => (.ok entropy.clientId, contents)
  | .randomBytes size, contents => (.ok (entropy.bytes size), contents)
  | .dateNow, contents => (.ok entropy.now, contents)

/-- A function of the server runs while no other request runs. -/
def AuthorizationStore.run {A : Type} (authorizationStore : AuthorizationStore Contents)
    (entropy : Entropy) (program : Server A) (contents : Contents) :
    Except Exception A × Contents :=
  Program.runState (answerCall authorizationStore entropy) program contents

end Serve
end Calls

namespace Sample
abbrev config : Config where
  oauthSigningKey := [0]
  oauthTokenIssuer := "edfi-meadowlark-issuer"
  oauthTokenAudience := "edfi-meadowlark-audience"
  oauthExpirationMinutes := 60
  oauthHardCodedCredentialsEnabled := false
  environmentHardCodedCredentialsEnabled := false

/-- The store holds no client. -/
abbrev emptyStore : AuthorizationStore Unit where
  createAuthorizationClient _ contents := (.ok .unknownFailure, contents)
  tryCreateBootstrapAuthorizationAdmin _ contents := (.ok .unknownFailure, contents)
  getAuthorizationClient _ contents := (.ok .getFailureNotExists, contents)
  updateAuthorizationClient _ contents := (.ok .updateFailedNotExists, contents)
  resetAuthorizationClientSecret _ contents := (.ok .resetFailedNotExists, contents)

abbrev entropy : Entropy where
  clientId := "00000000-0000-4000-8000-000000000001"
  bytes size := List.replicate size 0
  now := 0

end Sample
end Meadowlark.Authorization
