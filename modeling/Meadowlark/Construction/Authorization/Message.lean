import Meadowlark.Construction.Core.Identity

namespace Meadowlark.Authorization
open Meadowlark.Core

/-- The roles that a client may have. -/
inductive AuthorizationClientRole where
  | vendor
  | host
  | admin
  | assessment
  | verifyOnly
  deriving DecidableEq

/-- The text of a role in bodies, tokens and stores. -/
def AuthorizationClientRole.toText : AuthorizationClientRole → String
  | .vendor => "vendor"
  | .host => "host"
  | .admin => "admin"
  | .assessment => "assessment"
  | .verifyOnly => "verify-only"

structure CreateAuthorizationClientRequest where
  clientId : String
  clientSecretHashed : String
  clientName : String
  active : Bool
  roles : List AuthorizationClientRole
  traceId : TraceId
  deriving DecidableEq

inductive CreateAuthorizationClientResult where
  | createSuccess
  | unknownFailure
  deriving DecidableEq

inductive TryCreateBootstrapAuthorizationAdminResult where
  | createSuccess
  | createFailureAlreadyExists
  | unknownFailure
  deriving DecidableEq

structure GetAuthorizationClientRequest where
  clientId : String
  traceId : TraceId
  deriving DecidableEq

/-- A store may answer without the flag. -/
inductive GetAuthorizationClientResult where
  | getSuccess (clientSecretHashed clientName : String) (active : Option Bool)
      (roles : List AuthorizationClientRole)
  | getFailureNotExists
  | unknownFailure
  deriving DecidableEq

structure GetClientBody where
  clientId : String
  clientName : String
  active : Option Bool
  roles : List AuthorizationClientRole
  deriving DecidableEq

inductive GetAllAuthorizationClientsResult where
  | getSuccess (clients : List GetClientBody)
  | getFailureNotExists
  | unknownFailure
  deriving DecidableEq

/-- The body of an update may leave out the flag, and its path may leave out the client. -/
structure UpdateAuthorizationClientRequest where
  clientId : Option String
  clientName : String
  active : Option Bool
  roles : List AuthorizationClientRole
  traceId : TraceId
  deriving DecidableEq

inductive UpdateAuthorizationClientResult where
  | updateSuccess
  | updateFailedNotExists
  | unknownFailure
  deriving DecidableEq

structure ResetAuthorizationClientSecretRequest where
  clientId : Option String
  clientSecretHashed : String
  traceId : TraceId
  deriving DecidableEq

inductive ResetAuthorizationClientSecretResult where
  | resetSuccess
  | resetFailedNotExists
  | unknownFailure
  deriving DecidableEq

end Meadowlark.Authorization
