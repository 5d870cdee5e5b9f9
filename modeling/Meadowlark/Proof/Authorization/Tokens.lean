import Meadowlark.Construction.Authorization.Token

namespace Meadowlark.Authorization
open Meadowlark.Core Systems

section Access

/-- The library returns nothing, or its message is one that the access check knows. -/
def Verification.Refused : Verification → Prop
  | .verified none => True
  | .verified (some jwt) => ∃ message ∈ expiredMessage :: failureMessages, jwt.message = some message
  | .threw error => error.message ∈ expiredMessage :: failureMessages

/-- The claims that the outcome of a verification has under the name `body`. -/
def Verification.body : Verification → Option JwtBody
  | .verified jwt => jwt.bind (·.body)
  | .threw error => error.body

def rolesOf (body : Option JwtBody) : List String := (body.bind (·.roles)).getD []

def clientIdOf (body : Option JwtBody) : String := (body.bind (·.clientId)).getD ""

/-- The access check reads a bearer token up to its first blank. -/
def firstWord (token : String) : String := String.ofList ((token.toList.splitOn ' ').headD [])

theorem isBearer_bearer (token : String) : isBearer ("Bearer " ++ token) = true := by
  simp [isBearer]

theorem secondWord_bearer (token : String) : secondWord ("Bearer " ++ token) = firstWord token := by
  have split : ("Bearer " ++ token).toList.splitOn ' ' =
      "Bearer".toList :: token.toList.splitOn ' ' := by
    have parts : ("Bearer " ++ token).toList = "Bearer".toList ++ ' ' :: token.toList := by simp
    have plain : "Bearer".toList.all (· ≠ ' ') = true := by decide
    rw [parts]
    apply List.splitOnP_append_cons_of_forall_mem
    · intro char inside
      simpa using List.all_eq_true.mp plain char inside
    · decide
  rw [secondWord, firstWord, split]
  cases token.toList.splitOn ' ' with
  | nil => rfl
  | cons first rest => rfl

theorem Verification.status_present (verification : Verification) :
    verification.status.isMissing = false := by
  rcases verification with (_ | jwt) | error
  · rfl
  · rfl
  · rfl

theorem Verification.status_roles (verification : Verification) :
    verification.status.roles = rolesOf verification.body := by
  rcases verification with (_ | jwt) | error
  · rfl
  · rfl
  · rfl

theorem Verification.status_clientId (verification : Verification) :
    verification.status.clientId.getD "" = clientIdOf verification.body := by
  rcases verification with (_ | jwt) | error
  · rfl
  · rfl
  · rfl

/-- A status is usable unless the outcome is refused. -/
theorem Verification.status_usable (verification : Verification) :
    (verification.status.isExpired = false ∧ verification.status.isValid = true) ↔
      ¬ verification.Refused := by
  rcases verification with (_ | ⟨message, body⟩) | ⟨message, body, parsedBody⟩
  · simp [Verification.status, toJwtStatus, newJwtStatus, Verification.Refused]
  · cases message with
    | none => simp [Verification.status, toJwtStatus, Verification.Refused]
    | some message => simp [Verification.status, toJwtStatus, Verification.Refused]
  · simp [Verification.status, toJwtStatus, Verification.Refused, JwtError.asJwt]

variable [TokenLibrary] (config : Config)

/-- What the token library says about a text under the key of the server. -/
def verification (token : String) : Verification :=
  TokenLibrary.verify token config.oauthSigningKey

theorem verifyJwt_bearer (token : String) :
    verifyJwt config (some ("Bearer " ++ token)) = (verification config (firstWord token)).status := by
  rw [verifyJwt, if_pos (isBearer_bearer token), secondWord_bearer]
  rfl

/-- The access check accepts every outcome that is not refused. -/
theorem validateTokenForAccess_iff (token : String) (roles : List String) (clientId : String) :
    validateTokenForAccess config (some ("Bearer " ++ token)) = .valid roles clientId ↔
      ¬ (verification config (firstWord token)).Refused ∧
        rolesOf (verification config (firstWord token)).body = roles ∧
        clientIdOf (verification config (firstWord token)).body = clientId := by
  rw [validateTokenForAccess, verifyJwt_bearer]
  generalize verification config (firstWord token) = outcome
  rw [← outcome.status_usable, ← outcome.status_roles, ← outcome.status_clientId]
  simp only [outcome.status_present, Bool.false_eq_true, if_false]
  by_cases expired : outcome.status.isExpired = true
  · simp [expired]
  · by_cases valid : outcome.status.isValid = true
    · simp [expired, valid]
    · simp [expired, valid]

/-- An admin token is an access token with the admin role. -/
theorem validateAdminTokenForAccess_iff [NodeRuntime] (header : Option String) :
    validateAdminTokenForAccess config header = none ↔
      ∃ roles clientId, validateTokenForAccess config header = .valid roles clientId ∧
        hasAdminRole roles = true := by
  unfold validateAdminTokenForAccess
  cases validateTokenForAccess config header with
  | invalid errorResponse => simp
  | valid roles clientId => simp

end Access

section Introspection
variable {Contents : Type} (config : Config) (authorizationStore : AuthorizationStore Contents)
  (entropy : Entropy) (traceId : TraceId) (contents : Contents)

/-- The client has an enabled hardcoded key or is active in the store. -/
def ActiveClient (clientId : String) : Prop :=
  (config.environmentHardCodedCredentialsEnabled = true ∧
      clientId ∈ [admin1.key, verifyOnly1.key]) ∨
    ∃ clientSecretHashed clientName roles,
      (authorizationStore.getAuthorizationClient ⟨clientId, traceId⟩ contents).1 =
        .ok (.getSuccess clientSecretHashed clientName (some true) roles)

/-- The library returns a token of the configured issuer for the configured audience that is not
expired and belongs to an active client. -/
def Trusted (outcome : Verification) : Prop :=
  ∃ message body clientId, outcome = .verified (some ⟨message, some body⟩) ∧
    message ≠ some expiredMessage ∧ body.iss = some config.oauthTokenIssuer ∧
    body.aud = some config.oauthTokenAudience ∧ body.clientId = some clientId ∧
    ActiveClient config authorizationStore traceId contents clientId

theorem isValidClientId_none :
    (authorizationStore.run entropy (isValidClientId config traceId none) contents).1 =
      .ok false := rfl

theorem isValidClientId_iff (clientId : String) :
    (authorizationStore.run entropy (isValidClientId config traceId (some clientId)) contents).1 =
        .ok true ↔
      ActiveClient config authorizationStore traceId contents clientId := by
  unfold ActiveClient
  dsimp only [isValidClientId]
  by_cases hardcoded : config.environmentHardCodedCredentialsEnabled = true ∧
      clientId ∈ [admin1.key, verifyOnly1.key]
  · rw [if_pos hardcoded]
    exact ⟨fun _ => Or.inl hardcoded, fun _ => rfl⟩
  · rw [if_neg hardcoded, or_iff_right hardcoded, AuthorizationStore.run, Program.runState_bind]
    have asked : Program.runState (answerCall authorizationStore entropy)
        (ask (.getAuthorizationClient ⟨clientId, traceId⟩)) contents =
          authorizationStore.getAuthorizationClient ⟨clientId, traceId⟩ contents := rfl
    rw [asked]
    rcases authorizationStore.getAuthorizationClient ⟨clientId, traceId⟩ contents with
      ⟨error | result, following⟩
    · simp
    · cases result with
      | getSuccess clientSecretHashed clientName active roles =>
          cases active with
          | none => simp
          | some active => simp
      | getFailureNotExists => simp
      | unknownFailure => simp

variable [TokenLibrary]

/-- The introspection of the token says that it is active and has these roles and this client. -/
def IntrospectedActive (token : String) (roles : List String) (clientId : String) : Prop :=
  ∃ introspectedToken,
    (authorizationStore.run entropy (introspectBearerToken config traceId token) contents).1 =
        .ok (.valid introspectedToken) ∧
      introspectedToken.active = true ∧ introspectedToken.roles = roles ∧
      introspectedToken.clientId = clientId

omit [TokenLibrary] in
/-- The last step of a function only maps its value. -/
theorem run_map {A B : Type} (program : Server A) (f : A → B) :
    (authorizationStore.run entropy (f <$> program) contents).1 =
      (authorizationStore.run entropy program contents).1.map f := by
  rw [AuthorizationStore.run, ← bind_pure_comp, Program.runState_bind]
  unfold AuthorizationStore.run
  rcases Program.runState (answerCall authorizationStore entropy) program contents with
    ⟨error | value, following⟩
  · rfl
  · rfl

omit [TokenLibrary] in
theorem introspectedTokenFrom_active (outcome : Except Exception Bool) (body : Option JwtBody)
    (roles : List String) (clientId : String) :
    (∃ introspectedToken,
        outcome.map (fun active => IntrospectionResponse.valid (introspectedTokenFrom active body)) =
            .ok (.valid introspectedToken) ∧
          introspectedToken.active = true ∧ introspectedToken.roles = roles ∧
          introspectedToken.clientId = clientId) ↔
      outcome = .ok true ∧ rolesOf body = roles ∧ clientIdOf body = clientId := by
  cases outcome with
  | error error => simp [Except.map]
  | ok active => simp [Except.map, introspectedTokenFrom, rolesOf, clientIdOf]

theorem introspectedActive_iff (token : String) (roles : List String) (clientId : String) :
    IntrospectedActive config authorizationStore entropy traceId contents token roles clientId ↔
      Trusted config authorizationStore traceId contents (verification config token) ∧
        rolesOf (verification config token).body = roles ∧
        clientIdOf (verification config token).body = clientId := by
  unfold IntrospectedActive introspectBearerToken Trusted
  rw [← verification]
  rcases verification config token with (_ | ⟨message, body⟩) | error
  · simp [AuthorizationStore.run]
  · cases body with
    | none => simp [AuthorizationStore.run]
    | some body =>
        by_cases issuer : body.iss = some config.oauthTokenIssuer
        · by_cases audience : body.aud = some config.oauthTokenAudience
          · by_cases expired : message = some expiredMessage
            · simp [AuthorizationStore.run, issuer, audience, expired, introspectedTokenFrom]
            · simp only [Option.bind_some, issuer, audience, expired, ne_eq, not_true_eq_false,
                if_false, bind_pure_comp, run_map]
              rw [introspectedTokenFrom_active]
              cases clientIdClaim : body.clientId with
              | none => simp [isValidClientId_none, clientIdClaim]
              | some claimed =>
                  rw [isValidClientId_iff]
                  simp [Verification.body, issuer, audience, expired, clientIdClaim]
          · simp [AuthorizationStore.run, issuer, audience]
        · simp [AuthorizationStore.run, issuer]
  · by_cases expired : error.message = expiredMessage
    · simp [AuthorizationStore.run, expired, introspectedTokenFrom]
    · simp [AuthorizationStore.run, expired]

end Introspection

section Agreement
variable {Contents : Type}

/-- An accepted bearer token is active for the introspection, with the same roles and client. -/
def ChecksAgree [NodeRuntime] [TokenLibrary] (config : Config)
    (authorizationStore : AuthorizationStore Contents) (entropy : Entropy) (traceId : TraceId)
    (contents : Contents) (token : String) : Prop :=
  (∀ roles clientId,
      validateTokenForAccess config (some ("Bearer " ++ token)) = .valid roles clientId →
        IntrospectedActive config authorizationStore entropy traceId contents token roles
          clientId) ∧
    (validateAdminTokenForAccess config (some ("Bearer " ++ token)) = none →
      ∃ roles clientId,
        validateTokenForAccess config (some ("Bearer " ++ token)) = .valid roles clientId ∧
        IntrospectedActive config authorizationStore entropy traceId contents token roles clientId)

/-- The checks agree on a token exactly when its first word is refused, or when the token can be
trusted and has the roles and the client of its first word. -/
theorem checksAgree_iff [NodeRuntime] [TokenLibrary] (config : Config)
    (authorizationStore : AuthorizationStore Contents) (entropy : Entropy) (traceId : TraceId)
    (contents : Contents) (token : String) :
    ChecksAgree config authorizationStore entropy traceId contents token ↔
      (verification config (firstWord token)).Refused ∨
        (Trusted config authorizationStore traceId contents (verification config token) ∧
          rolesOf (verification config token).body =
            rolesOf (verification config (firstWord token)).body ∧
          clientIdOf (verification config token).body =
            clientIdOf (verification config (firstWord token)).body) := by
  constructor
  · intro agree
    by_cases refused : (verification config (firstWord token)).Refused
    · exact Or.inl refused
    · have accepted := (validateTokenForAccess_iff config token _ _).mpr ⟨refused, rfl, rfl⟩
      have active := agree.1 _ _ accepted
      exact Or.inr ((introspectedActive_iff config authorizationStore entropy traceId contents
        token _ _).mp active)
  · intro condition
    have access : ∀ roles clientId,
        validateTokenForAccess config (some ("Bearer " ++ token)) = .valid roles clientId →
          IntrospectedActive config authorizationStore entropy traceId contents token roles
            clientId := by
      intro roles clientId accepted
      obtain ⟨usable, rfl, rfl⟩ := (validateTokenForAccess_iff config token _ _).mp accepted
      rw [introspectedActive_iff]
      exact condition.resolve_left usable
    refine ⟨access, ?_⟩
    intro admitted
    obtain ⟨roles, clientId, accepted, admin⟩ :=
      (validateAdminTokenForAccess_iff config _).mp admitted
    exact ⟨roles, clientId, accepted, access roles clientId accepted⟩

end Agreement

open Sample

/-- Every token names another signature algorithm. -/
private abbrev unsignedTokens : TokenLibrary where
  verify _ _ := .threw ⟨"Unexpected signature algorithm", none,
    some ⟨none, none, none, some "intruder", none, none, some ["admin"]⟩⟩
  compact _ _ := ""

/-- A token that the library rejects for its signature algorithm is accepted for access. -/
theorem rejected_token_accepted :
    ¬ @ChecksAgree Unit Core.Sample.runtime unsignedTokens config emptyStore entropy ⟨"trace"⟩ ()
      "token" := by
  intro agree
  have accepted : @validateTokenForAccess unsignedTokens config (some "Bearer token") =
      .valid [] "" := by decide
  have active := agree.1 [] "" accepted
  rw [@introspectedActive_iff] at active
  obtain ⟨⟨message, body, clientId, verified, -⟩, -⟩ := active
  cases verified

end Meadowlark.Authorization
