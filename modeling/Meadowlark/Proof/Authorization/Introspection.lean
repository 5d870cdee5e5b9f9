import Meadowlark.Construction.Authorization.ReadHandlers
import Meadowlark.Proof.Authorization.Credentials
import Meadowlark.Proof.Authorization.Tokens

namespace Meadowlark.Authorization
open Meadowlark.Core Systems

section Issue
variable [NodeRuntime] [ServerLibrary] [TokenLibrary] {Contents : Type} {config : Config}
  {authorizationStore : AuthorizationStore Contents} {entropy : Entropy}
  {contents following : Contents} {headers : Option Headers} {accessToken : String}
  {expiresIn : Option Int}

omit [NodeRuntime] [TokenLibrary] in
/-- The claims of a token keep the name and the roles that the client has when it asks for it. -/
def issuedClaims (config : Config) (clientId : String) (row : ClientRow) (now : Int) : JwtBody :=
  createToken config clientId row.clientName (row.roles.map (·.toText)) now

omit [NodeRuntime] in
theorem requestStoredToken_issues {credentials : ClientCredentials} {traceId : TraceId}
    {row : Option ClientRow}
    (found : (authorizationStore.getAuthorizationClient ⟨credentials.clientId, traceId⟩
      contents).1 = .ok (getResultOf row))
    (granted : authorizationStore.run entropy (requestStoredToken config credentials traceId)
      contents = (.ok ⟨200, headers, some (.token accessToken expiresIn)⟩, following)) :
    ∃ stored, row = some stored ∧ accessToken = TokenLibrary.compact
      (issuedClaims config credentials.clientId stored entropy.now) config.oauthSigningKey := by
  obtain ⟨result, middle, asked, answered⟩ := bind_returns granted
  have stored := congrArg Prod.fst (ask_returns asked)
  obtain rfl : getResultOf row = result := Except.ok.inj (found.symm.trans stored)
  cases row with
  | none => cases answered
  | some row =>
      refine ⟨row, rfl, ?_⟩
      dsimp only [getResultOf] at answered
      split at answered
      · cases answered
      · split at answered
        · cases answered
        · cases answered
          rfl

/-- With hardcoded credentials disabled, only a stored client gets a token. -/
theorem requestToken_issues {authorizationRequest : AuthorizationRequest} {clientId secret : String}
    {row : Option ClientRow}
    (parsed : parseRequestTokenBody authorizationRequest =
      .ok (.ok ⟨"client_credentials", clientId, secret⟩))
    (disabled : config.oauthHardCodedCredentialsEnabled = false)
    (found : (authorizationStore.getAuthorizationClient ⟨clientId, authorizationRequest.traceId⟩
      contents).1 = .ok (getResultOf row))
    (granted : authorizationStore.run entropy (requestToken config authorizationRequest) contents =
      (.ok ⟨200, headers, some (.token accessToken expiresIn)⟩, following)) :
    clientId ∉ [admin1.key, verifyOnly1.key] ∧
      ∃ stored, row = some stored ∧ accessToken = TokenLibrary.compact
        (issuedClaims config clientId stored entropy.now) config.oauthSigningKey := by
  have inner := guarded_returns granted (by decide : (200 : Nat) ≠ 500)
  obtain ⟨outcome, middle, settled, answered⟩ := bind_returns inner
  rw [run_settle, parsed] at settled
  cases settled
  dsimp only at answered
  rw [if_neg (not_not.mpr rfl)] at answered
  by_cases hardcoded : clientId = admin1.key ∨ clientId = verifyOnly1.key
  · rw [if_pos ⟨disabled, hardcoded⟩] at answered
    cases answered
  · obtain ⟨notAdmin, notVerifyOnly⟩ := not_or.mp hardcoded
    rw [if_neg fun both => hardcoded both.2, if_neg fun both => notAdmin both.1,
      if_neg fun both => notVerifyOnly both.1] at answered
    exact ⟨by simp [notAdmin, notVerifyOnly], requestStoredToken_issues found answered⟩

end Issue

section Verify
variable {Contents : Type} {config : Config} {authorizationStore : AuthorizationStore Contents}
  {entropy : Entropy} {contents : Contents} {traceId : TraceId}

/-- The flag that a row has counts as set only when it is there. -/
def ClientRow.usable (row : Option ClientRow) : Bool := (row.bind (·.active)).getD false

/-- A client without a hardcoded key is as active as its row. -/
theorem isValidClientId_found {clientId : String} {row : Option ClientRow}
    (stored : clientId ∉ [admin1.key, verifyOnly1.key])
    (found : (authorizationStore.getAuthorizationClient ⟨clientId, traceId⟩ contents).1 =
      .ok (getResultOf row)) :
    (authorizationStore.run entropy (isValidClientId config traceId (some clientId)) contents).1 =
      .ok (ClientRow.usable row) := by
  dsimp only [isValidClientId]
  rw [if_neg fun both => stored both.2]
  cases asked : authorizationStore.getAuthorizationClient ⟨clientId, traceId⟩ contents with
  | mk answer middle =>
      rw [asked] at found
      obtain rfl : answer = .ok (getResultOf row) := found
      have first : authorizationStore.run entropy
          (ask (.getAuthorizationClient ⟨clientId, traceId⟩)) contents =
            (.ok (getResultOf row), middle) := asked
      rw [run_bind_ok first]
      cases row with
      | none => rfl
      | some row => rfl

variable [TokenLibrary]

/-- The introspection of a token that the library accepts tells its claims. -/
theorem introspectBearerToken_issued {token clientId : String} {body : JwtBody}
    {row : Option ClientRow}
    (honest : TokenLibrary.verify token config.oauthSigningKey = .verified (some ⟨none, some body⟩))
    (issuer : body.iss = some config.oauthTokenIssuer)
    (audience : body.aud = some config.oauthTokenAudience) (client : body.clientId = some clientId)
    (stored : clientId ∉ [admin1.key, verifyOnly1.key])
    (found : (authorizationStore.getAuthorizationClient ⟨clientId, traceId⟩ contents).1 =
      .ok (getResultOf row)) :
    (authorizationStore.run entropy (introspectBearerToken config traceId token) contents).1 =
      .ok (.valid (introspectedTokenFrom (ClientRow.usable row) (some body))) := by
  unfold introspectBearerToken
  rw [honest]
  dsimp only [Option.bind_some]
  rw [if_neg (not_not.mpr issuer), if_neg (not_not.mpr audience), if_neg (by simp), bind_pure_comp,
    run_map, client, isValidClientId_found stored found]
  rfl

omit [TokenLibrary] in
/-- A client may verify its own tokens. -/
theorem introspectionResponse_own [NodeRuntime] (roles : List String)
    (introspectedToken : IntrospectedToken) :
    introspectionResponse roles introspectedToken.clientId (.valid introspectedToken) =
      ⟨200, none, some (.introspection introspectedToken)⟩ :=
  if_neg fun both => both.1 rfl

/-- The requester gets what the introspection of the token of its body says. -/
theorem verifyToken_response [NodeRuntime] [ServerLibrary]
    {authorizationRequest : AuthorizationRequest} {roles : List String} {requester : String}
    {verifyTokenBody : VerifyTokenBody} {introspection : IntrospectionResponse}
    (valid : validateTokenForAccess config (extractAuthorizationHeader authorizationRequest) =
      .valid roles requester)
    (parsed : parseVerifyTokenBody authorizationRequest = .ok (.ok verifyTokenBody))
    (introspected : (authorizationStore.run entropy (introspectBearerToken config
      authorizationRequest.traceId verifyTokenBody.token) contents).1 = .ok introspection) :
    (authorizationStore.run entropy (verifyToken config authorizationRequest) contents).1 =
      .ok (introspectionResponse roles requester introspection) := by
  cases ran : authorizationStore.run entropy (introspectBearerToken config
      authorizationRequest.traceId verifyTokenBody.token) contents with
  | mk answer following =>
      rw [ran] at introspected
      obtain rfl : answer = .ok introspection := introspected
      have inner : authorizationStore.run entropy
          (settle (parseVerifyTokenBody authorizationRequest)) contents =
            (.ok (.ok verifyTokenBody), contents) := by
        rw [run_settle, parsed]
      have answered : authorizationStore.run entropy (verifyToken config authorizationRequest)
          contents = (.ok (introspectionResponse roles requester introspection), following) := by
        apply run_guarded
        rw [valid]
        exact (run_bind_ok inner).trans (run_bind_ok ran)
      exact congrArg Prod.fst answered

end Verify

section Reads
variable [NodeRuntime] [ServerLibrary] [TokenLibrary] {Contents : Type} {config : Config}
  {authorizationStore : AuthorizationStore Contents} {entropy : Entropy}
  {contents following : Contents}

/-- The only call to the store finds a client. -/
def FindsClient (call : AuthorizationCall) : Prop := ∃ request, call = .getAuthorizationClient request

omit [NodeRuntime] [ServerLibrary] [TokenLibrary] in
theorem reads_isValidClientId (traceId : TraceId) (clientId : Option String) :
    Program.Confined FindsClient (fun _ => True) (isValidClientId config traceId clientId) := by
  cases clientId with
  | none => exact trivial
  | some clientId =>
      dsimp only [isValidClientId]
      split
      · exact trivial
      · refine ⟨⟨_, rfl⟩, fun answer => ?_⟩
        cases answer with
        | error error => exact trivial
        | ok result =>
            cases result with
            | getSuccess clientSecretHashed clientName active roles => exact trivial
            | getFailureNotExists => exact trivial
            | unknownFailure => exact trivial

omit [NodeRuntime] [ServerLibrary] in
theorem reads_introspectBearerToken (traceId : TraceId) (bearerToken : String) :
    Program.Confined FindsClient (fun _ => True) (introspectBearerToken config traceId bearerToken) := by
  unfold introspectBearerToken
  split
  · split
    · exact trivial
    · exact trivial
  · exact trivial
  · split
    · exact trivial
    · split
      · exact trivial
      · split
        · exact trivial
        · exact (reads_isValidClientId traceId _).bind fun _ _ => trivial

theorem reads_verifyToken (authorizationRequest : AuthorizationRequest) :
    Program.Confined FindsClient (fun _ => True) (verifyToken config authorizationRequest) := by
  apply Program.Confined.tryCatch
  · split
    · exact trivial
    · have parsed : Program.Confined FindsClient (fun _ => True)
          (settle (parseVerifyTokenBody authorizationRequest)) := by
        cases parseVerifyTokenBody authorizationRequest with
        | error error => exact trivial
        | ok outcome => exact trivial
      apply parsed.bind
      intro outcome _
      cases outcome with
      | error failureMessage => exact trivial
      | ok verifyTokenBody =>
          exact (reads_introspectBearerToken _ verifyTokenBody.token).bind fun _ _ => trivial
  · exact fun _ => trivial

/-- A verification leaves a store as it is that a search leaves as it is. -/
theorem verifyToken_leaves
    (reads : ∀ request, (authorizationStore.getAuthorizationClient request contents).2 = contents)
    (authorizationRequest : AuthorizationRequest) :
    (authorizationStore.run entropy (verifyToken config authorizationRequest) contents).2 =
      contents := by
  refine @Program.Within.runState_state _ _ _ _ _ _ _ _ _ (· = contents) _
    (reads_verifyToken authorizationRequest) ?_ rfl
  rintro call state ⟨request, rfl⟩ rfl
  exact reads request

end Reads

section Active
variable [NodeRuntime] [ServerLibrary] [TokenLibrary] {Contents : Type} {config : Config}
  {authorizationStore : AuthorizationStore Contents} {entropy : Entropy}
  {contents following : Contents} {authorizationRequest : AuthorizationRequest}
  {response : AuthorizationResponse}

/-- A verification with status 200 has introspected the token of its form. -/
theorem verifyToken_returns
    (done : authorizationStore.run entropy (verifyToken config authorizationRequest) contents =
      (.ok response, following)) (success : response.statusCode = 200) :
    ∃ verifyTokenBody introspectedToken,
      parseVerifyTokenBody authorizationRequest = .ok (.ok verifyTokenBody) ∧
      authorizationStore.run entropy (introspectBearerToken config authorizationRequest.traceId
        verifyTokenBody.token) contents = (.ok (.valid introspectedToken), following) ∧
      response = ⟨200, none, some (.introspection introspectedToken)⟩ := by
  have inner := guarded_returns done (by rw [success]; decide)
  cases valid : validateTokenForAccess config (extractAuthorizationHeader authorizationRequest) with
  | invalid errorResponse =>
      rw [valid] at inner
      cases inner
      cases success
  | valid roles clientId =>
      rw [valid] at inner
      obtain ⟨outcome, middle, settled, answered⟩ := bind_returns inner
      rw [run_settle] at settled
      obtain ⟨parsed, rfl⟩ := Prod.mk.inj settled
      cases outcome with
      | error failureMessage =>
          cases answered
          cases success
      | ok verifyTokenBody =>
          obtain ⟨introspection, last, introspected, told⟩ := bind_returns answered
          cases introspection with
          | invalid =>
              cases told
              cases success
          | valid introspectedToken =>
              refine ⟨verifyTokenBody, introspectedToken, parsed, ?_⟩
              rw [run_pure] at told
              obtain ⟨sent, rfl⟩ := Prod.mk.inj told
              refine ⟨introspected, ?_⟩
              have same := Except.ok.inj sent
              dsimp only [introspectionResponse] at same
              split at same
              · rw [← same] at success
                cases success
              · exact same.symm

/-- The claims of an active token, and what makes its client active. -/
structure ActiveClaims (config : Config) (known : String → Bool) (token clientId : String)
    (body : JwtBody) : Prop where
  honest : ∃ message, TokenLibrary.verify token config.oauthSigningKey =
    .verified (some ⟨message, some body⟩)
  issuer : body.iss = some config.oauthTokenIssuer
  audience : body.aud = some config.oauthTokenAudience
  client : body.clientId = some clientId
  active : (config.environmentHardCodedCredentialsEnabled = true ∧
    clientId ∈ [admin1.key, verifyOnly1.key]) ∨ known clientId = true

omit [NodeRuntime] [ServerLibrary] [TokenLibrary] in
theorem isValidClientId_returns {traceId : TraceId} {clientId : Option String}
    {rows : String → Option ClientRow}
    (found : ∀ request, (authorizationStore.getAuthorizationClient request contents).1 =
      .ok (getResultOf (rows request.clientId)))
    (done : authorizationStore.run entropy (isValidClientId config traceId clientId) contents =
      (.ok true, following)) :
    ∃ key, clientId = some key ∧ ((config.environmentHardCodedCredentialsEnabled = true ∧
      key ∈ [admin1.key, verifyOnly1.key]) ∨ ClientRow.usable (rows key) = true) := by
  cases clientId with
  | none => cases done
  | some key =>
      refine ⟨key, rfl, ?_⟩
      dsimp only [isValidClientId] at done
      split at done
      · rename_i hardcoded
        exact .inl hardcoded
      · right
        obtain ⟨result, middle, asked, answered⟩ := bind_returns done
        have stored := congrArg Prod.fst (ask_returns asked)
        obtain rfl : getResultOf (rows key) = result := Except.ok.inj ((found _).symm.trans stored)
        cases row : rows key with
        | none =>
            rw [row] at answered
            cases answered
        | some row =>
            simp only [row, getResultOf] at answered
            exact Except.ok.inj (congrArg Prod.fst answered)

omit [NodeRuntime] [ServerLibrary] in
theorem introspectBearerToken_returns {traceId : TraceId} {token : String}
    {introspectedToken : IntrospectedToken} {rows : String → Option ClientRow}
    (found : ∀ request, (authorizationStore.getAuthorizationClient request contents).1 =
      .ok (getResultOf (rows request.clientId)))
    (done : authorizationStore.run entropy (introspectBearerToken config traceId token) contents =
      (.ok (.valid introspectedToken), following)) (active : introspectedToken.active = true) :
    ∃ clientId body,
      ActiveClaims config (fun clientId => ClientRow.usable (rows clientId)) token clientId body ∧
      introspectedToken = introspectedTokenFrom true (some body) := by
  unfold introspectBearerToken at done
  split at done
  · split at done
    · cases done
    · cases done
      cases active
  · cases done
  · rename_i jwt honest
    split at done
    · cases done
    · rename_i issuer
      split at done
      · cases done
      · rename_i audience
        split at done
        · cases done
          cases active
        · obtain ⟨message, body⟩ := jwt
          cases body with
          | none => exact absurd (by simp) issuer
          | some body =>
              obtain ⟨valid, middle, checked, told⟩ := bind_returns done
              rw [run_pure] at told
              obtain ⟨told, -⟩ := Prod.mk.inj told
              have same := IntrospectionResponse.valid.inj (Except.ok.inj told)
              obtain rfl : valid = true := by rw [← same] at active; exact active
              obtain ⟨clientId, client, usable⟩ := isValidClientId_returns found checked
              exact ⟨clientId, body, ⟨⟨message, honest⟩, not_not.mp issuer, not_not.mp audience,
                client, usable⟩, same.symm⟩

end Active

section Lifecycle
variable [NodeRuntime] [ServerLibrary] [TokenLibrary] {Contents : Type} {config : Config}
  {authorizationStore : AuthorizationStore Contents} {start contents following : Contents}
  {events later : List CredentialEvent}

/-- Calls that follow on a sequence of calls extend it. -/
theorem Served.trans (served : Served config authorizationStore start events contents)
    (continued : Served config authorizationStore contents later following) :
    Served config authorizationStore start (events ++ later) following := by
  induction continued with
  | initial => rwa [List.append_nil]
  | call earlier answered succeeded ih =>
      rw [← List.append_assoc]
      exact ih.call answered succeeded

/-- What the server tells about a token that it has issued to a client with this row.
The name and the roles are the ones of that time, and the flag is the one of the ledger. -/
def issuedToken (config : Config) (kept : Option Bool → Option Bool) (ledger : Ledger)
    (clientId : String) (row : ClientRow) (now : Int) : IntrospectedToken where
  active := ((ledger clientId).bind fun account => kept account.active).getD false
  clientId := clientId
  sub := row.clientName
  aud := config.oauthTokenAudience
  iss := config.oauthTokenIssuer
  exp := (now + config.oauthExpirationMinutes * 60 * 1000) / 1000
  iat := now / 1000
  roles := row.roles.map (·.toText)

variable {Regular : Contents → Prop} {rows : Contents → String → Option ClientRow}
  {kept : Option Bool → Option Bool}

omit [NodeRuntime] [TokenLibrary] in
theorem Represents.usable {ledger : Ledger} {clientId : String}
    (represents : Represents kept (rows contents) ledger) :
    ClientRow.usable (rows contents clientId) =
      ((ledger clientId).bind fun account => kept account.active).getD false := by
  have same := represents clientId
  unfold ClientRow.usable
  cases row : rows contents clientId with
  | none =>
      cases account : ledger clientId with
      | none => rfl
      | some account => simp [row, account] at same
  | some row =>
      cases account : ledger clientId with
      | none => simp [*] at same
      | some account =>
          simp [*] at same
          simp [same.2]

/-- A token that the server issues is verified by the state of its client at that later time.
The library has to accept the token, and the requester needs a token of its own. -/
def VerifiesIssued (config : Config) (authorizationStore : AuthorizationStore Contents)
    (rows : Contents → String → Option ClientRow) (kept : Option Bool → Option Bool)
    (events : List CredentialEvent) (contents : Contents) : Prop :=
  ∀ tokenRequest clientId secret headers accessToken expiresIn entropy middle,
    parseRequestTokenBody tokenRequest = .ok (.ok ⟨"client_credentials", clientId, secret⟩) →
    authorizationStore.run entropy (requestToken config tokenRequest) contents =
      (.ok ⟨200, headers, some (.token accessToken expiresIn)⟩, middle) →
    ∃ row, rows contents clientId = some row ∧
      accessToken =
        TokenLibrary.compact (issuedClaims config clientId row entropy.now) config.oauthSigningKey ∧
      ∀ later following verifyEntropy, Served config authorizationStore contents later following →
        TokenLibrary.verify accessToken config.oauthSigningKey =
          .verified (some ⟨none, some (issuedClaims config clientId row entropy.now)⟩) →
        ∀ verifyRequest roles requester hint,
          validateTokenForAccess config (extractAuthorizationHeader verifyRequest) =
            .valid roles requester →
          parseVerifyTokenBody verifyRequest = .ok (.ok ⟨accessToken, hint⟩) →
          (authorizationStore.run verifyEntropy (verifyToken config verifyRequest) following).1 =
            .ok (introspectionResponse roles requester (.valid
              (issuedToken config kept (ledgerOf (events ++ later)) clientId row entropy.now)))

theorem verifiesIssued (keeps : KeepsClients authorizationStore Regular rows kept)
    (regular : Regular start) (fresh : rows start = fun _ => none)
    (disabled : config.oauthHardCodedCredentialsEnabled = false)
    (served : Served config authorizationStore start events contents) :
    VerifiesIssued config authorizationStore rows kept events contents := by
  intro tokenRequest clientId secret headers accessToken expiresIn entropy middle parsed granted
  obtain ⟨stillRegular, -⟩ := served.represents keeps regular fresh
  obtain ⟨stored, row, present, issued⟩ :=
    requestToken_issues parsed disabled (keeps.found stillRegular) granted
  refine ⟨row, present, issued, ?_⟩
  intro later following verifyEntropy continued honest verifyRequest roles requester hint valid form
  obtain ⟨laterRegular, represents⟩ := (served.trans continued).represents keeps regular fresh
  have introspected : (authorizationStore.run verifyEntropy (introspectBearerToken config
      verifyRequest.traceId accessToken) following).1 = _ :=
    introspectBearerToken_issued honest rfl rfl rfl stored (keeps.found laterRegular)
  rw [represents.usable] at introspected
  exact verifyToken_response valid form introspected

end Lifecycle
end Meadowlark.Authorization
