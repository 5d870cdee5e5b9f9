import Meadowlark.Proof.Authorization.Introspection
import Meadowlark.Proof.Core.Authorization

namespace Meadowlark.Authorization
open Meadowlark.Core Systems

section Model

/-- The fields of a token as its response sends them. -/
def IntrospectedToken.toJson (introspectedToken : IntrospectedToken) : Json :=
  .object
    [("active", .boolean introspectedToken.active),
      ("client_id", .string introspectedToken.clientId), ("sub", .string introspectedToken.sub),
      ("aud", .string introspectedToken.aud), ("iss", .string introspectedToken.iss),
      ("exp", .number (toString introspectedToken.exp)),
      ("iat", .number (toString introspectedToken.iat)),
      ("roles", .array (introspectedToken.roles.map .string))]

/-- Meadowlark receives a response of the authorization server. The other bodies are not read. -/
structure Receives (response : AuthorizationResponse) (received : OAuthResponse) : Prop where
  status : received.status = response.statusCode
  data : ∀ introspectedToken, response.body = some (.introspection introspectedToken) →
    received.data = some introspectedToken.toJson

/-- The request that Meadowlark sends for the verification of a client token. -/
structure AsksVerification (clientBearerToken : String) (ownAccessToken : Option Json)
    (authorizationRequest : AuthorizationRequest) : Prop where
  body : authorizationRequest.body = some ("token=" ++ clientBearerToken)
  contentType : authorizationRequest.headers.lookup "content-type" =
    some "application/x-www-form-urlencoded"
  authorization : authorizationRequest.headers.lookup "authorization" =
    some ("bearer " ++ (ownAccessToken.map (·.toTemplateText)).getD "undefined")

/-- The authorization server has verified a token at this time, after these events. -/
structure Moment where
  events : List CredentialEvent
  time : Int

/-- Meadowlark with its caches, and the authorization server with its store. -/
structure Deployment (Contents : Type) where
  caches : TokenCaches
  contents : Contents
  events : List CredentialEvent
  moments : List Moment

variable [NodeRuntime] [ServerLibrary] [TokenLibrary] {Contents : Type} (config : Config)
  (authorizationStore : AuthorizationStore Contents) (timeToLive : ℕ+)

/-- The authorization server works out the answer for a client token when the answer arrives.
The answer for the own token can be anything.
Either request can fail, and a verification with an error of the server does. -/
inductive Deployment.Answers (deployment : Deployment Contents) :
    (call : Call) → call.Answer → Deployment Contents → Prop where
  | cached {call : Call} {answer : call.Answer} {following : TokenCaches}
      (other : call.oauthRequest ≠ some .clientTokenVerification)
      (answered : deployment.caches.Answers timeToLive call answer following) :
      Answers deployment call answer { deployment with caches := following }
  | failed (clientBearerToken : String) (ownAccessToken : Option Json) (error : Exception) :
      Answers deployment (.fetchClientTokenVerification clientBearerToken ownAccessToken)
        (.error error) deployment
  | verified {clientBearerToken : String} {ownAccessToken : Option Json}
      {authorizationRequest : AuthorizationRequest} {entropy : Entropy}
      {response : AuthorizationResponse} {received : OAuthResponse} {following : Contents}
      (asked : AsksVerification clientBearerToken ownAccessToken authorizationRequest)
      (answered : authorizationStore.run entropy (verifyToken config authorizationRequest)
        deployment.contents = (.ok response, following))
      (accepted : response.statusCode < 500) (receives : Receives response received) :
      Answers deployment (.fetchClientTokenVerification clientBearerToken ownAccessToken)
        (.ok received)
        ⟨deployment.caches.verified clientBearerToken (.ok received), following, deployment.events,
          ⟨deployment.events, deployment.caches.now⟩ :: deployment.moments⟩

/-- Time passes, or the authorization server answers a call for credentials with a success. -/
inductive Deployment.Drifts (deployment : Deployment Contents) : Deployment Contents → Prop where
  | passes {later : Int} (ordered : deployment.caches.now ≤ later) :
      Drifts deployment { deployment with caches := { deployment.caches with now := later } }
  | serves {call : CredentialCall} {entropy : Entropy} {response : AuthorizationResponse}
      {event : CredentialEvent} {following : Contents}
      (answered : authorizationStore.run entropy (call.handle config) deployment.contents =
        (.ok response, following)) (succeeded : call.event response = some event) :
      Drifts deployment
        { deployment with contents := following, events := deployment.events ++ [event] }

/-- The requests in authorization share the caches with each other and run against the
authorization server, which answers other calls at the same time. -/
def deploymentHost : Host (Deployment Contents) MiddlewareModel Call
    (Except Exception MiddlewareModel) Call.Answer where
  program model := (authorize model).run
  awaited call := call.oauthRequest.isSome
  serves call deployment := deployment.Answers config authorizationStore timeToLive call
  drifts deployment := deployment.Drifts config authorizationStore

end Model

section Vouching
variable [NodeRuntime] [ServerLibrary] [TokenLibrary] {Contents : Type} {config : Config}
  {authorizationStore : AuthorizationStore Contents} {kept : Option Bool → Option Bool}

/-- The flag of a client as a store keeps it. -/
def ledgerActive (kept : Option Bool → Option Bool) (ledger : Ledger) (clientId : String) : Bool :=
  ((ledger clientId).bind fun account => kept account.active).getD false

/-- By this ledger, the token is honest and its client active, and its claims give this
information. The server reads the token from the form, where the bearer token stands unescaped. -/
def Vouches (config : Config) (kept : Option Bool → Option Bool) (ledger : Ledger)
    (clientBearerToken : String) (clientTokenInfo : ClientTokenInfo) : Prop :=
  ∃ authorizationRequest verifyTokenBody clientId body authorizationStrategy,
    authorizationRequest.body = some ("token=" ++ clientBearerToken) ∧
    parseVerifyTokenBody authorizationRequest = .ok (.ok verifyTokenBody) ∧
    ActiveClaims config (ledgerActive kept ledger) verifyTokenBody.token clientId body ∧
    determineAuthStrategyFromRoles ((body.roles.getD []).map .string) =
      .ok authorizationStrategy ∧
    clientTokenInfo = ⟨⟨authorizationStrategy, clientId⟩,
      .string "assessment" ∉ (body.roles.getD []).map Json.string⟩

omit [ServerLibrary] [TokenLibrary] in
/-- The information that a sent token gives is the one of its client and its roles. -/
theorem clientTokenInfoFrom_toJson {introspectedToken : IntrospectedToken}
    {clientTokenInfo : ClientTokenInfo}
    (derived : clientTokenInfoFrom (some introspectedToken.toJson) = .ok clientTokenInfo) :
    ∃ authorizationStrategy,
      determineAuthStrategyFromRoles (introspectedToken.roles.map .string) =
        .ok authorizationStrategy ∧
      clientTokenInfo = ⟨⟨authorizationStrategy, introspectedToken.clientId⟩,
        .string "assessment" ∉ introspectedToken.roles.map Json.string⟩ := by
  change (determineAuthStrategyFromRoles (introspectedToken.roles.map .string) >>= fun
    authorizationStrategy => pure (ClientTokenInfo.mk
      ⟨authorizationStrategy, introspectedToken.clientId⟩
      (.string "assessment" ∉ introspectedToken.roles.map Json.string))) = _ at derived
  cases determined : determineAuthStrategyFromRoles (introspectedToken.roles.map .string) with
  | error error =>
      rw [determined] at derived
      cases derived
  | ok authorizationStrategy =>
      rw [determined] at derived
      exact ⟨authorizationStrategy, rfl, (Except.ok.inj derived).symm⟩

/-- What a response gives that Meadowlark receives, the ledger of that time vouches for. -/
theorem verifyToken_vouches {entropy : Entropy} {contents following : Contents} {ledger : Ledger}
    {rows : Contents → String → Option ClientRow} {clientBearerToken : String}
    {ownAccessToken : Option Json} {authorizationRequest : AuthorizationRequest}
    {response : AuthorizationResponse} {received : OAuthResponse} {clientTokenInfo : ClientTokenInfo}
    (found : ∀ request, (authorizationStore.getAuthorizationClient request contents).1 =
      .ok (getResultOf (rows contents request.clientId)))
    (represents : Represents kept (rows contents) ledger)
    (asked : AsksVerification clientBearerToken ownAccessToken authorizationRequest)
    (answered : authorizationStore.run entropy (verifyToken config authorizationRequest) contents =
      (.ok response, following)) (receives : Receives response received)
    (grants : received.Grants clientTokenInfo) :
    Vouches config kept ledger clientBearerToken clientTokenInfo := by
  obtain ⟨verifyTokenBody, introspectedToken, parsed, introspected, rfl⟩ :=
    verifyToken_returns answered (receives.status.symm.trans grants.status)
  have data := receives.data introspectedToken rfl
  have active : introspectedToken.active = true := by
    have shown := grants.active
    rw [data] at shown
    exact shown
  obtain ⟨clientId, body, claims, rfl⟩ := introspectBearerToken_returns found introspected active
  have derived := grants.derived
  rw [data] at derived
  obtain ⟨authorizationStrategy, determined, rfl⟩ := clientTokenInfoFrom_toJson derived
  have same : (fun clientId => ClientRow.usable (rows contents clientId)) =
      ledgerActive kept ledger := funext fun clientId => represents.usable
  rw [same] at claims
  refine ⟨authorizationRequest, verifyTokenBody, clientId, body, authorizationStrategy, asked.body,
    parsed, claims, determined, ?_⟩
  simp [introspectedTokenFrom, claims.client]

end Vouching

section Runs
variable [NodeRuntime] [ServerLibrary] [TokenLibrary] {Contents : Type} {config : Config}
  {authorizationStore : AuthorizationStore Contents} {kept : Option Bool → Option Bool}
  {start : Contents} {timeToLive : ℕ+} {deployment following : Deployment Contents}

def Deployment.fresh (start : Contents) (now : Int) : Deployment Contents :=
  ⟨.empty now, start, [], []⟩

/-- The events lead to the contents, and a recorded moment vouches for every verification. -/
structure Deployment.Healthy (config : Config) (authorizationStore : AuthorizationStore Contents)
    (kept : Option Bool → Option Bool) (start : Contents) (deployment : Deployment Contents) :
    Prop where
  served : Served config authorizationStore start deployment.events deployment.contents
  past : ∀ moment ∈ deployment.moments,
    moment.events <+: deployment.events ∧ moment.time ≤ deployment.caches.now
  vouched : ∀ verification ∈ deployment.caches.verifications, ∀ clientTokenInfo,
    verification.response.Grants clientTokenInfo →
      ∃ moment ∈ deployment.moments, moment.time = verification.answeredAt ∧
        Vouches config kept (ledgerOf moment.events) verification.clientBearerToken clientTokenInfo

omit [NodeRuntime] [ServerLibrary] [TokenLibrary] in
/-- Only the answer to a verification is recorded, and no answer takes time. -/
theorem answers_verifications {caches following : TokenCaches} {call : Call} {answer : call.Answer}
    (other : call.oauthRequest ≠ some .clientTokenVerification)
    (answered : caches.Answers timeToLive call answer following) :
    following.verifications = caches.verifications ∧ following.now = caches.now := by
  cases answered with
  | verified clientBearerToken ownAccessToken answer => exact absurd rfl other
  | missed clientBearerToken => exact ⟨rfl, rfl⟩
  | found latest alive => exact ⟨rfl, rfl⟩
  | set clientBearerToken clientTokenInfo => exact ⟨rfl, rfl⟩
  | foundOwn => exact ⟨rfl, rfl⟩
  | setOwn ownAccessToken => exact ⟨rfl, rfl⟩
  | fetchedOwn answer => exact ⟨rfl, rfl⟩

/-- The caches of a deployment are answered as the authorization module expects. -/
theorem Deployment.Answers.caches {call : Call} {answer : call.Answer}
    (answered : deployment.Answers config authorizationStore timeToLive call answer following) :
    deployment.caches.Answers timeToLive call answer following.caches := by
  cases answered with
  | cached other answered => exact answered
  | failed clientBearerToken ownAccessToken error =>
      exact .verified clientBearerToken ownAccessToken (.error error)
  | verified asked answered accepted receives => exact .verified _ _ (.ok _)

variable {Regular : Contents → Prop} {rows : Contents → String → Option ClientRow}
  (keeps : KeepsClients authorizationStore Regular rows kept)
  (reads : ∀ contents, Regular contents → ∀ request,
    (authorizationStore.getAuthorizationClient request contents).2 = contents)
  (regular : Regular start) (empty : rows start = fun _ => none)

include keeps reads regular empty in
theorem Deployment.Healthy.answer {call : Call} {answer : call.Answer}
    (healthy : deployment.Healthy config authorizationStore kept start)
    (answered : deployment.Answers config authorizationStore timeToLive call answer following) :
    following.Healthy config authorizationStore kept start := by
  cases answered with
  | cached other answered =>
      obtain ⟨recorded, time⟩ := answers_verifications other answered
      refine ⟨healthy.served, ?_, ?_⟩
      · dsimp only
        rw [time]
        exact healthy.past
      · dsimp only
        rw [recorded]
        exact healthy.vouched
  | failed clientBearerToken ownAccessToken error => exact healthy
  | @verified clientBearerToken ownAccessToken authorizationRequest entropy response received left
      asked answered accepted receives =>
      obtain ⟨still, represents⟩ := healthy.served.represents keeps regular empty
      obtain rfl : deployment.contents = left :=
        (verifyToken_leaves (reads _ still) authorizationRequest).symm.trans
          (congrArg Prod.snd answered)
      refine ⟨healthy.served, ?_, ?_⟩
      · intro moment inside
        rcases List.mem_cons.mp inside with rfl | earlier
        · exact ⟨List.prefix_refl _, le_refl _⟩
        · exact healthy.past moment earlier
      · intro verification inside clientTokenInfo grants
        rcases List.mem_cons.mp inside with rfl | earlier
        · exact ⟨_, List.mem_cons_self, rfl,
            verifyToken_vouches (fun _ => keeps.found still) represents asked answered receives grants⟩
        · obtain ⟨moment, recorded, vouches⟩ :=
            healthy.vouched verification earlier clientTokenInfo grants
          exact ⟨moment, List.mem_cons_of_mem _ recorded, vouches⟩

theorem Deployment.Healthy.drift (healthy : deployment.Healthy config authorizationStore kept start)
    (drifted : deployment.Drifts config authorizationStore following) :
    following.Healthy config authorizationStore kept start := by
  cases drifted with
  | passes ordered =>
      refine ⟨healthy.served, ?_, healthy.vouched⟩
      intro moment inside
      obtain ⟨earlier, before⟩ := healthy.past moment inside
      exact ⟨earlier, before.trans ordered⟩
  | serves answered succeeded =>
      refine ⟨healthy.served.call answered succeeded, ?_, healthy.vouched⟩
      intro moment inside
      obtain ⟨earlier, before⟩ := healthy.past moment inside
      exact ⟨earlier.trans (List.prefix_append _ _), before⟩

/-- A request that authorization lets pass without security from upstream has a token that was
verified less than the time to live ago, and the ledger of that time vouches for it. -/
def PassesByLedger (config : Config) (kept : Option Bool → Option Bool) (timeToLive : ℕ+)
    (deployment : Deployment Contents) (model answered : MiddlewareModel) : Prop :=
  answered.frontendResponse = none →
    model.frontendRequest.middleware.providedSecurity = none →
      ∃ clientBearerToken clientTokenInfo, ∃ moment ∈ deployment.moments,
        extractClientBearerTokenFrom model.frontendRequest = some clientBearerToken ∧
        answered = acceptClientToken model.frontendRequest clientTokenInfo ∧
        moment.events <+: deployment.events ∧ moment.time ≤ deployment.caches.now ∧
        deployment.caches.now < moment.time + timeToLive ∧
        Vouches config kept (ledgerOf moment.events) clientBearerToken clientTokenInfo

theorem passesByLedger_of_outcome {model answered : MiddlewareModel}
    (healthy : deployment.Healthy config authorizationStore kept start)
    (outcome : AuthorizeOutcome timeToLive model deployment.caches answered) :
    PassesByLedger config kept timeToLive deployment model answered := by
  intro unanswered undefined
  cases outcome with
  | answeredBefore present =>
      rw [present] at unanswered
      cases unanswered
  | providedUpstream _ provided =>
      rw [provided] at undefined
      cases undefined
  | verified _ _ bearer verifies =>
      obtain ⟨verification, recorded, rfl, grants, alive⟩ := verifies
      obtain ⟨moment, inside, time, vouches⟩ := healthy.vouched verification recorded _ grants
      obtain ⟨earlier, before⟩ := healthy.past moment inside
      rw [← time] at alive
      exact ⟨_, _, moment, inside, bearer, rfl, earlier, before, alive, vouches⟩
  | refused => cases unanswered

include keeps reads regular empty in
/-- In every interleaving, authorization answers each request or lets it pass by the ledger. -/
theorem deployment_passes {now : Int}
    {system : Hosted (Deployment Contents) MiddlewareModel Call (Except Exception MiddlewareModel)
      Call.Answer}
    (reached : (deploymentHost config authorizationStore timeToLive).Reached (fun _ _ => True)
      (.fresh start now) system)
    {activity : Activity (Deployment Contents) MiddlewareModel Call
      (Except Exception MiddlewareModel) Call.Answer}
    (inside : activity ∈ system.activities) {outcome : Except Exception MiddlewareModel}
    (returned : activity.rest = .pure outcome) :
    ∃ answered, outcome = .ok answered ∧
      PassesByLedger config kept timeToLive activity.seen activity.input answered := by
  have safe : ∀ (deployment : Deployment Contents) model,
      deployment.caches.Sound ∧ deployment.Healthy config authorizationStore kept start →
        (deploymentHost config authorizationStore timeToLive).Safe
          (fun deployment => deployment.caches.Sound ∧
            deployment.Healthy config authorizationStore kept start)
          (fun _ deployment outcome => Outcome model timeToLive deployment.caches outcome ∧
            deployment.Healthy config authorizationStore kept start)
          ((deploymentHost config authorizationStore timeToLive).program model) [] deployment := by
    intro deployment model healthy
    exact Host.Safe.refine (authorizes_authorize model) rfl
      (fun call state answer following _ answered => answered.caches)
      (fun call state answer following healthy answered _ =>
        healthy.answer keeps reads regular empty answered) healthy.2
  have drifts : ∀ deployment following : Deployment Contents,
      deployment.caches.Sound ∧ deployment.Healthy config authorizationStore kept start →
        (deploymentHost config authorizationStore timeToLive).drifts deployment following →
          following.caches.Sound ∧ following.Healthy config authorizationStore kept start := by
    intro deployment following healthy drifted
    refine ⟨?_, healthy.2.drift drifted⟩
    cases drifted with
    | passes ordered => exact healthy.1
    | serves answered succeeded => exact healthy.1
  have initial : (Deployment.fresh start now).caches.Sound ∧
      (Deployment.fresh start now).Healthy config authorizationStore kept start := by
    refine ⟨?_, .initial, ?_, ?_⟩
    · intro cached stored
      cases stored
    · intro moment inside
      cases inside
    · intro verification inside
      cases inside
  obtain ⟨⟨answered, rfl, outcome⟩, healthy⟩ := reached.returned safe drifts initial inside returned
  exact ⟨answered, rfl, passesByLedger_of_outcome healthy outcome⟩

end Runs
end Meadowlark.Authorization
