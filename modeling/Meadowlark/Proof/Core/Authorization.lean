import Meadowlark.Construction.Core.TokenCaches
import Meadowlark.Proof.Core.EntryPoint

namespace Meadowlark.Core
open Systems

section Claims
variable [NodeRuntime]

/-- The response verifies an active token and gives it this information. -/
structure OAuthResponse.Grants (response : OAuthResponse) (clientTokenInfo : ClientTokenInfo) :
    Prop where
  status : response.status = 200
  active : isActive response.data = true
  derived : clientTokenInfoFrom response.data = .ok clientTokenInfo

/-- A verification of this token has given this information less than the time to live ago. -/
def TokenCaches.Verifies (timeToLive : ℕ+) (caches : TokenCaches) (clientBearerToken : String)
    (clientTokenInfo : ClientTokenInfo) : Prop :=
  ∃ verification ∈ caches.verifications, verification.clientBearerToken = clientBearerToken ∧
    verification.response.Grants clientTokenInfo ∧
    caches.now < verification.answeredAt + timeToLive

/-- What authorization makes of a request, by the caches at that time. -/
inductive AuthorizeOutcome (timeToLive : ℕ+) (model : MiddlewareModel) (caches : TokenCaches) :
    MiddlewareModel → Prop where
  | answeredBefore {frontendResponse : FrontendResponse}
      (answered : model.frontendResponse = some frontendResponse) :
      AuthorizeOutcome timeToLive model caches model
  | providedUpstream {security : Security} (unanswered : model.frontendResponse = none)
      (provided : model.frontendRequest.middleware.providedSecurity = some security) :
      AuthorizeOutcome timeToLive model caches model
  | verified {clientBearerToken : String} {clientTokenInfo : ClientTokenInfo}
      (unanswered : model.frontendResponse = none)
      (undefined : model.frontendRequest.middleware.providedSecurity = none)
      (bearer : extractClientBearerTokenFrom model.frontendRequest = some clientBearerToken)
      (verifies : caches.Verifies timeToLive clientBearerToken clientTokenInfo) :
      AuthorizeOutcome timeToLive model caches
        (acceptClientToken model.frontendRequest clientTokenInfo)
  | refused {frontendResponse : FrontendResponse} (unanswered : model.frontendResponse = none)
      (undefined : model.frontendRequest.middleware.providedSecurity = none)
      (error : 400 ≤ frontendResponse.statusCode) :
      AuthorizeOutcome timeToLive model caches (respondWith model.frontendRequest frontendResponse)

end Claims

section Soundness
variable [NodeRuntime] {timeToLive : ℕ+} {caches following : TokenCaches}

/-- Every entry of the client token cache was set when its token was verified. -/
def TokenCaches.Sound (caches : TokenCaches) : Prop :=
  ∀ cached ∈ caches.cachedClientTokens, ∃ verification ∈ caches.verifications,
    verification.clientBearerToken = cached.clientBearerToken ∧
      verification.answeredAt = cached.setAt ∧ verification.response.Grants cached.clientTokenInfo

theorem TokenCaches.Sound.verified (sound : caches.Sound) (clientBearerToken : String)
    (answer : Except Exception OAuthResponse) :
    (caches.verified clientBearerToken answer).Sound := by
  cases answer with
  | error error => exact sound
  | ok response =>
      intro cached inside
      obtain ⟨verification, answered, same⟩ := sound cached inside
      exact ⟨verification, List.mem_cons_of_mem _ answered, same⟩

/-- The entry of a token that was just verified keeps the cache sound. -/
theorem TokenCaches.Sound.set (sound : caches.Sound) {clientBearerToken : String}
    {response : OAuthResponse} {clientTokenInfo : ClientTokenInfo}
    (answered : ⟨clientBearerToken, response, caches.now⟩ ∈ caches.verifications)
    (grants : response.Grants clientTokenInfo) :
    TokenCaches.Sound { caches with
      cachedClientTokens :=
        ⟨clientBearerToken, clientTokenInfo, caches.now⟩ :: caches.cachedClientTokens } := by
  intro cached inside
  rcases List.mem_cons.mp inside with rfl | old
  · exact ⟨_, answered, rfl, rfl, grants⟩
  · exact sound cached old

/-- An entry that is found alive stands for a verification of its token. -/
theorem TokenCaches.Sound.found (sound : caches.Sound) {clientBearerToken : String}
    {cached : CachedClientToken}
    (latest : caches.cachedClientTokens.find? (·.clientBearerToken = clientBearerToken) =
      some cached) (alive : caches.now < cached.setAt + timeToLive) :
    caches.Verifies timeToLive clientBearerToken cached.clientTokenInfo := by
  obtain ⟨verification, answered, token, time, grants⟩ :=
    sound cached (List.mem_of_find?_eq_some latest)
  have same : cached.clientBearerToken = clientBearerToken := by
    simpa using List.find?_some latest
  exact ⟨verification, answered, token.trans same, grants, by rw [time]; exact alive⟩

end Soundness

section Functions
variable [NodeRuntime] {timeToLive : ℕ+} {caches : TokenCaches} {calls : List Call}

/-- A program of the authorization module is safe on sound caches. -/
abbrev Authorizes {A : Type} (timeToLive : ℕ+)
    (post : TokenCaches → Except Exception A → Prop) (program : Frontend A) (calls : List Call)
    (caches : TokenCaches) : Prop :=
  (authorizeHost timeToLive).Safe TokenCaches.Sound (fun _ => post) program.run calls caches

/-- The own token is there, or the response in its place is an error. -/
def TokenFound (outcome : Except Exception (Except FrontendResponse (Option Json))) : Prop :=
  ∃ found, outcome = .ok found ∧ TokenOutcome found

theorem authorizes_requestOwnAccessToken :
    Authorizes timeToLive (fun _ => TokenFound) requestOwnAccessToken calls caches := by
  unfold requestOwnAccessToken
  apply Host.safe_tryCatch
  rintro middle healthy - answer following ⟨⟩
  refine ⟨healthy, ?_⟩
  cases answer with
  | error error => exact ⟨_, rfl, tokenOutcome_error (by decide)⟩
  | ok response =>
      change Host.Safe _ _ _ (ite (response.status = 200) _ _ : Frontend _).run _ _
      split
      · apply Host.safe_bind
        cases ownAccessTokenFrom response.data with
        | error error => exact ⟨_, rfl, tokenOutcome_error (by decide)⟩
        | ok ownAccessToken => exact ⟨_, rfl, tokenOutcome_ok ownAccessToken⟩
      · split
        · exact ⟨_, rfl, tokenOutcome_error (by decide)⟩
        · exact ⟨_, rfl, tokenOutcome_error (by decide)⟩

theorem authorizes_refreshOwnAccessToken :
    Authorizes timeToLive (fun _ => TokenFound) refreshOwnAccessToken calls caches := by
  unfold refreshOwnAccessToken
  apply Host.safe_bind
  apply authorizes_requestOwnAccessToken.mono
  rintro calls caches _ ⟨found, rfl, known⟩
  cases found with
  | error errorResponse => exact ⟨_, rfl, known⟩
  | ok ownAccessToken =>
      rintro middle healthy - answer following ⟨⟩
      exact ⟨healthy, _, rfl, tokenOutcome_ok ownAccessToken⟩

theorem authorizes_findOwnAccessToken :
    Authorizes timeToLive (fun _ => TokenFound) findOwnAccessToken calls caches := by
  unfold findOwnAccessToken
  apply Host.safe_bind
  rintro middle healthy - answer following ⟨⟩
  refine ⟨healthy, ?_⟩
  change Host.Safe _ _ _ (ite _ _ _ : Frontend _).run _ _
  split
  · exact authorizes_refreshOwnAccessToken
  · exact ⟨_, rfl, tokenOutcome_ok _⟩

variable (model : MiddlewareModel)

/-- The outcome of one authorization, which never throws. -/
def Outcome (timeToLive : ℕ+) (caches : TokenCaches) (outcome : Except Exception MiddlewareModel) :
    Prop :=
  ∃ answered, outcome = .ok answered ∧ AuthorizeOutcome timeToLive model caches answered

/-- The outcome inside the guard of a request with a token, which can throw. -/
def GuardedOutcome (timeToLive : ℕ+) (caches : TokenCaches)
    (outcome : Except Exception MiddlewareModel) : Prop :=
  ∀ answered, outcome = .ok answered → AuthorizeOutcome timeToLive model caches answered

variable {model} {clientBearerToken : String}

theorem guardedOutcome_error (error : Exception) :
    GuardedOutcome model timeToLive caches (.error error) := by
  intro answered thrown
  cases thrown

/-- An answer that was just recorded decides about the request. -/
theorem authorizes_acceptVerification (unanswered : model.frontendResponse = none)
    (undefined : model.frontendRequest.middleware.providedSecurity = none)
    (bearer : extractClientBearerTokenFrom model.frontendRequest = some clientBearerToken)
    {response : OAuthResponse}
    (answered : ⟨clientBearerToken, response, caches.now⟩ ∈ caches.verifications) :
    Authorizes timeToLive (GuardedOutcome model timeToLive)
      (acceptVerification model.frontendRequest clientBearerToken response) calls caches := by
  have refused : ∀ statusCode, 400 ≤ statusCode →
      GuardedOutcome model timeToLive caches
        (.ok (respondWith model.frontendRequest (.ofStatus statusCode))) := by
    intro statusCode error answered same
    obtain rfl := Except.ok.inj same
    exact .refused unanswered undefined error
  unfold acceptVerification
  split
  · exact refused _ (by decide)
  · split
    · rename_i status
      split
      · rename_i active
        apply Host.safe_bind
        cases derived : clientTokenInfoFrom response.data with
        | error error => exact guardedOutcome_error error
        | ok clientTokenInfo =>
            have grants : response.Grants clientTokenInfo := ⟨status, active, derived⟩
            rintro middle healthy immediate answer following ⟨⟩
            obtain rfl := immediate rfl
            refine ⟨healthy.set answered grants, fun accepted same => ?_⟩
            obtain rfl := Except.ok.inj same
            refine .verified unanswered undefined bearer ⟨_, answered, rfl, grants, ?_⟩
            have positive := timeToLive.pos
            change middle.now < middle.now + (timeToLive : ℕ)
            omega
      · exact refused _ (by decide)
    · exact refused _ (by decide)

theorem authorizes_verifyClientToken (unanswered : model.frontendResponse = none)
    (undefined : model.frontendRequest.middleware.providedSecurity = none)
    (bearer : extractClientBearerTokenFrom model.frontendRequest = some clientBearerToken)
    (ownAccessToken : Option Json) :
    Authorizes timeToLive (GuardedOutcome model timeToLive)
      (verifyClientToken model.frontendRequest clientBearerToken ownAccessToken) calls caches := by
  have verify : ∀ {calls : List Call} {caches : TokenCaches} (ownAccessToken : Option Json)
      (decide : OAuthResponse → Frontend MiddlewareModel),
      (∀ calls caches response,
        ⟨clientBearerToken, response, caches.now⟩ ∈ caches.verifications →
          Authorizes timeToLive (GuardedOutcome model timeToLive) (decide response) calls caches) →
      Authorizes timeToLive (GuardedOutcome model timeToLive)
        (perform (.fetchClientTokenVerification clientBearerToken ownAccessToken) >>= decide)
        calls caches := by
    intro calls caches ownAccessToken decide next
    apply Host.safe_bind
    rintro middle healthy - answer following ⟨⟩
    refine ⟨healthy.verified clientBearerToken answer, ?_⟩
    cases answer with
    | error error => exact guardedOutcome_error error
    | ok response => exact next _ _ response List.mem_cons_self
  unfold verifyClientToken
  apply verify
  intro calls caches response answered
  split
  · apply Host.safe_bind
    apply authorizes_refreshOwnAccessToken.mono
    rintro calls caches _ ⟨found, rfl, known⟩
    cases found with
    | error errorResponse =>
        intro answered same
        obtain rfl := Except.ok.inj same
        exact .refused unanswered undefined (known errorResponse rfl)
    | ok renewedAccessToken =>
        apply verify
        intro calls caches secondResponse answered
        exact authorizes_acceptVerification unanswered undefined bearer answered
  · exact authorizes_acceptVerification unanswered undefined bearer answered

theorem authorizes_authorizeClientToken (unanswered : model.frontendResponse = none)
    (undefined : model.frontendRequest.middleware.providedSecurity = none)
    (bearer : extractClientBearerTokenFrom model.frontendRequest = some clientBearerToken) :
    Authorizes timeToLive (Outcome model timeToLive)
      (authorizeClientToken model.frontendRequest clientBearerToken) calls caches := by
  unfold authorizeClientToken
  apply Host.safe_bind
  rintro middle healthy - answer following served
  cases served with
  | found latest alive =>
      exact ⟨healthy, _, rfl, .verified unanswered undefined bearer (healthy.found latest alive)⟩
  | missed =>
      refine ⟨healthy, ?_⟩
      apply Host.safe_bind
      apply authorizes_findOwnAccessToken.mono
      rintro calls caches _ ⟨found, rfl, known⟩
      cases found with
      | error errorResponse =>
          exact ⟨_, rfl, .refused unanswered undefined (known errorResponse rfl)⟩
      | ok ownAccessToken =>
          apply Host.safe_tryCatch
          apply (authorizes_verifyClientToken unanswered undefined bearer ownAccessToken).mono
          intro calls caches outcome guarded
          cases outcome with
          | ok answered => exact ⟨answered, rfl, guarded answered rfl⟩
          | error error => exact ⟨_, rfl, .refused unanswered undefined (by decide)⟩

/-- Every run of one authorization ends as described. -/
theorem authorizes_authorize (model : MiddlewareModel) :
    Authorizes timeToLive (Outcome model timeToLive) (authorize model) calls caches := by
  unfold authorize
  split
  · rename_i frontendResponse answered
    exact ⟨model, rfl, .answeredBefore answered⟩
  · rename_i security unanswered provided
    exact ⟨model, rfl, .providedUpstream unanswered provided⟩
  · rename_i unanswered undefined
    split
    · exact ⟨_, rfl, .refused unanswered undefined (le_refl 400)⟩
    · rename_i clientBearerToken bearer
      exact authorizes_authorizeClientToken unanswered undefined bearer

end Functions

section Requests
variable [NodeRuntime] (kind : OAuthRequest)

def Call.sends (kind : OAuthRequest) (call : Call) : Bool := call.oauthRequest = some kind

/-- The number of requests of this kind for one own token. -/
def ownTokenRequests : Nat := if Call.fetchOwnAccessToken.sends kind then 1 else 0

/-- A throwing program sends at most so many requests of this kind. -/
abbrev Sends {A : Type} (program : Frontend A) (limit : Nat) : Prop :=
  program.run.AtMost (Call.sends kind) limit

variable {kind} {limit rest : Nat}

omit [NodeRuntime] in
theorem sends_perform {A : Type} {call : Call} {f : call.Result → Frontend A}
    (fits : (if call.sends kind then 1 else 0) + rest ≤ limit)
    (later : ∀ result, Sends kind (f result) rest) : Sends kind (perform call >>= f) limit := by
  have first : Sends kind (perform call) (if call.sends kind then 1 else 0) :=
    ⟨0, by simp, fun _ => trivial⟩
  exact (first.bind later).mono fits

omit [NodeRuntime] in
theorem sends_free {A : Type} {call : Call} {f : call.Result → Frontend A}
    (free : call.oauthRequest = none) (later : ∀ result, Sends kind (f result) limit) :
    Sends kind (perform call >>= f) limit := by
  apply sends_perform _ later
  simp [Call.sends, free]

omit [NodeRuntime] in
theorem sends_guarded {A : Type} {program : Frontend A} {handle : Exception → Frontend A}
    (bounded : Sends kind program limit) (handled : ∀ error, Sends kind (handle error) 0) :
    Sends kind (tryCatch program handle) limit := bounded.tryCatch handled

omit [NodeRuntime] in
theorem sends_then {A B : Type} {program : Frontend A} {f : A → Frontend B}
    (bounded : Sends kind program limit) (later : ∀ value, Sends kind (f value) 0) :
    Sends kind (program >>= f) limit := bounded.bind later

omit [NodeRuntime] in
theorem sends_requestOwnAccessToken :
    Sends kind requestOwnAccessToken (ownTokenRequests kind) := by
  unfold requestOwnAccessToken
  apply sends_guarded
  · apply sends_perform (show _ + 0 ≤ _ from Nat.le_refl _)
    intro response
    split
    · cases ownAccessTokenFrom response.data with
      | error error => exact trivial
      | ok ownAccessToken => exact trivial
    · split
      · exact trivial
      · exact trivial
  · exact fun error => trivial

omit [NodeRuntime] in
theorem sends_refreshOwnAccessToken :
    Sends kind refreshOwnAccessToken (ownTokenRequests kind) := by
  unfold refreshOwnAccessToken
  apply sends_then sends_requestOwnAccessToken
  intro outcome
  cases outcome with
  | error errorResponse => exact trivial
  | ok ownAccessToken => exact sends_free rfl fun _ => trivial

omit [NodeRuntime] in
theorem sends_findOwnAccessToken : Sends kind findOwnAccessToken (ownTokenRequests kind) := by
  unfold findOwnAccessToken
  apply sends_free rfl
  intro cachedOwnAccessToken
  split
  · exact sends_refreshOwnAccessToken
  · exact trivial

variable (frontendRequest : FrontendRequest) (clientBearerToken : String)

theorem sends_acceptVerification (verificationResponse : OAuthResponse) :
    Sends kind (acceptVerification frontendRequest clientBearerToken verificationResponse) 0 := by
  unfold acceptVerification
  split
  · exact trivial
  · split
    · split
      · cases clientTokenInfoFrom verificationResponse.data with
        | error error => exact trivial
        | ok clientTokenInfo => exact sends_free rfl fun _ => trivial
      · exact trivial
    · exact trivial

/-- One more try costs one more verification and one more own token. -/
theorem sends_verifyClientToken (ownAccessToken : Option Json) :
    Sends kind (verifyClientToken frontendRequest clientBearerToken ownAccessToken)
      (2 - ownTokenRequests kind) := by
  unfold verifyClientToken
  have fits : (if Call.sends kind (.fetchClientTokenVerification clientBearerToken ownAccessToken)
      then 1 else 0) + 1 ≤ 2 - ownTokenRequests kind := by
    cases kind with
    | ownAccessToken => exact Nat.le_refl 1
    | clientTokenVerification => exact Nat.le_refl 2
  apply sends_perform fits
  intro verificationResponse
  split
  · have again : ownTokenRequests kind + (1 - ownTokenRequests kind) ≤ 1 := by
      cases kind with
      | ownAccessToken => decide
      | clientTokenVerification => decide
    refine Program.AtMost.mono ?_ again
    apply sends_refreshOwnAccessToken.bind
    intro outcome
    cases outcome with
    | error errorResponse => exact trivial
    | ok renewedAccessToken =>
        have last : (if Call.sends kind
            (.fetchClientTokenVerification clientBearerToken renewedAccessToken) then 1 else 0) + 0 ≤
              1 - ownTokenRequests kind := by
          cases kind with
          | ownAccessToken => exact Nat.le_refl 0
          | clientTokenVerification => exact Nat.le_refl 1
        exact sends_perform last (sends_acceptVerification frontendRequest clientBearerToken)
  · exact (sends_acceptVerification frontendRequest clientBearerToken _).mono (Nat.zero_le 1)

theorem sends_authorizeClientToken :
    Sends kind (authorizeClientToken frontendRequest clientBearerToken) 2 := by
  unfold authorizeClientToken
  apply sends_free rfl
  intro cached
  cases cached with
  | some cachedClientTokenInfo => exact trivial
  | none =>
      have bounded : ownTokenRequests kind + (2 - ownTokenRequests kind) ≤ 2 := by
        cases kind with
        | ownAccessToken => decide
        | clientTokenVerification => decide
      refine Program.AtMost.mono ?_ bounded
      apply sends_findOwnAccessToken.bind
      intro outcome
      cases outcome with
      | error errorResponse => exact trivial
      | ok ownAccessToken =>
          apply sends_guarded (sends_verifyClientToken frontendRequest clientBearerToken _)
          exact fun error => trivial

theorem sends_authorize (model : MiddlewareModel) : Sends kind (authorize model) 2 := by
  unfold authorize
  split
  · exact trivial
  · exact trivial
  · split
    · exact trivial
    · exact sends_authorizeClientToken model.frontendRequest _

end Requests

section Claim
variable [NodeRuntime]

theorem sound_drift {timeToLive : ℕ+} {caches following : TokenCaches} (sound : caches.Sound)
    (drifts : (authorizeHost timeToLive).drifts caches following) : following.Sound := by
  obtain ⟨later, -, rfl⟩ := drifts
  exact sound

/-- In every interleaving on caches that start empty, authorization lets a request pass only with
the security that upstream provided or with the one that the OAuth server has recently verified for
its own token, and it calls either fetch function at most twice. What is counted are these calls; a
call can send its HTTP request again when a try fails. -/
theorem authorize_sound {timeToLive : ℕ+} {now : Int}
    {system : Hosted TokenCaches MiddlewareModel Call (Except Exception MiddlewareModel) Call.Answer}
    (reached : (authorizeHost timeToLive).Reached (fun _ _ => True) (.empty now) system)
    {activity : Activity TokenCaches MiddlewareModel Call (Except Exception MiddlewareModel)
      Call.Answer}
    (inside : activity ∈ system.activities) :
    (∀ kind, activity.calls.countP (Call.sends kind) ≤ 2) ∧
      ∀ outcome, activity.rest = .pure outcome → ∃ answered, outcome = .ok answered ∧
        AuthorizeOutcome timeToLive activity.input activity.seen answered := by
  constructor
  · intro kind
    exact Host.Reached.calls_le (Call.sends kind) (fun model => sends_authorize model) reached inside
  · intro outcome returned
    have safe : ∀ caches model, TokenCaches.Sound caches →
        (authorizeHost timeToLive).Safe TokenCaches.Sound
          (fun _ => Outcome model timeToLive) ((authorizeHost timeToLive).program model) [] caches :=
      fun caches model _ => authorizes_authorize model
    have fresh : (TokenCaches.empty now).Sound := by
      intro cached stored
      cases stored
    exact reached.returned safe (fun _ _ => sound_drift) fresh inside returned

end Claim

section Examples

private def hostModel : MiddlewareModel :=
  ⟨{ newFrontendRequest with headers := [("authorization", "Bearer client")] }, none⟩

private def hostVerification : OAuthResponse where
  status := 200
  data := some (.object [("active", .boolean true), ("client_id", .string "client_id"),
    ("roles", .array [.string "host"])])

/-- The OAuth server grants every request, and the caches lose nothing before its time is over. -/
private def reply : (call : Call) → TokenCaches → Option (call.Answer × TokenCaches)
  | .getCachedClientTokenInfo clientBearerToken, caches =>
      match caches.cachedClientTokens.find? (·.clientBearerToken = clientBearerToken) with
      | some cached =>
          if caches.now < cached.setAt + (300000 : ℕ+) then
            some (.ok (some cached.clientTokenInfo), caches)
          else some (.ok none, caches)
      | none => some (.ok none, caches)
  | .setCachedClientTokenInfo clientBearerToken clientTokenInfo, caches =>
      some (.ok (), { caches with
        cachedClientTokens :=
          ⟨clientBearerToken, clientTokenInfo, caches.now⟩ :: caches.cachedClientTokens })
  | .getCachedOwnAccessToken, caches => some (.ok caches.cachedOwnAccessToken, caches)
  | .setCachedOwnAccessToken ownAccessToken, caches =>
      some (.ok (), { caches with cachedOwnAccessToken := ownAccessToken })
  | .fetchOwnAccessToken, caches =>
      some (.ok ⟨200, some (.object [("access_token", .string "own")])⟩, caches)
  | .fetchClientTokenVerification clientBearerToken _, caches =>
      some (.ok hostVerification, caches.verified clientBearerToken (.ok hostVerification))
  | _, _ => none

private abbrev sampleHost := @authorizeHost Sample.runtime 300000

private theorem reply_possible : Host.Possible sampleHost reply := by
  intro call caches answer following replied
  cases call with
  | getCachedClientTokenInfo clientBearerToken =>
      simp only [reply] at replied
      split at replied
      · rename_i cached latest
        split at replied
        · rename_i alive
          cases replied
          exact .found latest alive
        · cases replied
          exact .missed clientBearerToken
      · cases replied
        exact .missed clientBearerToken
  | setCachedClientTokenInfo clientBearerToken clientTokenInfo =>
      cases replied
      exact .set clientBearerToken clientTokenInfo
  | getCachedOwnAccessToken =>
      cases replied
      exact .foundOwn
  | setCachedOwnAccessToken ownAccessToken =>
      cases replied
      exact .setOwn ownAccessToken
  | fetchOwnAccessToken =>
      cases replied
      exact .fetchedOwn _
  | fetchClientTokenVerification clientBearerToken ownAccessToken =>
      cases replied
      exact .verified clientBearerToken ownAccessToken _
  | _ => cases replied

/-- The security of a request that authorization lets pass. -/
private def passed
    (activity : Activity TokenCaches MiddlewareModel Call (Except Exception MiddlewareModel)
      Call.Answer) : Option Security :=
  match activity.rest with
  | .pure (.ok answered) =>
      if answered.frontendResponse.isNone then answered.frontendRequest.middleware.providedSecurity
      else none
  | _ => none

private theorem played_passed :
    (sampleHost.playAll reply (fun _ _ => True) ⟨.empty 0, []⟩
      [.arrive hostModel, .resume 0, .resume 0, .arrive hostModel]).map
        (fun system => system.activities.map passed) =
      some [some ⟨.fullAccess, "client_id"⟩, some ⟨.fullAccess, "client_id"⟩] := by decide +kernel

/-- The second request passes by the verification that the first one has cached. -/
theorem cached_token_authorized :
    ∃ (activity : Activity TokenCaches MiddlewareModel Call (Except Exception MiddlewareModel)
        Call.Answer) (answered : MiddlewareModel),
      activity.rest = .pure (.ok answered) ∧ passed activity = some ⟨.fullAccess, "client_id"⟩ ∧
        @AuthorizeOutcome Sample.runtime 300000 activity.input activity.seen answered := by
  obtain ⟨system, played, shown⟩ := Option.map_eq_some_iff.mp played_passed
  have reached := Host.Reached.playAll reply_possible .start played
  have second : (system.activities.map passed)[1]? = some (some ⟨.fullAccess, "client_id"⟩) := by
    rw [shown]
    rfl
  rw [List.getElem?_map] at second
  obtain ⟨activity, present, security⟩ := Option.map_eq_some_iff.mp second
  have sound := @authorize_sound Sample.runtime 300000 0 system reached activity
    (List.mem_of_getElem? present)
  have kept := security
  unfold passed at security
  split at security
  · rename_i answered returned
    obtain ⟨_, same, outcome⟩ := sound.2 _ returned
    cases same
    exact ⟨activity, answered, returned, kept, outcome⟩
  · cases security

end Examples
end Meadowlark.Core
