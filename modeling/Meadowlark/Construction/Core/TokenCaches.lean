import Meadowlark.Construction.Core.Middleware
import Meadowlark.Systems.Turns

namespace Meadowlark.Core
open Systems

/-- An entry of the client token cache with the time at which it was set. -/
structure CachedClientToken where
  clientBearerToken : String
  clientTokenInfo : ClientTokenInfo
  setAt : Int

/-- A verification of a client token with the time at which the OAuth server answered it. -/
structure ClientTokenVerification where
  clientBearerToken : String
  response : OAuthResponse
  answeredAt : Int

/-- The caches of the authorization module with the clock.
The entries and the answered verifications are kept with the latest first. -/
structure TokenCaches where
  now : Int
  cachedClientTokens : List CachedClientToken
  cachedOwnAccessToken : Option Json
  verifications : List ClientTokenVerification

def TokenCaches.empty (now : Int) : TokenCaches := ⟨now, [], none, []⟩

/-- An answer of the OAuth server is kept unless the request for it throws. -/
def TokenCaches.verified (caches : TokenCaches) (clientBearerToken : String) :
    Except Exception OAuthResponse → TokenCaches
  | .ok response =>
      { caches with
        verifications := ⟨clientBearerToken, response, caches.now⟩ :: caches.verifications }
  | .error _ => caches

/-- A cached entry is lost at any time, and at the latest when its time to live is over.
The OAuth server answers anything. -/
inductive TokenCaches.Answers (timeToLive : ℕ+) (caches : TokenCaches) :
    (call : Call) → call.Answer → TokenCaches → Prop where
  | missed (clientBearerToken : String) :
      Answers timeToLive caches (.getCachedClientTokenInfo clientBearerToken) (.ok none) caches
  | found {clientBearerToken : String} {cached : CachedClientToken}
      (latest : caches.cachedClientTokens.find? (·.clientBearerToken = clientBearerToken) =
        some cached) (alive : caches.now < cached.setAt + timeToLive) :
      Answers timeToLive caches (.getCachedClientTokenInfo clientBearerToken)
        (.ok (some cached.clientTokenInfo)) caches
  | set (clientBearerToken : String) (clientTokenInfo : ClientTokenInfo) :
      Answers timeToLive caches (.setCachedClientTokenInfo clientBearerToken clientTokenInfo) (.ok ())
        { caches with
          cachedClientTokens :=
            ⟨clientBearerToken, clientTokenInfo, caches.now⟩ :: caches.cachedClientTokens }
  | foundOwn : Answers timeToLive caches .getCachedOwnAccessToken
      (.ok caches.cachedOwnAccessToken) caches
  | setOwn (ownAccessToken : Option Json) :
      Answers timeToLive caches (.setCachedOwnAccessToken ownAccessToken) (.ok ())
        { caches with cachedOwnAccessToken := ownAccessToken }
  | fetchedOwn (answer : Except Exception OAuthResponse) :
      Answers timeToLive caches .fetchOwnAccessToken answer caches
  | verified (clientBearerToken : String) (ownAccessToken : Option Json)
      (answer : Except Exception OAuthResponse) :
      Answers timeToLive caches (.fetchClientTokenVerification clientBearerToken ownAccessToken) answer
        (caches.verified clientBearerToken answer)

/-- The requests that Meadowlark sends to the OAuth server. -/
inductive OAuthRequest where
  | ownAccessToken
  | clientTokenVerification
  deriving DecidableEq

def Call.oauthRequest : Call → Option OAuthRequest
  | .fetchOwnAccessToken => some .ownAccessToken
  | .fetchClientTokenVerification _ _ => some .clientTokenVerification
  | _ => none

/-- The requests in authorization share the caches, and time passes while they wait. -/
def authorizeHost [NodeRuntime] (timeToLive : ℕ+) :
    Host TokenCaches MiddlewareModel Call (Except Exception MiddlewareModel) Call.Answer where
  program model := (authorize model).run
  awaited call := call.oauthRequest.isSome
  serves call caches := caches.Answers timeToLive call
  drifts caches following := ∃ later, caches.now ≤ later ∧ following = { caches with now := later }

end Meadowlark.Core
