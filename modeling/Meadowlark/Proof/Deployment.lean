import Meadowlark.Proof.Authorization.Deployment
import Meadowlark.Proof.Mongo.Credentials
import Meadowlark.Proof.Postgres.Credentials

namespace Meadowlark
open Meadowlark.Core Systems Authorization

/-- A search for a client leaves the collection as it is. -/
theorem Mongo.getAuthorizationClient_leaves (clients : Mongo.Clients)
    (request : GetAuthorizationClientRequest) :
    (Mongo.authorizationStore.getAuthorizationClient request clients).2 = clients := by
  have ran : Mongo.authorizationStore.getAuthorizationClient request clients = _ :=
    @Mongo.runClientSession_call _ .unknownFailure (.findOne request.clientId) Mongo.getResult clients
  rw [ran]
  rfl

/-- A search for a client leaves an idle connection as it is. -/
theorem Postgres.getAuthorizationClient_leaves [Postgres.ColumnTypes]
    {connection : Postgres.Connection} (idle : Postgres.Idle connection)
    (request : GetAuthorizationClientRequest) :
    (Postgres.authorizationStore.getAuthorizationClient request connection).2 = connection := by
  obtain ⟨committed, rfl⟩ := idle
  rfl

/-- With either store behind the authorization server, a request that passes without security from
upstream has a token whose client was active less than the time to live ago. -/
theorem requests_pass_by_ledger [NodeRuntime] [ServerLibrary] [TokenLibrary] [Postgres.ColumnTypes]
    (config : Config) (timeToLive : ℕ+) (now : Int) :
    (∀ system, (deploymentHost config Mongo.authorizationStore timeToLive).Reached (fun _ _ => True)
        (.fresh Database.empty now) system →
      ∀ activity ∈ system.activities, ∀ outcome, activity.rest = .pure outcome →
        ∃ answered, outcome = .ok answered ∧
          PassesByLedger config id timeToLive activity.seen activity.input answered) ∧
      ∀ system, (deploymentHost config Postgres.authorizationStore timeToLive).Reached
          (fun _ _ => True) (.fresh ⟨Postgres.Tables.empty, .idle⟩ now) system →
        ∀ activity ∈ system.activities, ∀ outcome, activity.rest = .pure outcome →
          ∃ answered, outcome = .ok answered ∧
            PassesByLedger config (fun active => some (active.getD true)) timeToLive activity.seen
              activity.input answered := by
  constructor
  · intro system reached activity inside outcome returned
    exact deployment_passes Mongo.keepsClients
      (fun clients _ request => Mongo.getAuthorizationClient_leaves clients request) trivial
      Mongo.clientRows_empty reached inside returned
  · intro system reached activity inside outcome returned
    exact deployment_passes Postgres.keepsClients
      (fun _ idle request => Postgres.getAuthorizationClient_leaves idle request) ⟨_, rfl⟩ rfl
      reached inside returned

section Examples
open Authorization.Sample

private def hostClient : String := "00000000-0000-4000-8000-000000000001"

private def createHost : AuthorizationRequest :=
  ⟨"/oauth/clients", ⟨"trace"⟩,
    some "\x7b\"clientName\": \"Host\", \"roles\": [\"admin\"]\x7d", [], [], "local"⟩

/-- Every form holds the one token of the example. -/
private abbrev hostForms : ServerLibrary :=
  { library with querystringParse := fun _ => .object [("token", .string "token")] }

private abbrev soleToken : TokenLibrary where
  verify _ _ := .verified (some ⟨none, some ⟨some "edfi-meadowlark-issuer",
    some "edfi-meadowlark-audience", some "Host", some hostClient, some 0, some 3600,
    some ["admin"]⟩⟩)
  compact _ _ := "token"

private abbrev adminModel : MiddlewareModel :=
  ⟨{ newFrontendRequest with headers := [("authorization", "Bearer token")] }, none⟩

private def askVerificationOf (clientBearerToken : String) (ownAccessToken : Option Json) :
    AuthorizationRequest :=
  ⟨"/oauth/verify", ⟨"trace"⟩, some ("token=" ++ clientBearerToken),
    [("content-type", "application/x-www-form-urlencoded"),
      ("authorization", "bearer " ++ (ownAccessToken.map (·.toTemplateText)).getD "undefined")],
    [], "local"⟩

private def receivedOf (response : AuthorizationResponse) : OAuthResponse where
  status := response.statusCode
  data :=
    match response.body with
    | some (.introspection introspectedToken) => some introspectedToken.toJson
    | _ => none

private abbrev runHost {A : Type} (program : Server A) (clients : Mongo.Clients) :
    Except Exception A × Mongo.Clients := Mongo.authorizationStore.run entropy program clients

/-- The authorization server grants the own token, and the caches lose every entry. -/
private def deploymentReply : (call : Call) → Deployment Mongo.Clients →
    Option (call.Answer × Deployment Mongo.Clients)
  | .getCachedClientTokenInfo _, deployment => some (.ok none, deployment)
  | .setCachedClientTokenInfo clientBearerToken clientTokenInfo, deployment =>
      some (.ok (), { deployment with
        caches := { deployment.caches with
          cachedClientTokens :=
            ⟨clientBearerToken, clientTokenInfo, deployment.caches.now⟩ ::
              deployment.caches.cachedClientTokens } })
  | .getCachedOwnAccessToken, deployment =>
      some (.ok deployment.caches.cachedOwnAccessToken, deployment)
  | .setCachedOwnAccessToken ownAccessToken, deployment =>
      some (.ok (), { deployment with
        caches := { deployment.caches with cachedOwnAccessToken := ownAccessToken } })
  | .fetchOwnAccessToken, deployment =>
      some (.ok ⟨200, some (.object [("access_token", .string "own")])⟩, deployment)
  | .fetchClientTokenVerification clientBearerToken ownAccessToken, deployment =>
      match runHost (@verifyToken Core.Sample.runtime hostForms soleToken config
          (askVerificationOf clientBearerToken ownAccessToken)) deployment.contents with
      | (.ok response, following) =>
          if response.statusCode < 500 then
            some (.ok (receivedOf response),
              ⟨deployment.caches.verified clientBearerToken (.ok (receivedOf response)), following,
                deployment.events,
                ⟨deployment.events, deployment.caches.now⟩ :: deployment.moments⟩)
          else none
      | (.error _, _) => none
  | _, _ => none

private abbrev hostOfAdmin :=
  @deploymentHost Core.Sample.runtime hostForms soleToken _ config Mongo.authorizationStore 60000

private theorem deploymentReply_possible : Host.Possible hostOfAdmin deploymentReply := by
  let : NodeRuntime := Core.Sample.runtime
  let : ServerLibrary := hostForms
  let : TokenLibrary := soleToken
  intro call deployment answer following replied
  cases call with
  | getCachedClientTokenInfo clientBearerToken =>
      cases replied
      exact .cached (by simp [Call.oauthRequest]) (.missed clientBearerToken)
  | setCachedClientTokenInfo clientBearerToken clientTokenInfo =>
      cases replied
      exact .cached (by simp [Call.oauthRequest]) (.set clientBearerToken clientTokenInfo)
  | getCachedOwnAccessToken =>
      cases replied
      exact .cached (by simp [Call.oauthRequest]) .foundOwn
  | setCachedOwnAccessToken ownAccessToken =>
      cases replied
      exact .cached (by simp [Call.oauthRequest]) (.setOwn ownAccessToken)
  | fetchOwnAccessToken =>
      cases replied
      exact .cached (by simp [Call.oauthRequest]) (.fetchedOwn _)
  | fetchClientTokenVerification clientBearerToken ownAccessToken =>
      simp only [deploymentReply] at replied
      split at replied
      · rename_i response left answered
        split at replied
        · rename_i accepted
          cases replied
          refine .verified ⟨rfl, rfl, rfl⟩ answered accepted ⟨rfl, ?_⟩
          intro introspectedToken same
          simp [receivedOf, same]
        · cases replied
      · cases replied
  | _ => cases replied

private abbrev hostCreated : Except Exception AuthorizationResponse × Mongo.Clients :=
  runHost (@CredentialCall.handle Core.Sample.runtime hostForms soleToken config
    (.createClient createHost)) Database.empty

/-- The admin is stored when its request arrives. -/
@[irreducible] private def withHost : Deployment Mongo.Clients :=
  ⟨.empty 0, hostCreated.2, [.created hostClient (String.ofList (List.replicate 64 '0')) none], []⟩

/-- The security that a request gets from authorization that lets it pass. -/
private def passedWith
    (activity : Activity (Deployment Mongo.Clients) MiddlewareModel Call
      (Except Exception MiddlewareModel) Call.Answer) : Option Security :=
  match activity.rest with
  | .pure (.ok answered) =>
      if answered.frontendResponse = none ∧
          activity.input.frontendRequest.middleware.providedSecurity = none then
        answered.frontendRequest.middleware.providedSecurity
      else none
  | _ => none

private theorem host_evaluated :
    hostCreated.1.toOption.bind
        (@CredentialCall.event Core.Sample.runtime hostForms (.createClient createHost)) =
          some (.created hostClient (String.ofList (List.replicate 64 '0')) none) ∧
      (hostOfAdmin.playAll deploymentReply (fun _ _ => True) ⟨withHost, []⟩
        [.arrive adminModel, .resume 0, .resume 0]).map
          (fun system => system.activities.map passedWith) =
        some [some ⟨.fullAccess, hostClient⟩] := by decide +kernel

/-- The request of a stored admin passes, since the ledger has the admin active. -/
theorem admin_request_passes :
    ∃ (deployment : Deployment Mongo.Clients) (model answered : MiddlewareModel),
      answered.frontendResponse = none ∧
      model.frontendRequest.middleware.providedSecurity = none ∧
      answered.frontendRequest.middleware.providedSecurity = some ⟨.fullAccess, hostClient⟩ ∧
      @PassesByLedger Core.Sample.runtime hostForms soleToken _ config id 60000 deployment model
        answered := by
  let : NodeRuntime := Core.Sample.runtime
  let : ServerLibrary := hostForms
  let : TokenLibrary := soleToken
  obtain ⟨stored, evaluated⟩ := host_evaluated
  have started : hostOfAdmin.Reached (fun _ _ => True) (.fresh Database.empty 0) ⟨withHost, []⟩ := by
    refine .move .start trivial (.drift ?_)
    unfold withHost
    cases answered : hostCreated.1 with
    | error error =>
        rw [answered] at stored
        cases stored
    | ok response =>
        rw [answered] at stored
        exact Deployment.Drifts.serves (Prod.fst_eq_iff.mp answered) stored
  obtain ⟨system, played, shown⟩ := Option.map_eq_some_iff.mp evaluated
  have reached := Host.Reached.playAll deploymentReply_possible started played
  have first : (system.activities.map passedWith)[0]? = some (some ⟨.fullAccess, hostClient⟩) := by
    rw [shown]
    rfl
  rw [List.getElem?_map] at first
  obtain ⟨activity, present, security⟩ := Option.map_eq_some_iff.mp first
  unfold passedWith at security
  split at security
  · rename_i answered returned
    split at security
    · rename_i passed
      obtain ⟨_, same, passes⟩ := (@requests_pass_by_ledger Core.Sample.runtime hostForms soleToken
        Postgres.Sample.columns config 60000 0).1 system reached activity
          (List.mem_of_getElem? present) _ returned
      cases same
      exact ⟨activity.seen, activity.input, answered, passed.1, passed.2, security, passes⟩
    · cases security
  · cases security

end Examples
end Meadowlark
