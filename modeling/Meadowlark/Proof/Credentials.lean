import Meadowlark.Proof.Mongo.Credentials
import Meadowlark.Proof.Postgres.Credentials

namespace Meadowlark
open Meadowlark.Core Systems Authorization

section Claim
variable [NodeRuntime] [ServerLibrary] [TokenLibrary] [Postgres.ColumnTypes]

/-- After successful calls, both stores grant tokens as the answers promise, up to two conditions.
The issued secret has no other spelling that decodes to the same bytes.
In the collection, the latest update has not left out the flag. -/
theorem credentials_honoured {config : Config} {events : List CredentialEvent}
    {authorizationRequest : AuthorizationRequest} {clientId secret : String}
    (parsed : parseRequestTokenBody authorizationRequest =
      .ok (.ok ⟨"client_credentials", clientId, secret⟩))
    (disabled : config.oauthHardCodedCredentialsEnabled = false)
    (reserves : ReservesKeys events) (collisionFree : CollisionFree events secret) :
    (∀ contents entropy,
      Served config Mongo.authorizationStore Database.empty events contents →
        (Honours config Mongo.authorizationStore entropy contents events authorizationRequest
            clientId secret ↔
          ∀ account, ledgerOf events clientId = some account →
            (account.active = none → account.secret ≠ secret) ∧
              (account.active = some true → fromHex account.secret = fromHex secret →
                account.secret = secret))) ∧
      ∀ contents entropy,
        Served config Postgres.authorizationStore ⟨Postgres.Tables.empty, .idle⟩ events contents →
          (Honours config Postgres.authorizationStore entropy contents events authorizationRequest
              clientId secret ↔
            ∀ account, ledgerOf events clientId = some account → account.active ≠ some false →
              fromHex account.secret = fromHex secret → account.secret = secret) := by
  constructor
  · intro contents entropy served
    rw [served_honours_iff Mongo.keepsClients served trivial Mongo.clientRows_empty reserves parsed
      disabled collisionFree]
    apply forall₂_congr
    intro account known
    obtain ⟨issued, active⟩ := account
    rcases active with _ | _ | _
    · simp
    · simp
    · simp
  · intro contents entropy served
    rw [served_honours_iff Postgres.keepsClients served ⟨_, rfl⟩ rfl reserves parsed disabled
      collisionFree]
    apply forall₂_congr
    intro account known
    obtain ⟨issued, active⟩ := account
    rcases active with _ | _ | _
    · simp
    · simp
    · simp

end Claim

section Examples
open Authorization.Sample

private def clientId : String := "00000000-0000-4000-8000-000000000001"

private def secret : String := String.ofList (List.replicate 64 '0')

private def clientBody : String := "\x7b\"clientName\": \"Admin\", \"roles\": [\"admin\"]\x7d"

private def createRequest : AuthorizationRequest :=
  ⟨"/oauth/clients", ⟨"trace"⟩, some clientBody, [], [], "local"⟩

private def updateRequest : AuthorizationRequest :=
  ⟨"/oauth/clients/" ++ clientId, ⟨"trace"⟩, some clientBody, [("authorization", "Bearer admin")],
    [], "local"⟩

private def tokenRequest : AuthorizationRequest :=
  ⟨"/oauth/token", ⟨"trace"⟩, some ("\x7b\"grant_type\": \"client_credentials\", \"client_id\": \"" ++
    clientId ++ "\", \"client_secret\": \"" ++ secret ++ "\"\x7d"), [], [], "local"⟩

private def events : List CredentialEvent :=
  [.created clientId secret none, .updated clientId none]

private theorem tokenRequest_parsed :
    @parseRequestTokenBody Core.Sample.runtime library tokenRequest =
      .ok (.ok ⟨"client_credentials", clientId, secret⟩) := by decide +kernel

private theorem events_reserve {after : List CredentialEvent}
    (quiet : ∀ issuedTo issued active, .created issuedTo issued active ∉ after) :
    ReservesKeys (.created clientId secret none :: after) := by
  intro issuedTo issued active inside
  rcases List.mem_cons.mp inside with same | later
  · cases same
    decide
  · exact absurd later (quiet issuedTo issued active)

private theorem created_collisionFree :
    @CollisionFree library [.created clientId secret none] secret := by
  intro issued inside _
  have same : issued = secret := by simpa [CredentialEvent.secret?] using inside
  rw [same]

private abbrev serve (call : CredentialCall) (clients : Mongo.Clients) :
    Except Exception AuthorizationResponse × Mongo.Clients :=
  Mongo.authorizationStore.run entropy
    (@CredentialCall.handle Core.Sample.runtime library adminTokens config call) clients

@[irreducible] private def created : Mongo.Clients :=
  (serve (.createClient createRequest) Database.empty).2

private theorem created_event :
    (serve (.createClient createRequest) Database.empty).1.toOption.bind
      (@CredentialCall.event Core.Sample.runtime library (.createClient createRequest)) =
        some (.created clientId secret none) := by decide +kernel

private theorem updated_event :
    (serve (.updateClient updateRequest) created).1.toOption.bind
      (@CredentialCall.event Core.Sample.runtime library (.updateClient updateRequest)) =
        some (.updated clientId none) := by decide +kernel

private theorem served_created :
    @Served Core.Sample.runtime library adminTokens _ config Mongo.authorizationStore Database.empty
      [.created clientId secret none] created := by
  have served := @Served.extend Core.Sample.runtime library adminTokens _ _ _ _ _ _
    (@Served.initial Core.Sample.runtime library adminTokens _ config Mongo.authorizationStore
      Database.empty) _ _ _ created_event
  unfold created
  exact served

/-- A new client gets a token for the secret that the create has returned. -/
theorem created_client_honoured :
    @Honours Core.Sample.runtime library adminTokens _ config Mongo.authorizationStore entropy created
      [.created clientId secret none] tokenRequest clientId secret := by
  have condition := ((@credentials_honoured Core.Sample.runtime library adminTokens
    Postgres.Sample.columns config [.created clientId secret none] tokenRequest clientId secret
    tokenRequest_parsed rfl (events_reserve (by simp)) created_collisionFree).1 created entropy
      served_created)
  apply condition.mpr
  intro account known
  obtain rfl : account = ⟨secret, some true⟩ := by
    have last : ledgerOf [.created clientId secret none] clientId = some ⟨secret, some true⟩ := by
      decide +kernel
    exact Option.some.inj (known.symm.trans last)
  exact ⟨fun absent => absurd absent (by decide), fun _ _ => rfl⟩

private theorem served_updated :
    @Served Core.Sample.runtime library adminTokens _ config Mongo.authorizationStore Database.empty
      events (serve (.updateClient updateRequest) created).2 :=
  @Served.extend Core.Sample.runtime library adminTokens _ _ _ _ _ _ served_created _ _ _
    updated_event

/-- An update that leaves out the flag locks the client out of the collection. -/
theorem update_disables_client :
    ∃ clients, @Served Core.Sample.runtime library adminTokens _ config Mongo.authorizationStore
        Database.empty events clients ∧
      ¬ @Honours Core.Sample.runtime library adminTokens _ config Mongo.authorizationStore entropy
        clients events tokenRequest clientId secret := by
  refine ⟨_, served_updated, ?_⟩
  intro honours
  have entitled : (ledgerOf events).Entitles clientId secret :=
    ⟨⟨secret, none⟩, by decide +kernel, by decide, rfl⟩
  have granted := honours.mpr entitled
  rw [@served_grantsToken_iff Core.Sample.runtime library adminTokens _ _ _ _ _ _ _ _ _ _
    Mongo.keepsClients served_updated trivial Mongo.clientRows_empty (events_reserve (by simp)) _ _ _
    tokenRequest_parsed rfl] at granted
  obtain ⟨account, known, active, -⟩ := granted
  have same : account = ⟨secret, none⟩ := by
    have last : ledgerOf events clientId = some ⟨secret, none⟩ := by decide +kernel
    exact Option.some.inj (known.symm.trans last)
  rw [same] at active
  cases active

example : (ledgerOf [.created "client" "first" none, .reset "client" "second"] "client").map
    (·.secret) = some "second" := by decide +kernel

end Examples
end Meadowlark
