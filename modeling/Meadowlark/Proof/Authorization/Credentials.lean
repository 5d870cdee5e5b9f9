import Meadowlark.Proof.Authorization.Handlers

namespace Meadowlark.Authorization
open Meadowlark.Core Systems

section Ledger

/-- What an answered call says about the credentials of one client. -/
inductive CredentialEvent where
  | created (clientId secret : String) (active : Option Bool)
  | updated (clientId : String) (active : Option Bool)
  | reset (clientId secret : String)
  deriving DecidableEq

/-- The secret of the latest create or reset, and the flag of the latest create or update.
The flag is absent where the latest update leaves it out. -/
structure Account where
  secret : String
  active : Option Bool
  deriving DecidableEq

abbrev Ledger := String → Option Account

def Ledger.after (ledger : Ledger) : CredentialEvent → Ledger
  | .created clientId secret active =>
      Function.update ledger clientId (some ⟨secret, some (active.getD true)⟩)
  | .updated clientId active =>
      Function.update ledger clientId
        ((ledger clientId).map fun account => { account with active := active })
  | .reset clientId secret =>
      Function.update ledger clientId
        ((ledger clientId).map fun account => { account with secret := secret })

/-- The accounts that a sequence of answered calls leaves. -/
def ledgerOf (events : List CredentialEvent) : Ledger := events.foldl Ledger.after fun _ => none

theorem ledgerOf_concat (events : List CredentialEvent) (event : CredentialEvent) :
    ledgerOf (events ++ [event]) = (ledgerOf events).after event := by
  simp [ledgerOf]

/-- The secret is the issued one, and the flag was not set to false. -/
def Ledger.Entitles (ledger : Ledger) (clientId secret : String) : Prop :=
  ∃ account, ledger clientId = some account ∧ account.active ≠ some false ∧ account.secret = secret

end Ledger

section Secrets

/-- A digit is a unit of its own and stands for its value. -/
theorem codeUnits_hexDigitOf {value : Nat} (small : value < 16) :
    codeUnits (hexDigitOf value) = [(hexDigitOf value).toNat] ∧
      hexUnit (hexDigitOf value).toNat = some value := by
  interval_cases value <;> decide

/-- The decoding of issued digits gives the bytes back. -/
theorem hexBytes_append (bytes : List UInt8) :
    hexBytes ((bytes.flatMap fun byte =>
      [hexDigitOf (byte.toNat / 16), hexDigitOf (byte.toNat % 16)]).flatMap codeUnits) = bytes := by
  induction bytes with
  | nil => rfl
  | cons byte rest ih =>
      have bound : byte.toNat < 256 := byte.toNat_lt
      obtain ⟨highUnit, highValue⟩ := @codeUnits_hexDigitOf (byte.toNat / 16) (by omega)
      obtain ⟨lowUnit, lowValue⟩ := @codeUnits_hexDigitOf (byte.toNat % 16) (by omega)
      rw [List.flatMap_cons, List.cons_append, List.cons_append, List.nil_append,
        List.flatMap_cons, List.flatMap_cons, highUnit, lowUnit, List.singleton_append,
        List.singleton_append, hexBytes, highValue, lowValue]
      dsimp only
      have whole : 16 * (byte.toNat / 16) + byte.toNat % 16 = byte.toNat := by omega
      rw [whole, ih, UInt8.ofNat_toNat]

theorem fromHex_toHex (bytes : List UInt8) : fromHex (toHex bytes) = bytes := by
  rw [fromHex, toHex, String.toList_ofList, hexBytes_append]

/-- Units with the low bytes of digits decode like the digits. -/
example : fromHex "\u0161\u0162" = fromHex "ab" := by decide

end Secrets

section Stores
variable {Contents : Type}

/-- What a store keeps about a client. -/
structure ClientRow where
  clientSecretHashed : String
  clientName : String
  active : Option Bool
  roles : List AuthorizationClientRole

def rowOf (request : CreateAuthorizationClientRequest) : ClientRow where
  clientSecretHashed := request.clientSecretHashed
  clientName := request.clientName
  active := some request.active
  roles := request.roles

def ClientRow.update (row : ClientRow) (request : UpdateAuthorizationClientRequest)
    (active : Option Bool) : ClientRow :=
  { row with clientName := request.clientName, active := active, roles := request.roles }

def getResultOf : Option ClientRow → GetAuthorizationClientResult
  | none => .getFailureNotExists
  | some row => .getSuccess row.clientSecretHashed row.clientName row.active row.roles

/-- A store keeps one row for each client, and the flag of an update in its own way. -/
structure KeepsClients (authorizationStore : AuthorizationStore Contents)
    (Regular : Contents → Prop) (rows : Contents → String → Option ClientRow)
    (kept : Option Bool → Option Bool) : Prop where
  created {request : CreateAuthorizationClientRequest} {contents following : Contents} :
    Regular contents →
    authorizationStore.createAuthorizationClient request contents =
      (.ok .createSuccess, following) →
    Regular following ∧
      rows following = Function.update (rows contents) request.clientId (some (rowOf request))
  bootstrapped {request : CreateAuthorizationClientRequest} {contents following : Contents} :
    Regular contents →
    authorizationStore.tryCreateBootstrapAuthorizationAdmin request contents =
      (.ok .createSuccess, following) →
    Regular following ∧
      rows following = Function.update (rows contents) request.clientId (some (rowOf request))
  updated {request : UpdateAuthorizationClientRequest} {contents following : Contents} :
    Regular contents →
    authorizationStore.updateAuthorizationClient request contents =
      (.ok .updateSuccess, following) →
    Regular following ∧ ∃ clientId, request.clientId = some clientId ∧
      rows following = Function.update (rows contents) clientId
        ((rows contents clientId).map (·.update request (kept request.active)))
  reset {request : ResetAuthorizationClientSecretRequest} {contents following : Contents} :
    Regular contents →
    authorizationStore.resetAuthorizationClientSecret request contents =
      (.ok .resetSuccess, following) →
    Regular following ∧ ∃ clientId, request.clientId = some clientId ∧
      rows following = Function.update (rows contents) clientId
        ((rows contents clientId).map fun row =>
          { row with clientSecretHashed := request.clientSecretHashed })
  found {request : GetAuthorizationClientRequest} {contents : Contents} : Regular contents →
    (authorizationStore.getAuthorizationClient request contents).1 =
      .ok (getResultOf (rows contents request.clientId))
  explicit (active : Bool) : kept (some active) = some active

/-- A row holds the hash of the issued secret and the flag as the store keeps it. -/
def Represents [ServerLibrary] (kept : Option Bool → Option Bool)
    (rows : String → Option ClientRow) (ledger : Ledger) : Prop :=
  ∀ clientId, (rows clientId).map (fun row => (row.clientSecretHashed, row.active)) =
    (ledger clientId).map fun account =>
      (hashClientSecretHexString account.secret, kept account.active)

end Stores

section Calls

/-- The calls that change the credentials of a client. -/
inductive CredentialCall where
  | createClient (authorizationRequest : AuthorizationRequest)
  | updateClient (authorizationRequest : AuthorizationRequest)
  | resetAuthorizationClientSecret (authorizationRequest : AuthorizationRequest)

variable [NodeRuntime] [ServerLibrary]

def clientBodyOf (body : Option String) : Option ClientBody :=
  match parseClientBody body with
  | .ok (.ok clientBody) => some clientBody
  | _ => none

/-- What the request and its response say about the credentials.
Other responses than a success say nothing. -/
def CredentialCall.event : CredentialCall → AuthorizationResponse → Option CredentialEvent
  | .createClient request, ⟨201, _, some (.createdClient clientId clientSecret _ _)⟩ =>
      (clientBodyOf request.body).map fun body => .created clientId clientSecret body.active
  | .updateClient request, ⟨204, _, _⟩ =>
      match updateClientId request.path with
      | .matched (some clientId) =>
          (clientBodyOf request.body).map fun body => .updated clientId body.active
      | _ => none
  | .resetAuthorizationClientSecret _, ⟨201, _, some (.clientSecret clientId clientSecret)⟩ =>
      some (.reset clientId clientSecret)
  | _, _ => none

variable [TokenLibrary] {Contents : Type} (config : Config)

def CredentialCall.handle : CredentialCall → Server AuthorizationResponse
  | .createClient authorizationRequest => Authorization.createClient config authorizationRequest
  | .updateClient authorizationRequest => Authorization.updateClient config authorizationRequest
  | .resetAuthorizationClientSecret authorizationRequest =>
      Authorization.resetAuthorizationClientSecret config authorizationRequest

/-- Successful calls lead from one content of the store to another one. -/
inductive Served (authorizationStore : AuthorizationStore Contents) (start : Contents) :
    List CredentialEvent → Contents → Prop
  | initial : Served authorizationStore start [] start
  | call {events : List CredentialEvent} {contents following : Contents} {call : CredentialCall}
      {entropy : Entropy} {response : AuthorizationResponse} {event : CredentialEvent}
      (earlier : Served authorizationStore start events contents)
      (answered : authorizationStore.run entropy (call.handle config) contents =
        (.ok response, following))
      (succeeded : call.event response = some event) :
      Served authorizationStore start (events ++ [event]) following

/-- A call that is answered with a success extends the sequence. -/
theorem Served.extend {authorizationStore : AuthorizationStore Contents} {start contents : Contents}
    {events : List CredentialEvent} (served : Served config authorizationStore start events contents)
    {call : CredentialCall} {entropy : Entropy} {event : CredentialEvent}
    (succeeded : ((authorizationStore.run entropy (call.handle config) contents).1.toOption.bind
      call.event) = some event) :
    Served config authorizationStore start (events ++ [event])
      (authorizationStore.run entropy (call.handle config) contents).2 := by
  rcases answered : authorizationStore.run entropy (call.handle config) contents with
    ⟨error | response, following⟩
  · rw [answered] at succeeded
    cases succeeded
  · rw [answered] at succeeded
    exact served.call answered succeeded

end Calls

section Refinement
variable [NodeRuntime] [ServerLibrary] [TokenLibrary] {Contents : Type} {config : Config}
  {authorizationStore : AuthorizationStore Contents} {Regular : Contents → Prop}
  {rows : Contents → String → Option ClientRow} {kept : Option Bool → Option Bool}

omit [NodeRuntime] [TokenLibrary] in
theorem represents_empty : Represents kept (fun _ => none) (fun _ => none) := fun _ => rfl

omit [NodeRuntime] [TokenLibrary] in
/-- A change of one client in both places is represented when its row is. -/
theorem Represents.update {before : String → Option ClientRow} {ledger : Ledger}
    (represents : Represents kept before ledger) {clientId : String} {row : Option ClientRow}
    {account : Option Account}
    (same : row.map (fun row => (row.clientSecretHashed, row.active)) =
      account.map fun account =>
        (hashClientSecretHexString account.secret, kept account.active)) :
    Represents kept (Function.update before clientId row)
      (Function.update ledger clientId account) := by
  intro other
  by_cases changed : other = clientId
  · subst changed
    simpa using same
  · simpa [changed] using represents other

omit [NodeRuntime] [TokenLibrary] in
theorem createRequestFrom_row (createClientBody : ClientBody) (clientId : String)
    (clientSecretBuffer : List UInt8) (traceId : TraceId)
    (explicit : ∀ active, kept (some active) = some active) :
    (some (rowOf (createRequestFrom createClientBody clientId clientSecretBuffer traceId))).map
        (fun row => (row.clientSecretHashed, row.active)) =
      (some (Account.mk (toHex clientSecretBuffer) (some (createClientBody.active.getD true)))).map
        fun account => (hashClientSecretHexString account.secret, kept account.active) := by
  simp [rowOf, createRequestFrom, hashClientSecretHexString, fromHex_toHex, explicit]

/-- One successful call changes the rows and the ledger alike. -/
theorem Represents.step (keeps : KeepsClients authorizationStore Regular rows kept)
    {contents following : Contents} {ledger : Ledger} {call : CredentialCall} {entropy : Entropy}
    {response : AuthorizationResponse} {event : CredentialEvent} (regular : Regular contents)
    (represents : Represents kept (rows contents) ledger)
    (answered : authorizationStore.run entropy (call.handle config) contents =
      (.ok response, following))
    (succeeded : call.event response = some event) :
    Regular following ∧ Represents kept (rows following) (ledger.after event) := by
  unfold CredentialCall.event at succeeded
  split at succeeded
  · rename_i request headers clientId clientSecret clientName roles
    obtain ⟨createClientBody, parsed, same, stored⟩ := createClient_returns answered rfl
    have body : clientBodyOf request.body = some createClientBody := by
      simp [clientBodyOf, parsed]
    rw [body] at succeeded
    cases same
    cases succeeded
    have written := stored.elim (keeps.created regular) (keeps.bootstrapped regular)
    refine ⟨written.1, ?_⟩
    rw [written.2]
    exact represents.update (createRequestFrom_row createClientBody _ _ _ keeps.explicit)
  · rename_i request headers body
    obtain ⟨clientId, updateClientBody, matched, parsed, stored⟩ := updateClient_returns answered rfl
    obtain ⟨still, changed, named, written⟩ := keeps.updated regular stored
    obtain rfl : clientId = some changed := named
    have parsedBody : clientBodyOf request.body = some updateClientBody := by
      simp [clientBodyOf, parsed]
    rw [matched] at succeeded
    dsimp only at succeeded
    rw [parsedBody] at succeeded
    cases succeeded
    refine ⟨still, ?_⟩
    rw [written]
    apply represents.update
    have before := represents changed
    cases row : rows contents changed with
    | none =>
        cases account : ledger changed with
        | none => rfl
        | some account => simp [row, account] at before
    | some row =>
        cases account : ledger changed with
        | none => simp [*] at before
        | some account =>
            simp [*] at before
            simp [ClientRow.update, updateRequestFrom, before]
  · rename_i request headers issuedTo clientSecret
    obtain ⟨clientId, matched, same, stored⟩ := resetAuthorizationClientSecret_returns answered rfl
    obtain ⟨still, changed, named, written⟩ := keeps.reset regular stored
    obtain rfl : clientId = some changed := named
    cases same
    cases succeeded
    refine ⟨still, ?_⟩
    rw [written]
    apply represents.update
    have before := represents changed
    cases row : rows contents changed with
    | none =>
        cases account : ledger changed with
        | none => simp [account]
        | some account => simp [row, account] at before
    | some row =>
        cases account : ledger changed with
        | none => simp [*] at before
        | some account =>
            simp [*] at before
            simp [account, before, hashClientSecretHexString, fromHex_toHex]
  · cases succeeded

/-- The rows agree with the ledger after every sequence of successful calls. -/
theorem Served.represents (keeps : KeepsClients authorizationStore Regular rows kept)
    {start contents : Contents} {events : List CredentialEvent}
    (served : Served config authorizationStore start events contents) (regular : Regular start)
    (fresh : rows start = fun _ => none) :
    Regular contents ∧ Represents kept (rows contents) (ledgerOf events) := by
  induction served with
  | initial => exact ⟨regular, fresh ▸ represents_empty⟩
  | call earlier answered succeeded ih =>
      rw [ledgerOf_concat]
      exact ih.2.step keeps ih.1 answered succeeded

end Refinement

section Grants
variable [NodeRuntime] [ServerLibrary] [TokenLibrary] {Contents : Type} (config : Config)
  (authorizationStore : AuthorizationStore Contents) (entropy : Entropy) (contents : Contents)

/-- The response has status 200 and a token. -/
def GrantsToken (authorizationRequest : AuthorizationRequest) : Prop :=
  ∃ headers accessToken expiresIn,
    (authorizationStore.run entropy (requestToken config authorizationRequest) contents).1 =
      .ok ⟨200, headers, some (.token accessToken expiresIn)⟩

variable {config authorizationStore entropy contents}

omit [NodeRuntime] in
/-- A stored client gets a token when it is active and the hashes agree. -/
theorem requestStoredToken_grants {credentials : ClientCredentials} {traceId : TraceId}
    {row : Option ClientRow}
    (found : (authorizationStore.getAuthorizationClient ⟨credentials.clientId, traceId⟩
      contents).1 = .ok (getResultOf row)) :
    (∃ headers accessToken expiresIn, (authorizationStore.run entropy
        (guarded (requestStoredToken config credentials traceId)) contents).1 =
          .ok ⟨200, headers, some (.token accessToken expiresIn)⟩) ↔
      row.map (fun row => (row.clientSecretHashed, row.active)) =
        some (hashClientSecretHexString credentials.clientSecret, some true) := by
  rcases asked : authorizationStore.getAuthorizationClient ⟨credentials.clientId, traceId⟩
    contents with ⟨answer, middle⟩
  rw [asked] at found
  have first : authorizationStore.run entropy
      (ask (.getAuthorizationClient ⟨credentials.clientId, traceId⟩)) contents =
        (.ok (getResultOf row), middle) := by
    rw [run_ask]
    exact asked.trans (by rw [← found])
  have settled : ∀ response, authorizationStore.run entropy
      (requestStoredToken config credentials traceId) contents = (.ok response, middle) →
        (authorizationStore.run entropy
          (guarded (requestStoredToken config credentials traceId)) contents).1 = .ok response :=
    fun response done => congrArg Prod.fst (run_guarded done)
  cases row with
  | none =>
      have done := settled (.ofStatus 401) (run_bind_ok first)
      simp [done, AuthorizationResponse.ofStatus]
  | some row =>
      obtain ⟨clientSecretHashed, clientName, active, roles⟩ := row
      by_cases usable : active.getD false = false
      · have done := settled (.ofStatus 403) ((run_bind_ok first).trans (by
          simp [getResultOf, usable]))
        have notActive : active ≠ some true := by
          rintro rfl
          cases usable
        simp [done, AuthorizationResponse.ofStatus, notActive]
      · have isActive : active = some true := by
          cases active with
          | none => exact absurd rfl usable
          | some active => simpa using usable
        by_cases same : hashClientSecretHexString credentials.clientSecret = clientSecretHashed
        · have done := settled _ ((run_bind_ok first).trans (by
            simp only [getResultOf, usable, same, ne_eq, not_true_eq_false, if_false]
            exact run_bind_ok rfl))
          simp [done, same, isActive]
        · have done := settled (.ofStatus 401) ((run_bind_ok first).trans (by
            simp [getResultOf, usable, same]))
          simp [done, AuthorizationResponse.ofStatus, Ne.symm same]

/-- With hardcoded credentials disabled, only the stored clients get tokens. -/
theorem grantsToken_iff {authorizationRequest : AuthorizationRequest} {clientId secret : String}
    {rows : String → Option ClientRow}
    (parsed : parseRequestTokenBody authorizationRequest =
      .ok (.ok ⟨"client_credentials", clientId, secret⟩))
    (disabled : config.oauthHardCodedCredentialsEnabled = false)
    (stored : ∀ {request}, (authorizationStore.getAuthorizationClient request contents).1 =
      .ok (getResultOf (rows request.clientId)))
    (reserved : rows admin1.key = none ∧ rows verifyOnly1.key = none) :
    GrantsToken config authorizationStore entropy contents authorizationRequest ↔
      (rows clientId).map (fun row => (row.clientSecretHashed, row.active)) =
        some (hashClientSecretHexString secret, some true) := by
  by_cases hardcoded : clientId = admin1.key ∨ clientId = verifyOnly1.key
  · have absent : rows clientId = none := by
      rcases hardcoded with rfl | rfl
      · exact reserved.1
      · exact reserved.2
    have done : authorizationStore.run entropy (requestToken config authorizationRequest) contents =
        (.ok (.ofStatus 401), contents) := by
      apply run_guarded
      rw [parsed]
      refine (run_bind_ok (run_settle authorizationStore entropy _)).trans ?_
      simp [disabled, hardcoded]
    simp [GrantsToken, done, absent, AuthorizationResponse.ofStatus]
  · obtain ⟨notAdmin, notVerifyOnly⟩ := not_or.mp hardcoded
    have reduced : authorizationStore.run entropy (requestToken config authorizationRequest)
        contents = authorizationStore.run entropy (guarded (requestStoredToken config
          ⟨"client_credentials", clientId, secret⟩ authorizationRequest.traceId)) contents := by
      apply guarded_congr
      rw [parsed]
      refine (run_bind_ok (run_settle authorizationStore entropy _)).trans ?_
      simp [notAdmin, notVerifyOnly]
    unfold GrantsToken
    rw [reduced]
    exact requestStoredToken_grants stored

variable {Regular : Contents → Prop} {rows : Contents → String → Option ClientRow}
  {kept : Option Bool → Option Bool} {start : Contents} {events : List CredentialEvent}

/-- The server does not hand out the hardcoded keys as client ids. -/
def ReservesKeys (events : List CredentialEvent) : Prop :=
  ∀ clientId secret active, .created clientId secret active ∈ events →
    clientId ≠ admin1.key ∧ clientId ≠ verifyOnly1.key

omit [NodeRuntime] [ServerLibrary] [TokenLibrary] in
/-- A client without a create has no account. -/
theorem ledgerOf_absent {clientId : String}
    (absent : ∀ secret active, CredentialEvent.created clientId secret active ∉ events) :
    ledgerOf events clientId = none := by
  induction events using List.reverseRecOn with
  | nil => rfl
  | append_singleton earlier event ih =>
      have before := ih fun secret active inside =>
        absent secret active (List.mem_append_left _ inside)
      rw [ledgerOf_concat]
      cases event with
      | created created secret active =>
          have other : clientId ≠ created := by
            rintro rfl
            exact absent secret active (by simp)
          simpa [Ledger.after, other] using before
      | updated updated active =>
          by_cases same : clientId = updated
          · subst same
            simp [Ledger.after, before]
          · simpa [Ledger.after, same] using before
      | reset changed secret =>
          by_cases same : clientId = changed
          · subst same
            simp [Ledger.after, before]
          · simpa [Ledger.after, same] using before

/-- A client gets a token when the hash of its secret is the stored one and its flag is kept as
set. -/
theorem served_grantsToken_iff (keeps : KeepsClients authorizationStore Regular rows kept)
    (served : Served config authorizationStore start events contents) (regular : Regular start)
    (fresh : rows start = fun _ => none) (reserves : ReservesKeys events)
    {authorizationRequest : AuthorizationRequest} {clientId secret : String}
    (parsed : parseRequestTokenBody authorizationRequest =
      .ok (.ok ⟨"client_credentials", clientId, secret⟩))
    (disabled : config.oauthHardCodedCredentialsEnabled = false) :
    GrantsToken config authorizationStore entropy contents authorizationRequest ↔
      ∃ account, ledgerOf events clientId = some account ∧ kept account.active = some true ∧
        hashClientSecretHexString account.secret = hashClientSecretHexString secret := by
  obtain ⟨still, represents⟩ := served.represents keeps regular fresh
  have absent : ∀ {key : String},
      (∀ secret active, CredentialEvent.created key secret active ∉ events) →
        rows contents key = none := by
    intro key never
    have same := represents key
    rw [ledgerOf_absent never] at same
    simpa using same
  rw [grantsToken_iff parsed disabled (fun {request} => keeps.found still)
    ⟨absent fun secret active inside => (reserves _ _ _ inside).1 rfl,
      absent fun secret active inside => (reserves _ _ _ inside).2 rfl⟩,
    represents clientId]
  cases ledgerOf events clientId with
  | none => simp
  | some account => simp [and_comm]

/-- The secrets that the answered calls have handed out. -/
def CredentialEvent.secret? : CredentialEvent → Option String
  | .created _ secret _ => some secret
  | .updated _ _ => none
  | .reset _ secret => some secret

omit [NodeRuntime] [ServerLibrary] [TokenLibrary] in
theorem ledgerOf_issued {clientId : String} {account : Account}
    (known : ledgerOf events clientId = some account) :
    account.secret ∈ events.filterMap CredentialEvent.secret? := by
  induction events using List.reverseRecOn generalizing account with
  | nil => cases known
  | append_singleton earlier event ih =>
      rw [ledgerOf_concat] at known
      rw [List.filterMap_append, List.mem_append]
      cases event with
      | created created secret active =>
          by_cases same : clientId = created
          · subst same
            simp only [Ledger.after, Function.update_self, Option.some.injEq] at known
            subst known
            exact Or.inr (by simp [CredentialEvent.secret?])
          · simp only [Ledger.after, ne_eq, same, not_false_eq_true, Function.update_of_ne] at known
            exact Or.inl (ih known)
      | updated updated active =>
          by_cases same : clientId = updated
          · subst same
            simp only [Ledger.after, Function.update_self, Option.map_eq_some_iff] at known
            obtain ⟨before, earlierKnown, rfl⟩ := known
            have inside := ih earlierKnown
            exact Or.inl inside
          · simp only [Ledger.after, ne_eq, same, not_false_eq_true, Function.update_of_ne] at known
            exact Or.inl (ih known)
      | reset changed secret =>
          by_cases same : clientId = changed
          · subst same
            simp only [Ledger.after, Function.update_self, Option.map_eq_some_iff] at known
            obtain ⟨before, earlierKnown, rfl⟩ := known
            exact Or.inr (by simp [CredentialEvent.secret?])
          · simp only [Ledger.after, ne_eq, same, not_false_eq_true, Function.update_of_ne] at known
            exact Or.inl (ih known)

/-- No issued secret has the hash of other bytes than its own. -/
def CollisionFree (events : List CredentialEvent) (secret : String) : Prop :=
  ∀ issued ∈ events.filterMap CredentialEvent.secret?,
    hashClientSecretHexString issued = hashClientSecretHexString secret →
      fromHex issued = fromHex secret

/-- A token is granted exactly to an existing client that was not set inactive and that presents
the issued secret. -/
def Honours (config : Config) (authorizationStore : AuthorizationStore Contents)
    (entropy : Entropy) (contents : Contents) (events : List CredentialEvent)
    (authorizationRequest : AuthorizationRequest) (clientId secret : String) : Prop :=
  GrantsToken config authorizationStore entropy contents authorizationRequest ↔
    (ledgerOf events).Entitles clientId secret

/-- The flag that a store keeps decides, and so does the decoded secret. -/
theorem served_honours_iff (keeps : KeepsClients authorizationStore Regular rows kept)
    (served : Served config authorizationStore start events contents) (regular : Regular start)
    (fresh : rows start = fun _ => none) (reserves : ReservesKeys events)
    {authorizationRequest : AuthorizationRequest} {clientId secret : String}
    (parsed : parseRequestTokenBody authorizationRequest =
      .ok (.ok ⟨"client_credentials", clientId, secret⟩))
    (disabled : config.oauthHardCodedCredentialsEnabled = false)
    (collisionFree : CollisionFree events secret) :
    Honours config authorizationStore entropy contents events authorizationRequest clientId secret ↔
      ∀ account, ledgerOf events clientId = some account →
        (kept account.active ≠ some true → account.active ≠ some false → account.secret ≠ secret) ∧
          (kept account.active = some true → fromHex account.secret = fromHex secret →
            account.secret = secret) := by
  unfold Honours Ledger.Entitles
  rw [served_grantsToken_iff keeps served regular fresh reserves parsed disabled]
  cases known : ledgerOf events clientId with
  | none => simp
  | some account =>
      have decoded : hashClientSecretHexString account.secret = hashClientSecretHexString secret ↔
          fromHex account.secret = fromHex secret :=
        ⟨collisionFree account.secret (ledgerOf_issued known), fun same => by
          rw [hashClientSecretHexString, hashClientSecretHexString, same]⟩
      have spelled : account.secret = secret → fromHex account.secret = fromHex secret :=
        congrArg fromHex
      have inactive : account.active = some false → kept account.active ≠ some true := by
        intro off
        rw [off, keeps.explicit]
        decide
      simp only [Option.some.injEq, exists_eq_left', forall_eq', decoded]
      tauto

end Grants
end Meadowlark.Authorization
