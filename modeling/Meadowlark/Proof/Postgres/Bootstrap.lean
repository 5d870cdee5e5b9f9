import Meadowlark.Construction.Postgres.Authorization
import Meadowlark.Proof.Authorization.Bootstrap

namespace Meadowlark.Postgres
open Meadowlark.Core Systems Authorization

/-- The number of client rows that are bootstrap admins. -/
def countBootstrapAdmins (tables : Tables) : Nat :=
  tables.authorizations.countP (·.isBootstrapAdmin)

abbrev CreateClientActivity :=
  Activity Tables (AuthorizationRequest × Entropy) Statement (Except Exception AuthorizationResponse)
    Statement.Answer

abbrev CreateClientHosted :=
  Hosted Tables (AuthorizationRequest × Entropy) Statement (Except Exception AuthorizationResponse)
    Statement.Answer

/-- The requests carry no token. -/
def Anonymous : Move (AuthorizationRequest × Entropy) → Prop
  | .arrive input => isBootstrapAdminRequest input.1 = true
  | _ => True

instance (move : Move (AuthorizationRequest × Entropy)) : Decidable (Anonymous move) :=
  match move with
  | .arrive input => inferInstanceAs (Decidable (isBootstrapAdminRequest input.1 = true))
  | .resume _ | .drift => isTrue trivial

/-- The next statement of a program inserts a client. -/
def insertsNext :
    Program Statement Statement.Answer (Except Exception AuthorizationResponse) → Bool
  | .call (.insertOrUpdateAuthorization _) _ => true
  | _ => false

/-- A request inserts a client only into the rows that its count has seen. -/
def InsertsUndisturbed (system : CreateClientHosted) :
    Move (AuthorizationRequest × Entropy) → Prop
  | .resume index => ∀ activity ∈ system.activities[index]?, insertsNext activity.rest = true →
      activity.seen.authorizations = system.state.authorizations
  | _ => True

instance (system : CreateClientHosted) (move : Move (AuthorizationRequest × Entropy)) :
    Decidable (InsertsUndisturbed system move) :=
  match move with
  | .resume index => inferInstanceAs (Decidable (∀ activity ∈ system.activities[index]?,
      insertsNext activity.rest = true →
        activity.seen.authorizations = system.state.authorizations))
  | .arrive _ | .drift => isTrue trivial

/-- The activity has returned a new client. -/
def hasCreated (activity : CreateClientActivity) : Bool :=
  match activity.rest with
  | .pure outcome => isCreated outcome
  | .call _ _ => false

section Statements
variable [ColumnTypes] {tables following : Tables}

theorem autocommits_check {answer : Statement.checkBootstrapAdminExists.Answer}
    (served : tables.Autocommits .checkBootstrapAdminExists answer following) :
    following = tables ∧
      ((∃ error, answer = .error error) ∨ answer = .ok (countBootstrapAdmins tables)) := by
  cases served with
  | sent => exact ⟨rfl, Or.inr rfl⟩
  | lost error => exact ⟨rfl, Or.inl ⟨error, rfl⟩⟩

/-- An insert that is heard has replaced the rows with its id. -/
theorem autocommits_insert {client : AuthorizationDocument}
    {answer : (Statement.insertOrUpdateAuthorization client).Answer}
    (served : tables.Autocommits (.insertOrUpdateAuthorization client) answer following) :
    (following = tables ∧ ∃ error, answer = .error error) ∨
      (following.authorizations =
        tables.authorizations.filter (·.clientId ≠ client.clientId) ++ [client] ∧
          answer = .ok 1) := by
  cases served with
  | sent => exact Or.inr ⟨rfl, rfl⟩
  | lost error => exact Or.inl ⟨rfl, error, rfl⟩

omit [ColumnTypes] in
/-- An insert into rows without an admin gives the only admin. -/
theorem countBootstrapAdmins_insert {client : AuthorizationDocument}
    (flagged : client.isBootstrapAdmin = true) (none : countBootstrapAdmins tables = 0)
    (inserted : following.authorizations =
      tables.authorizations.filter (·.clientId ≠ client.clientId) ++ [client]) :
    countBootstrapAdmins following = 1 := by
  have before : ∀ other ∈ tables.authorizations, ¬other.isBootstrapAdmin = true :=
    List.countP_eq_zero.mp none
  have kept : (tables.authorizations.filter (·.clientId ≠ client.clientId)).countP
      (·.isBootstrapAdmin) = 0 :=
    List.countP_eq_zero.mpr fun other inside => before other (List.mem_filter.mp inside).1
  rw [countBootstrapAdmins, inserted, List.countP_append, kept]
  simp [flagged]

end Statements

section Stages
variable (request : CreateAuthorizationClientRequest) (clientSecretAsHex path : String)

/-- The response after the insert of the first admin. -/
def afterInsert (answer : Except SqlError Nat) :
    Program Statement Statement.Answer (Except Exception AuthorizationResponse) :=
  .pure (.ok (bootstrapResponse request clientSecretAsHex path (.ok (match answer with
    | .error _ => .unknownFailure
    | .ok rowCount => if rowCount > 0 then .createSuccess else .unknownFailure))))

/-- The insert follows only when the count has found no admin. -/
def afterCheck : Except SqlError Nat →
    Program Statement Statement.Answer (Except Exception AuthorizationResponse)
  | .error _ => .pure (.ok (bootstrapResponse request clientSecretAsHex path (.ok .unknownFailure)))
  | .ok total =>
      if total > 0 then
        .pure (.ok (bootstrapResponse request clientSecretAsHex path
          (.ok .createFailureAlreadyExists)))
      else .call (.insertOrUpdateAuthorization (bootstrapAdminDocumentFromCreate request))
        (afterInsert request clientSecretAsHex path)

/-- What a request without a token still has to do, with the rows that it has seen last. -/
inductive BootstrapStage (seen : Tables) :
    Program Statement Statement.Answer (Except Exception AuthorizationResponse) → Prop where
  | finished (outcome : Except Exception AuthorizationResponse) :
      BootstrapStage seen (.pure outcome)
  | checking (request : CreateAuthorizationClientRequest) (clientSecretAsHex path : String) :
      BootstrapStage seen
        (.call .checkBootstrapAdminExists (afterCheck request clientSecretAsHex path))
  | inserting {request : CreateAuthorizationClientRequest} {clientSecretAsHex path : String}
      (none : countBootstrapAdmins seen = 0) :
      BootstrapStage seen
        (.call (.insertOrUpdateAuthorization (bootstrapAdminDocumentFromCreate request))
          (afterInsert request clientSecretAsHex path))

/-- The call of a request without a token is the count and, without an admin, the insert. -/
theorem bootstrapCall_run (entropy : Entropy) :
    (callSession entropy (.tryCreateBootstrapAuthorizationAdmin request) >>= fun answer =>
      pure (.ok (bootstrapResponse request clientSecretAsHex path answer)) :
        Program Statement Statement.Answer (Except Exception AuthorizationResponse)) =
      .call .checkBootstrapAdminExists (afterCheck request clientSecretAsHex path) := by
  change Program.call _ _ = Program.call _ _
  congr 1
  funext answer
  rcases answer with error | total
  · rfl
  · by_cases found : total > 0
    · have known : decide (total > 0) = true := decide_eq_true found
      change Program.bind (throwing <$> ((if decide (total > 0) then _ else _ :
        Session TryCreateBootstrapAuthorizationAdminResult)).run.bind _) _ = _
      rw [known]
      simp only [afterCheck, if_pos found]
      rfl
    · have known : decide (total > 0) = false := decide_eq_false found
      change Program.bind (throwing <$> ((if decide (total > 0) then _ else _ :
        Session TryCreateBootstrapAuthorizationAdminResult)).run.bind _) _ = _
      rw [known]
      simp only [afterCheck, if_neg found]
      change Program.call _ _ = Program.call _ _
      congr 1
      funext inserted
      rcases inserted with error | rowCount
      · rfl
      · by_cases stored : rowCount > 0
        · have created : decide (rowCount > 0) = true := decide_eq_true stored
          simp only [afterInsert, if_pos stored]
          change Program.bind (throwing <$> (pure (if decide (rowCount > 0) then _ else _) :
            Session TryCreateBootstrapAuthorizationAdminResult).run.bind _) _ = _
          rw [created]
          rfl
        · have failed : decide (rowCount > 0) = false := decide_eq_false stored
          simp only [afterInsert, if_neg stored]
          change Program.bind (throwing <$> (pure (if decide (rowCount > 0) then _ else _) :
            Session TryCreateBootstrapAuthorizationAdminResult).run.bind _) _ = _
          rw [failed]
          rfl

variable [NodeRuntime] [ServerLibrary] [TokenLibrary] [ColumnTypes] {config : Config}

theorem createClient_stage {input : AuthorizationRequest × Entropy} (seen : Tables)
    (anonymous : isBootstrapAdminRequest input.1 = true) :
    BootstrapStage seen ((createClientHost config).program input) ∧
      ∀ outcome, (createClientHost config).program input = .pure outcome →
        isCreated outcome = false := by
  have shape := @createClient_interpret _ _ (Program Statement Statement.Answer) _ _
    (callSession input.2) _ config input.1 anonymous input.2.clientId input.2.bytes rfl fun _ => rfl
  change BootstrapStage seen ((createClient config input.1).run.interpret (callSession input.2)) ∧
    ∀ outcome, (createClient config input.1).run.interpret (callSession input.2) = _ → _
  rcases shape with ⟨response, other, shape⟩ | ⟨request, clientSecretAsHex, shape⟩
  · rw [shape]
    refine ⟨.finished _, ?_⟩
    intro outcome same
    cases same
    simpa [isCreated] using other
  · have asked : (createClient config input.1).run.interpret (callSession input.2) =
        .call .checkBootstrapAdminExists (afterCheck request clientSecretAsHex input.1.path) := by
      rw [shape]
      exact bootstrapCall_run request clientSecretAsHex input.1.path input.2
    rw [asked]
    refine ⟨.checking request clientSecretAsHex input.1.path, ?_⟩
    intro outcome same
    cases same

end Stages

section Runs
variable [NodeRuntime] [ServerLibrary] [TokenLibrary] [ColumnTypes] {config : Config}

/-- Every created response belongs to an admin in the table. -/
structure BootstrapInvariant (system : CreateClientHosted) : Prop where
  stages : ∀ activity ∈ system.activities, BootstrapStage activity.seen activity.rest
  created : system.activities.countP hasCreated ≤ countBootstrapAdmins system.state
  admins : countBootstrapAdmins system.state ≤ 1

/-- Every statement is awaited, so that an activity waits after each answer. -/
theorem createClient_settles {activity following : CreateClientActivity} {state last : Tables}
    (settles : (createClientHost config).Settles activity state following last) :
    following = activity ∧ last = state := by
  cases settles with
  | stop stops => exact ⟨rfl, rfl⟩
  | call pending immediate served settles => exact absurd immediate (by simp [createClientHost])

omit [NodeRuntime] [ServerLibrary] [TokenLibrary] in
/-- An answered statement leaves the rows as they are, or it stores the first admin. -/
theorem BootstrapStage.answered {seen tables following : Tables} {op : Statement}
    {next : op.Answer → Program Statement Statement.Answer (Except Exception AuthorizationResponse)}
    {answer : op.Answer} (stage : BootstrapStage seen (.call op next))
    (undisturbed : ∀ client, op = .insertOrUpdateAuthorization client →
      seen.authorizations = tables.authorizations)
    (served : tables.Autocommits op answer following) :
    BootstrapStage following (next answer) ∧
      ((following = tables ∧ ∀ outcome, next answer = .pure outcome → isCreated outcome = false) ∨
        (countBootstrapAdmins tables = 0 ∧ countBootstrapAdmins following = 1)) := by
  cases stage with
  | checking request clientSecretAsHex path =>
      obtain ⟨rfl, ⟨error, rfl⟩ | rfl⟩ := autocommits_check served
      · refine ⟨.finished _, Or.inl ⟨rfl, ?_⟩⟩
        intro outcome same
        cases same
        rfl
      · by_cases taken : countBootstrapAdmins following > 0
        · simp only [afterCheck, if_pos taken]
          refine ⟨.finished _, Or.inl ⟨trivial, ?_⟩⟩
          intro outcome same
          cases same
          rfl
        · simp only [afterCheck, if_neg taken]
          refine ⟨.inserting (Nat.eq_zero_of_not_pos taken), Or.inl ⟨trivial, ?_⟩⟩
          intro outcome same
          cases same
  | @inserting request clientSecretAsHex path none =>
      refine ⟨.finished _, ?_⟩
      rcases autocommits_insert served with ⟨rfl, error, rfl⟩ | ⟨inserted, rfl⟩
      · refine Or.inl ⟨rfl, ?_⟩
        intro outcome same
        cases same
        rfl
      · have same := undisturbed _ rfl
        have empty : countBootstrapAdmins tables = 0 := by
          rw [countBootstrapAdmins, ← same]
          exact none
        exact Or.inr ⟨empty, countBootstrapAdmins_insert rfl empty inserted⟩

variable {system following : CreateClientHosted} {move : Move (AuthorizationRequest × Entropy)}

theorem BootstrapInvariant.step (invariant : BootstrapInvariant system)
    (anonymous : Anonymous move) (undisturbed : InsertsUndisturbed system move)
    (moved : (createClientHost config).Step move system following) :
    BootstrapInvariant following := by
  cases moved with
  | @arrive _ input activity state settles =>
      obtain ⟨rfl, rfl⟩ := createClient_settles settles
      obtain ⟨stage, other⟩ := @createClient_stage _ _ _ _ config input system.state anonymous
      refine ⟨?_, ?_, invariant.admins⟩
      · intro activity inside
        rcases List.mem_append.mp inside with old | new
        · exact invariant.stages activity old
        · rw [List.mem_singleton.mp new]
          exact stage
      · have fresh : hasCreated ((createClientHost config).start system.state input) = false := by
          unfold hasCreated
          split
          · rename_i outcome returned
            exact other outcome returned
          · rfl
        rw [List.countP_append, List.countP_singleton, fresh]
        exact invariant.created
  | @resume _ index activity last middle state op next answer present pending served settles =>
      obtain ⟨rfl, rfl⟩ := createClient_settles settles
      have inside := List.mem_of_getElem? present
      obtain ⟨position, same⟩ := List.getElem?_eq_some_iff.mp present
      have stage := invariant.stages activity inside
      rw [pending] at stage
      have seen : ∀ client, op = .insertOrUpdateAuthorization client →
          activity.seen.authorizations = system.state.authorizations := by
        rintro client rfl
        apply undisturbed activity present
        rw [pending]
        rfl
      obtain ⟨after, effect⟩ := stage.answered seen served
      have waiting : hasCreated system.activities[index] = false := by
        rw [same]
        unfold hasCreated
        rw [pending]
      have created := invariant.created
      have admins := invariant.admins
      refine ⟨?_, ?_, ?_⟩
      · intro other among
        rcases List.mem_or_eq_of_mem_set among with old | rfl
        · exact invariant.stages other old
        · exact after
      · change (system.activities.set index _).countP hasCreated ≤ countBootstrapAdmins state
        rw [List.countP_set position, waiting, if_neg Bool.false_ne_true]
        rcases effect with ⟨rfl, other⟩ | ⟨empty, one⟩
        · have fresh : hasCreated (activity.answered op system.state (next answer)) = false := by
            unfold hasCreated
            split
            · rename_i outcome returned
              exact other outcome returned
            · rfl
          rw [fresh]
          simpa using created
        · rw [one]
          split
          · omega
          · omega
      · rcases effect with ⟨rfl, other⟩ | ⟨empty, one⟩
        · exact admins
        · exact one.le
  | drift drifts => exact False.elim drifts

theorem bootstrapInvariant_reached {initial : Tables} (empty : countBootstrapAdmins initial = 0)
    (reached : (createClientHost config).Reached
      (fun system move => Anonymous move ∧ InsertsUndisturbed system move) initial system) :
    BootstrapInvariant system := by
  induction reached with
  | start =>
      refine ⟨?_, Nat.zero_le _, empty.le.trans (Nat.zero_le 1)⟩
      intro activity inside
      cases inside
  | move reached kept moved ih => exact ih.step kept.1 kept.2 moved

end Runs
end Meadowlark.Postgres
