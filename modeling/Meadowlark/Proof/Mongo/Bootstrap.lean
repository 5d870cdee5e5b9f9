import Meadowlark.Construction.Mongo.Authorization
import Meadowlark.Proof.Authorization.Bootstrap
import Meadowlark.Systems.SnapshotHistory

namespace Meadowlark.Mongo
open Meadowlark.Core Systems Authorization

/-- The number of stored clients that are bootstrap admins. -/
def countBootstrapAdmins (clients : Clients) : Nat := clients.items.countP (·.isBootstrapAdmin)

abbrev CreateClientSystem :=
  System AuthorizationDocument ClientCall ClientCall.Answer (Except Exception AuthorizationResponse)

/-- The requests carry no token. -/
def Anonymous : Event (AuthorizationRequest × Entropy) → Prop
  | .begin input => isBootstrapAdminRequest input.1 = true
  | _ => True

instance (event : Event (AuthorizationRequest × Entropy)) : Decidable (Anonymous event) :=
  match event with
  | .begin input => inferInstanceAs (Decidable (isBootstrapAdminRequest input.1 = true))
  | .step _ | .commit _ | .abort _ => isTrue trivial

/-- A transaction that has written commits only if no other one has committed a write since its
snapshot. -/
def CommitsUndisturbed (system : CreateClientSystem) :
    Event (AuthorizationRequest × Entropy) → Prop
  | .commit index => ∀ attempt ∈ system.attempts[index]?,
      attempt.transaction.written ≠ [] → attempt.transaction.overwritten = []
  | _ => True

instance (system : CreateClientSystem) (event : Event (AuthorizationRequest × Entropy)) :
    Decidable (CommitsUndisturbed system event) :=
  match event with
  | .commit index => inferInstanceAs (Decidable (∀ attempt ∈ system.attempts[index]?,
      attempt.transaction.written ≠ [] → attempt.transaction.overwritten = []))
  | .begin _ | .step _ | .abort _ => isTrue trivial

/-- The upsert inserts an admin only if it sees none. -/
theorem upsertBootstrapAdmin_cases {client : AuthorizationDocument} {clients following : Clients}
    {written : List String} {answer : ClientUpsertAnswer}
    (done : performClientCall (.upsertBootstrapAdmin client) clients =
      .ok (following, written, answer)) :
    (following = clients ∧ written = [] ∧ answer = ⟨true, 0⟩) ∨
      ((∀ other ∈ clients.items, other.isBootstrapAdmin = false) ∧
        following.items = clients.items ++ [client] ∧ written = [client.id] ∧
        answer = ⟨true, 1⟩) := by
  simp only [performClientCall] at done
  split at done
  · cases done
    exact Or.inl ⟨rfl, rfl, rfl⟩
  · rename_i absent
    split at done
    · rename_i inserted accepted
      cases done
      refine Or.inr ⟨?_, Database.insertAll_items accepted, rfl, rfl⟩
      intro other stored
      simpa using fun flagged => absent (List.any_eq_true.mpr ⟨other, stored, flagged⟩)
    · cases done

section Stages

/-- What an attempt has done for a request without a token. -/
inductive BootstrapStage (transaction : Transaction AuthorizationDocument) :
    ClientSession (Except Exception AuthorizationResponse) → Prop where
  | refused {outcome : Except Exception AuthorizationResponse} (other : isCreated outcome = false)
      (unwritten : transaction.written = []) : BootstrapStage transaction (.pure outcome)
  | asking {request : CreateAuthorizationClientRequest} {clientSecretAsHex path : String}
      (unwritten : transaction.written = []) (fresh : transaction.view = transaction.snapshot) :
      BootstrapStage transaction
        (.call (.upsertBootstrapAdmin (bootstrapAdminDocumentFromCreate request)) fun answer =>
          .pure (.ok (bootstrapResponse request clientSecretAsHex path
            (.ok (bootstrapResult answer)))))
  | inserted {outcome : Except Exception AuthorizationResponse} {client : AuthorizationDocument}
      (written : transaction.written = [client.id]) (flagged : client.isBootstrapAdmin = true)
      (view : transaction.view.items = transaction.snapshot.items ++ [client])
      (first : ∀ other ∈ transaction.snapshot.items, other.isBootstrapAdmin = false) :
      BootstrapStage transaction (.pure outcome)

variable {transaction : Transaction AuthorizationDocument}
  {program : ClientSession (Except Exception AuthorizationResponse)} {committed : Clients}

theorem BootstrapStage.expose (stage : BootstrapStage transaction program)
    (written : List String) : BootstrapStage (transaction.expose written) program := by
  cases stage with
  | refused other unwritten => exact .refused other unwritten
  | asking unwritten fresh => exact .asking unwritten fresh
  | inserted written flagged view first => exact .inserted written flagged view first

variable [NodeRuntime] [ServerLibrary] [TokenLibrary] {config : Config}

theorem bootstrapStage_start {input : AuthorizationRequest × Entropy}
    (anonymous : isBootstrapAdminRequest input.1 = true) :
    BootstrapStage (Transaction.start committed)
      ((createClientService config).transaction input) := by
  have shape := @createClient_interpret _ _ ClientSession _ _ (callSession input.2) _ config input.1
    anonymous input.2.clientId input.2.bytes rfl fun _ => rfl
  change BootstrapStage _ ((createClient config input.1).run.interpret (callSession input.2))
  rcases shape with ⟨response, other, shape⟩ | ⟨request, clientSecretAsHex, shape⟩
  · rw [shape]
    exact .refused (by simpa [isCreated] using other) rfl
  · rw [shape]
    exact .asking rfl rfl

/-- The upsert inserts an admin only if its snapshot shows none. -/
theorem BootstrapStage.advance {op : ClientCall}
    {next : op.Answer → ClientSession (Except Exception AuthorizationResponse)}
    {attempt : Attempt AuthorizationDocument ClientCall ClientCall.Answer
      (Except Exception AuthorizationResponse)}
    (stage : BootstrapStage transaction (.call op next))
    (moved : (createClientService config).advance committed transaction op next = some attempt) :
    BootstrapStage attempt.transaction attempt.program := by
  cases stage with
  | @asking request clientSecretAsHex path unwritten fresh =>
      obtain ⟨view, written, answer, done, rfl⟩ := Service.advance_inSession rfl moved
      rcases upsertBootstrapAdmin_cases done with
        ⟨rfl, rfl, rfl⟩ | ⟨first, inserted, rfl, rfl⟩
      · exact .refused rfl unwritten
      · refine @BootstrapStage.inserted _ _ (bootstrapAdminDocumentFromCreate request) ?_ rfl ?_ ?_
        · rw [Transaction.advance_written, unwritten]
          rfl
        · rw [Transaction.advance_view, inserted, fresh]
          rfl
        · rw [Transaction.advance_snapshot, ← fresh]
          exact first

end Stages

section Commits
variable {committed : Clients} {transaction : Transaction AuthorizationDocument}

theorem countBootstrapAdmins_eq_zero {clients : Clients} :
    countBootstrapAdmins clients = 0 ↔
      ∀ client ∈ clients.items, client.isBootstrapAdmin = false := by
  simp [countBootstrapAdmins, List.countP_eq_zero]

theorem countBootstrapAdmins_install_nil (view : Clients) :
    countBootstrapAdmins (committed.install view []) = countBootstrapAdmins committed := by
  have same : (committed.install view []).items = committed.items := by
    simp [Database.install, Database.erase]
  rw [countBootstrapAdmins, same]
  rfl

/-- The commit of an insert that nobody disturbed gives the store its only admin. -/
theorem countBootstrapAdmins_install {client : AuthorizationDocument}
    (aligned : transaction.Aligned committed) (undisturbed : transaction.overwritten = [])
    (flagged : client.isBootstrapAdmin = true)
    (view : transaction.view.items = transaction.snapshot.items ++ [client])
    (first : ∀ other ∈ transaction.snapshot.items, other.isBootstrapAdmin = false) :
    countBootstrapAdmins committed = 0 ∧
      countBootstrapAdmins (committed.install transaction.view [client.id]) = 1 := by
  have none : ∀ other ∈ committed.items, other.isBootstrapAdmin = false := by
    intro other stored
    have outside : key other ∉ transaction.overwritten := by
      rw [undisturbed]
      exact List.not_mem_nil
    exact first other ((aligned.committed_iff other outside).mp stored)
  have kept : (committed.erase [client.id]).items.countP (·.isBootstrapAdmin) = 0 :=
    countBootstrapAdmins_eq_zero.mpr fun other stored =>
      none other ((Database.mem_erase committed [client.id] other).mp stored).1
  have before : (transaction.snapshot.items.filter fun item => key item ∈ [client.id]).countP
      (·.isBootstrapAdmin) = 0 := by
    rw [List.countP_eq_zero]
    intro other inside
    rw [first other (List.mem_filter.mp inside).1]
    decide
  refine ⟨countBootstrapAdmins_eq_zero.mpr none, ?_⟩
  change ((committed.erase [client.id]).items ++
    transaction.view.items.filter fun item => key item ∈ [client.id]).countP _ = 1
  rw [List.countP_append, kept, view, List.filter_append, List.countP_append, before]
  simp [flagged]

/-- A commit either stores no client or stores the first admin. -/
theorem BootstrapStage.commit {outcome : Except Exception AuthorizationResponse}
    (stage : BootstrapStage transaction (.pure outcome)) (aligned : transaction.Aligned committed)
    (undisturbed : transaction.written ≠ [] → transaction.overwritten = []) :
    (isCreated outcome = false ∧
      countBootstrapAdmins (committed.install transaction.view transaction.written) =
        countBootstrapAdmins committed) ∨
    (countBootstrapAdmins committed = 0 ∧
      countBootstrapAdmins (committed.install transaction.view transaction.written) = 1) := by
  cases stage with
  | refused other unwritten =>
      rw [unwritten]
      exact Or.inl ⟨other, countBootstrapAdmins_install_nil transaction.view⟩
  | inserted written flagged view first =>
      have alone := undisturbed (by rw [written]; exact List.cons_ne_nil _ _)
      rw [written]
      exact Or.inr (countBootstrapAdmins_install aligned alone flagged view first)

end Commits

section Runs
variable [NodeRuntime] [ServerLibrary] [TokenLibrary] {config : Config}

/-- Every created response belongs to an admin in the store. -/
structure BootstrapInvariant (system : CreateClientSystem)
    (results : List (Except Exception AuthorizationResponse)) : Prop where
  attempts : ∀ attempt ∈ system.attempts, attempt.transaction.Aligned system.committed ∧
    BootstrapStage attempt.transaction attempt.program
  answered : results.countP isCreated ≤ countBootstrapAdmins system.committed
  admins : countBootstrapAdmins system.committed ≤ 1

variable {system following : CreateClientSystem}
  {results : List (Except Exception AuthorizationResponse)}
  {event : Event (AuthorizationRequest × Entropy)}

omit [NodeRuntime] [ServerLibrary] [TokenLibrary] in
/-- The attempts that stay see the commit as an interference. -/
theorem BootstrapInvariant.expose (invariant : BootstrapInvariant system results) (index : Nat)
    (view : Clients) (written : List String)
    {attempt : Attempt AuthorizationDocument ClientCall ClientCall.Answer
      (Except Exception AuthorizationResponse)}
    (inside : attempt ∈ Service.exposeAll (system.attempts.eraseIdx index) written) :
    attempt.transaction.Aligned (system.committed.install view written) ∧
      BootstrapStage attempt.transaction attempt.program := by
  obtain ⟨old, among, rfl⟩ := List.mem_map.mp inside
  obtain ⟨aligned, stage⟩ := invariant.attempts old (List.mem_of_mem_eraseIdx among)
  exact ⟨aligned.install view written, stage.expose written⟩

theorem BootstrapInvariant.next (invariant : BootstrapInvariant system results)
    (anonymous : Anonymous event) (undisturbed : CommitsUndisturbed system event)
    (moved : (createClientService config).next system event = some following) :
    BootstrapInvariant following (results ++ event.returns system) := by
  cases event with
  | begin input =>
      cases moved
      rw [show Event.returns system (.begin input) = [] from rfl, List.append_nil]
      refine ⟨?_, invariant.answered, invariant.admins⟩
      intro attempt inside
      rcases List.mem_append.mp inside with old | new
      · exact invariant.attempts attempt old
      · rw [List.mem_singleton.mp new]
        exact ⟨Transaction.aligned_start _, bootstrapStage_start anonymous⟩
  | step index =>
      rw [show Event.returns system (.step index) = [] from rfl, List.append_nil]
      simp only [Service.next] at moved
      split at moved
      · rename_i transaction op next present
        obtain ⟨aligned, stage⟩ := invariant.attempts _ (List.mem_of_getElem? present)
        split at moved
        · rename_i attempt advanced
          cases moved
          refine ⟨?_, invariant.answered, invariant.admins⟩
          intro other inside
          rcases List.mem_or_eq_of_mem_set inside with old | rfl
          · exact invariant.attempts other old
          · exact ⟨(Service.advance_aligned aligned advanced).2, stage.advance advanced⟩
        · cases moved
          exact ⟨fun other inside => invariant.attempts other (List.mem_of_mem_eraseIdx inside),
            invariant.answered, invariant.admins⟩
      · cases moved
  | commit index =>
      simp only [Service.next] at moved
      split at moved
      · rename_i transaction outcome present
        split at moved
        · cases moved
          obtain ⟨aligned, stage⟩ := invariant.attempts _ (List.mem_of_getElem? present)
          have returned : Event.returns system
              (.commit index : Event (AuthorizationRequest × Entropy)) = [outcome] := by
            simp [Event.returns, present]
          have answered := invariant.answered
          have admins := invariant.admins
          have effect := stage.commit aligned (undisturbed _ present)
          have added : [outcome].countP isCreated = if isCreated outcome then 1 else 0 :=
            List.countP_singleton ..
          rw [returned]
          refine ⟨fun attempt => invariant.expose index transaction.view transaction.written, ?_, ?_⟩
          · change _ ≤ countBootstrapAdmins (system.committed.install _ _)
            rw [List.countP_append, added]
            rcases effect with ⟨other, same⟩ | ⟨empty, one⟩
            · rw [same, other]
              simpa using answered
            · rw [one]
              split
              · omega
              · omega
          · change countBootstrapAdmins (system.committed.install _ _) ≤ 1
            rcases effect with ⟨other, same⟩ | ⟨empty, one⟩
            · rw [same]
              exact admins
            · exact one.le
        · cases moved
      · cases moved
  | abort index =>
      rw [show Event.returns system (.abort index) = [] from rfl, List.append_nil]
      simp only [Service.next] at moved
      split at moved
      · cases moved
        exact ⟨fun other inside => invariant.attempts other (List.mem_of_mem_eraseIdx inside),
          invariant.answered, invariant.admins⟩
      · cases moved

theorem bootstrapInvariant_answered
    (reached : (createClientService config).Answered
      (fun system event => Anonymous event ∧ CommitsUndisturbed system event) system results) :
    BootstrapInvariant system results := by
  induction reached with
  | empty =>
      refine ⟨?_, Nat.le_refl 0, Nat.zero_le 1⟩
      intro attempt inside
      cases inside
  | next reached kept moved ih => exact ih.next kept.1 kept.2 moved

end Runs
end Meadowlark.Mongo
