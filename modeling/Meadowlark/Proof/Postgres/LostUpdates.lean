import Meadowlark.Proof.Postgres.DocumentVersions

namespace Meadowlark.Postgres
open Meadowlark.Core Systems

section Runs
variable [ColumnTypes]

def Caller.progress (caller : Caller) : Progress :=
  caller.history.foldr (fun exchange progress => progress.advance exchange.1 exchange.2) ⟨[], false⟩

/-- The call still has a statement to send. -/
def Caller.pending (caller : Caller) : Bool :=
  match caller.rest with
  | .pure _ => false
  | .call _ _ => true

/-- A call that has read a document and not written yet is ahead of its committed form. -/
def Caller.Ahead (caller : Caller) (requestTimestamp : Int)
    (committed : List MeadowlarkDocument) : Prop :=
  caller.pending = true → caller.progress.written = false → ∀ row ∈ caller.progress.read,
    row.lastModifiedAt < requestTimestamp → ∀ stored ∈ committed,
      stored.documentUuid = row.documentUuid → stored.lastModifiedAt < requestTimestamp

/-- No commit changes a document that another call has read as older than itself, and has not
written yet, unless the change is older than that call too. -/
def NoOvertaking (clients following : Clients) : Prop :=
  ∀ stored ∈ following.database.documents.committed,
    stored ∉ clients.database.documents.committed →
      ∀ caller ∈ clients.callers, caller.pending = true → caller.progress.written = false →
        ∀ requestTimestamp ∈ caller.call.requestTimestamp, ∀ row ∈ caller.progress.read,
          row.lastModifiedAt < requestTimestamp → stored.documentUuid = row.documentUuid →
            stored.lastModifiedAt < requestTimestamp

instance (clients following : Clients) : Decidable (NoOvertaking clients following) :=
  inferInstanceAs (Decidable (∀ stored ∈ following.database.documents.committed, _ → ∀ caller ∈
    clients.callers, _ → _ → ∀ requestTimestamp ∈ caller.call.requestTimestamp, ∀ row ∈
      caller.progress.read, _ → _ → stored.lastModifiedAt < requestTimestamp))

/-- Every committed change of a document increases its modification time. -/
def ChangesIncrease (clients following : Clients) : Prop :=
  ∀ old ∈ clients.database.documents.committed, ∀ new ∈ following.database.documents.committed,
    old.documentUuid = new.documentUuid → new = old ∨ old.lastModifiedAt < new.lastModifiedAt

instance (clients following : Clients) : Decidable (ChangesIncrease clients following) :=
  inferInstanceAs (Decidable (∀ old ∈ clients.database.documents.committed, ∀ new ∈
    following.database.documents.committed, _ → _))

/-- What a caller does next fits what it has done and the committed documents. -/
def Caller.Fits (caller : Caller) (committed : List MeadowlarkDocument) : Prop :=
  ∃ requestTimestamp, caller.call.requestTimestamp = some requestTimestamp ∧
    caller.rest.Follows Possible Progress.advance (Guarded requestTimestamp) (fun _ _ => True)
      caller.progress ∧
    caller.Ahead requestTimestamp committed

structure Clients.Sound (clients : Clients) : Prop where
  documents : DocumentsSound clients.database.documents
  untouched : ∀ index, (∀ caller, clients.callers[index]? = some caller →
    caller.progress.written = false) → Untouched index clients.database.documents
  fits : ∀ caller ∈ clients.callers, caller.Fits clients.database.documents.committed

variable {clients following : Clients}

omit [ColumnTypes] in
theorem Progress.advance_written (progress : Progress) {statement : Statement}
    (answer : statement.Answer) :
    (progress.advance statement answer).written =
      (progress.written || statement.writesDocuments) := by
  unfold Progress.advance
  split
  · exact (Bool.or_false _).symm
  · exact (Bool.or_false _).symm
  · rfl

omit [ColumnTypes] in
/-- What a call has read after an answer was read before or is selected by it. -/
theorem Progress.advance_read {progress : Progress} {statement : Statement}
    {answer : statement.Answer} {row : MeadowlarkDocument}
    (read : row ∈ (progress.advance statement answer).read) :
    row ∈ progress.read ∨ ∃ rows, answer = .ok rows ∧ row ∈ selectedDocuments statement rows := by
  unfold Progress.advance at read
  split at read
  · rename_i rows
    rcases List.mem_append.mp read with listed | known
    · exact .inr ⟨rows, rfl, listed⟩
    · exact .inl known
  · rename_i rows
    rcases List.mem_append.mp read with listed | known
    · exact .inr ⟨rows, rfl, listed⟩
    · exact .inl known
  · exact .inl read

omit [ColumnTypes] in
/-- The committed rows of a document that a call is ahead of stay older than the call. -/
theorem NoOvertaking.ahead (orderly : NoOvertaking clients following) {caller : Caller}
    {requestTimestamp : Int} (present : caller ∈ clients.callers)
    (stamped : caller.call.requestTimestamp = some requestTimestamp)
    (ahead : caller.Ahead requestTimestamp clients.database.documents.committed) :
    caller.Ahead requestTimestamp following.database.documents.committed := by
  intro pending unwritten row read older stored storedListed same
  by_cases before : stored ∈ clients.database.documents.committed
  · exact ahead pending unwritten row read older stored before same
  · exact orderly stored storedListed before caller present pending unwritten requestTimestamp
      stamped row read older same

theorem Clients.Sound.unwritten (sound : clients.Sound) {index : Nat} {caller : Caller}
    (present : clients.callers[index]? = some caller) (unwritten : caller.progress.written = false) :
    Untouched index clients.database.documents := by
  apply sound.untouched
  intro found foundPresent
  obtain rfl := Option.some.inj (present.symm.trans foundPresent)
  exact unwritten

/-- A call that is answered keeps its conduct. -/
theorem Clients.Sound.answered (sound : clients.Sound) {index : Nat} {caller : Caller}
    {statement : Statement}
    {next : statement.Answer → Program Statement Statement.Answer (Except SqlError RepositoryResult)}
    {answer : statement.Answer} {block : CallBlock} {database : Database}
    (present : clients.callers[index]? = some caller) (pending : caller.rest = .call statement next)
    (moved : Moved index clients.database.documents database.documents)
    (still : caller.progress.written = false → statement.writesDocuments = false →
      Still index clients.database.documents database.documents)
    (possible : Possible statement answer)
    (seen : ∀ rows, answer = .ok rows → ∀ row ∈ selectedDocuments statement rows,
      row ∈ clients.database.documents.rows index)
    (orderly : NoOvertaking clients ⟨database, clients.callers.set index
      (caller.answered block statement answer (next answer))⟩) :
    Clients.Sound ⟨database, clients.callers.set index
      (caller.answered block statement answer (next answer))⟩ := by
  have unwrittenBefore : (caller.answered block statement answer (next answer)).progress.written =
      false → caller.progress.written = false ∧ statement.writesDocuments = false := by
    intro unwritten
    change (caller.progress.advance statement answer).written = false at unwritten
    rw [Progress.advance_written] at unwritten
    exact Bool.or_eq_false_iff.mp unwritten
  refine ⟨moved.sound, ?_, ?_⟩
  · intro other unwritten
    by_cases apart : other = index
    · subst apart
      obtain ⟨before, reads⟩ := unwrittenBefore (unwritten _ (by
        rw [List.getElem?_set_self (List.getElem?_eq_some_iff.mp present).1]))
      exact (still before reads).untouched
    · apply moved.others other apart
      apply sound.untouched
      intro stored storedPresent
      apply unwritten
      rw [List.getElem?_set_ne (Ne.symm apart)]
      exact storedPresent
  · intro stored listed
    rcases List.mem_or_eq_of_mem_set listed with old | rfl
    · obtain ⟨requestTimestamp, stamped, follows, ahead⟩ := sound.fits stored old
      exact ⟨requestTimestamp, stamped, follows, orderly.ahead old stamped ahead⟩
    · have member := List.mem_of_getElem? present
      obtain ⟨requestTimestamp, stamped, follows, ahead⟩ := sound.fits caller member
      refine ⟨requestTimestamp, stamped, ?_, ?_⟩
      · rw [pending] at follows
        exact follows.2 answer possible
      · intro _ unwritten row read older other otherStored same
        obtain ⟨before, reads⟩ := unwrittenBefore unwritten
        rw [(still before reads).committed] at otherStored
        rcases Progress.advance_read read with known | ⟨rows, answered, listed⟩
        · have waiting : caller.pending = true := by
            unfold Caller.pending
            rw [pending]
          exact ahead waiting before row known older other otherStored same
        · have stored := (sound.unwritten present before).rows (seen rows answered row listed)
          rw [sound.documents.ordered.committed_unique otherStored stored same]
          exact older

theorem Clients.Sound.guarded (sound : clients.Sound) {caller : Caller}
    (present : caller ∈ clients.callers) {statement : Statement}
    {next : statement.Answer → Program Statement Statement.Answer (Except SqlError RepositoryResult)}
    (pending : caller.rest = .call statement next) :
    ∃ requestTimestamp, Guarded requestTimestamp caller.progress statement ∧
      caller.Ahead requestTimestamp clients.database.documents.committed ∧
      caller.pending = true := by
  obtain ⟨requestTimestamp, -, follows, ahead⟩ := sound.fits caller present
  rw [pending] at follows
  refine ⟨requestTimestamp, follows.1, ahead, ?_⟩
  unfold Caller.pending
  rw [pending]

/-- An update that a call is about to send meets only older rows. -/
theorem Clients.Sound.update_older (sound : clients.Sound) {caller : Caller}
    (present : caller ∈ clients.callers) {updateRequest : UpdateRequest}
    {next : (Statement.updateDocument updateRequest).Answer →
      Program Statement Statement.Answer (Except SqlError RepositoryResult)}
    (pending : caller.rest = .call (.updateDocument updateRequest) next) :
    ∀ stored ∈ clients.database.documents.committed,
      uuidColumn updateRequest.documentUuid = .ok stored.documentUuid →
        stored.lastModifiedAt < updateRequest.documentInfo.requestTimestamp := by
  obtain ⟨requestTimestamp, ⟨stamped, unwritten, row, read, converted, older⟩, ahead, waiting⟩ :=
    sound.guarded present pending
  intro stored listed named
  rw [stamped]
  apply ahead waiting unwritten row read older stored listed
  exact Except.ok.inj (named.symm.trans converted)

/-- The statement that a call sends next has one of the described effects on the documents. -/
theorem Clients.Sound.performed (sound : clients.Sound) {index : Nat} {caller : Caller}
    {statement : Statement}
    {next : statement.Answer → Program Statement Statement.Answer (Except SqlError RepositoryResult)}
    (present : clients.callers[index]? = some caller) (pending : caller.rest = .call statement next)
    {rows : statement.Rows} {database : Database}
    (performed : (clients.database.perform index statement).run = some (.ok (database, rows))) :
    Pending index clients.database.documents database.documents := by
  have member := List.mem_of_getElem? present
  obtain ⟨requestTimestamp, guarded, ahead, waiting⟩ := sound.guarded member pending
  by_cases reads : statement.writesDocuments = false
  · rw [perform_documents reads performed]
    exact Pending.refl sound.documents
  · cases statement with
    | updateDocument updateRequest =>
        exact perform_updateDocument sound.documents (sound.update_older member pending) performed
    | insertDocument updateRequest =>
        exact perform_insertDocument sound.documents (sound.unwritten present guarded) performed
    | deleteDocumentRow documentUuid => exact absurd guarded id
    | _ => exact absurd rfl reads

/-- How one answered step changes the documents and what it tells its caller. -/
structure Effect (transaction : Nat) (caller : Caller) (statement : Statement)
    (answer : statement.Answer) (before after : Versions MeadowlarkDocument) : Prop where
  moved : Moved transaction before after
  still : caller.progress.written = false → statement.writesDocuments = false →
    Still transaction before after
  possible : Possible statement answer
  seen : ∀ rows, answer = .ok rows → ∀ row ∈ selectedDocuments statement rows,
    row ∈ before.rows transaction

theorem possible_error (statement : Statement) (error : SqlError) :
    Possible statement (.error error) := by
  cases statement <;> exact trivial

theorem possible_quiet {statement : Statement} (quiet : statement.quiet = true)
    (answer : statement.Answer) :
    Possible statement answer ∧ ∀ rows, selectedDocuments statement rows = [] := by
  cases statement <;> first | (cases quiet; done) | exact ⟨trivial, fun _ => rfl⟩

/-- A step that only ends the transaction tells its caller nothing. -/
theorem effect_ended {index : Nat} {caller : Caller} {statement : Statement}
    {answer : statement.Answer} {database : Database} (sound : clients.Sound)
    (present : clients.callers[index]? = some caller)
    (silent : statement.quiet = true ∨ ∃ error, answer = .error error)
    (ended : database = clients.database ∨ database = clients.database.commit index ∨
      database = clients.database.abort index) :
    Effect index caller statement answer clients.database.documents database.documents := by
  have told : Possible statement answer ∧ ∀ rows, answer = .ok rows →
      ∀ row ∈ selectedDocuments statement rows, row ∈ clients.database.documents.rows index := by
    rcases silent with quiet | ⟨error, rfl⟩
    · obtain ⟨possible, nothing⟩ := possible_quiet quiet answer
      refine ⟨possible, fun rows _ row listed => ?_⟩
      rw [nothing rows] at listed
      exact absurd listed List.not_mem_nil
    · exact ⟨possible_error statement error, fun rows same => nomatch same⟩
  have clean := fun unwritten => sound.unwritten present unwritten
  have unchanged : Pending index clients.database.documents clients.database.documents :=
    Pending.refl sound.documents
  rcases ended with rfl | rfl | rfl
  · exact ⟨unchanged.moved, fun unwritten _ => still_refl (clean unwritten), told.1, told.2⟩
  · exact ⟨unchanged.commit, fun unwritten _ => still_commit (clean unwritten), told.1, told.2⟩
  · exact ⟨sound.documents.aborted, fun unwritten _ => still_abort (clean unwritten), told.1,
      told.2⟩

theorem effect_sent {index : Nat} {caller : Caller} {statement : Statement}
    {next : statement.Answer → Program Statement Statement.Answer (Except SqlError RepositoryResult)}
    {answer : statement.Answer} {block : CallBlock} {database : Database} (sound : clients.Sound)
    (present : clients.callers[index]? = some caller) (pending : caller.rest = .call statement next)
    (sent : clients.database.send index statement caller.block = some (answer, block, database)) :
    Effect index caller statement answer clients.database.documents database.documents := by
  rcases send_some sent with ⟨rows, middle, rfl, performed, ended⟩ | ⟨silent, ended⟩
  · obtain ⟨possible, seen⟩ := perform_selected sound.documents performed
    have opened := sound.performed present pending performed
    have told : ∀ found, (.ok rows : statement.Answer) = .ok found →
        ∀ row ∈ selectedDocuments statement found,
          row ∈ clients.database.documents.rows index := by
      rintro found same
      cases same
      exact seen
    rcases ended with rfl | rfl
    · refine ⟨opened.moved, ?_, possible, told⟩
      intro unwritten reads
      rw [perform_documents reads performed]
      exact still_refl (sound.unwritten present unwritten)
    · refine ⟨opened.commit, ?_, possible, told⟩
      intro unwritten reads
      change Still index _ (middle.documents.commit index)
      rw [perform_documents reads performed]
      exact still_commit (sound.unwritten present unwritten)
  · exact effect_ended sound present silent ended

variable [NodeRuntime]

abbrev StampedCall (call : RepositoryCall) : Prop := call.requestTimestamp.isSome = true

theorem Clients.Sound.arrive (sound : clients.Sound) {call : RepositoryCall}
    (stamped : StampedCall call) :
    Clients.Sound ⟨clients.database,
      clients.callers ++ [⟨call, .idle, [], (repositorySession call).run⟩]⟩ := by
  refine ⟨sound.documents, ?_, ?_⟩
  · intro index unwritten
    apply sound.untouched
    intro caller present
    apply unwritten
    rw [List.getElem?_append_left (List.getElem?_eq_some_iff.mp present).1]
    exact present
  · intro caller listed
    rcases List.mem_append.mp listed with old | new
    · exact sound.fits caller old
    · obtain rfl := List.mem_singleton.mp new
      obtain ⟨requestTimestamp, stamped⟩ := Option.isSome_iff_exists.mp stamped
      refine ⟨requestTimestamp, stamped, conduct_repositorySession stamped, ?_⟩
      exact fun _ _ row read => absurd read List.not_mem_nil

/-- One step keeps the documents sound and increases what it changes. -/
theorem Clients.Sound.step (sound : clients.Sound) (step : clients.Step StampedCall following) :
    ChangesIncrease clients following ∧ (NoOvertaking clients following → following.Sound) := by
  have ended : ∀ {index : Nat} {caller : Caller} {statement : Statement}
      {next : statement.Answer →
        Program Statement Statement.Answer (Except SqlError RepositoryResult)}
      {answer : statement.Answer} {block : CallBlock} {database : Database},
      clients.callers[index]? = some caller → caller.rest = .call statement next →
      Effect index caller statement answer clients.database.documents database.documents →
      ChangesIncrease clients ⟨database, clients.callers.set index
          (caller.answered block statement answer (next answer))⟩ ∧
        (NoOvertaking clients ⟨database, clients.callers.set index
            (caller.answered block statement answer (next answer))⟩ →
          Clients.Sound ⟨database, clients.callers.set index
            (caller.answered block statement answer (next answer))⟩) :=
    fun present pending effect => ⟨effect.moved.increase, sound.answered present pending
      effect.moved effect.still effect.possible effect.seen⟩
  cases step with
  | arrive stamped =>
      refine ⟨?_, fun _ => sound.arrive stamped⟩
      intro old oldStored new newStored same
      exact .inl (sound.documents.ordered.committed_unique newStored oldStored same.symm)
  | sent present pending sent => exact ended present pending (effect_sent sound present pending sent)
  | lost error present pending =>
      exact ended present pending
        (effect_ended sound present (.inr ⟨error, rfl⟩) (.inl rfl))
  | rejected error present pending =>
      exact ended present pending
        (effect_ended sound present (.inr ⟨error, rfl⟩) (.inr (.inr rfl)))

omit [NodeRuntime] in
theorem start_sound {tables : Tables} (converted : UuidsConverted tables) :
    (Clients.start tables).Sound := by
  refine ⟨⟨Ordered.ofRows tables.uniqueUuids, ?_⟩, ?_, ?_⟩
  · intro version stored
    obtain ⟨row, listed, rfl⟩ := List.mem_map.mp stored
    exact converted row listed
  · intro index _ version stored
    obtain ⟨row, -, rfl⟩ := List.mem_map.mp stored
    exact ⟨nofun, nofun⟩
  · exact fun caller listed => absurd listed List.not_mem_nil

theorem reached_sound {tables : Tables} (converted : UuidsConverted tables)
    (reached : Clients.Reached StampedCall NoOvertaking tables clients) : clients.Sound := by
  induction reached with
  | start => exact start_sound converted
  | step reached step orderly ih => exact (ih.step step).2 orderly

/-- While no call overtakes another one, every committed change increases its modification time.
An update that a call sends meets only older rows. -/
theorem reached_changesIncrease {tables : Tables} (converted : UuidsConverted tables)
    (reached : Clients.Reached StampedCall NoOvertaking tables clients)
    (step : clients.Step StampedCall following) :
    ChangesIncrease clients following ∧
      ∀ caller ∈ clients.callers, ∀ updateRequest next,
        caller.rest = .call (.updateDocument updateRequest) next →
          ∀ stored ∈ clients.database.documents.committed,
            uuidColumn updateRequest.documentUuid = .ok stored.documentUuid →
              stored.lastModifiedAt < updateRequest.documentInfo.requestTimestamp := by
  have sound := reached_sound converted reached
  exact ⟨(sound.step step).1, fun caller present updateRequest next pending =>
    sound.update_older present pending⟩

end Runs

section Examples
open Core.Sample Sample

/-- One call arrives, or the next statement of one call is answered. -/
private def perform (clients : Clients) : RepositoryCall ⊕ Nat → Option Clients
  | .inl call => some ⟨clients.database,
      clients.callers ++ [⟨call, .idle, [], (@repositorySession runtime call).run⟩]⟩
  | .inr index =>
      match clients.callers[index]? with
      | none => none
      | some caller =>
          match caller.rest with
          | .pure _ => none
          | .call statement next =>
              match @Database.send columns index statement caller.block clients.database with
              | none => none
              | some (answer, block, database) => some ⟨database, clients.callers.set index
                  (caller.answered block statement answer (next answer))⟩

private theorem perform_step {clients following : Clients} {action : RepositoryCall ⊕ Nat}
    (stamped : ∀ call, action = .inl call → StampedCall call)
    (done : perform clients action = some following) :
    @Clients.Step columns runtime StampedCall clients following := by
  unfold perform at done
  split at done
  · cases done
    exact @Clients.Step.arrive columns runtime _ _ _ (stamped _ rfl)
  · split at done
    · cases done
    · rename_i caller present
      split at done
      · cases done
      · rename_i statement next pending
        split at done
        · cases done
        · rename_i sent
          cases done
          exact @Clients.Step.sent columns runtime _ _ _ _ _ _ _ _ _ present pending sent

/-- The actions are taken one after another as long as each step is as described. -/
private def performAllOf (orderly : Clients → Clients → Bool) :
    List (RepositoryCall ⊕ Nat) → Clients → Option Clients
  | [], clients => some clients
  | action :: rest, clients =>
      match perform clients action with
      | none => none
      | some following =>
          if orderly clients following then performAllOf orderly rest following else none

private theorem performAllOf_reached {orderly : Clients → Clients → Prop}
    {check : Clients → Clients → Bool} (checks : ∀ before after, check before after → orderly before after)
    {actions : List (RepositoryCall ⊕ Nat)} {clients following : Clients}
    (stamped : ∀ call, .inl call ∈ actions → StampedCall call)
    (reached : @Clients.Reached columns runtime StampedCall orderly Tables.empty clients)
    (done : performAllOf check actions clients = some following) :
    @Clients.Reached columns runtime StampedCall orderly Tables.empty following := by
  induction actions generalizing clients with
  | nil =>
      cases done
      exact reached
  | cons action rest ih =>
      unfold performAllOf at done
      split at done
      · cases done
      · rename_i middle performed
        split at done
        · rename_i checked
          have step := perform_step (fun call same => stamped call (by simp [same])) performed
          exact ih (fun call listed => stamped call (List.mem_cons_of_mem _ listed))
            (@Clients.Reached.step columns runtime _ _ _ _ _ reached step (checks _ _ checked)) done
        · cases done

private def racedSchool (requestTimestamp : Int) : RepositoryCall ⊕ Nat :=
  .inl (.upsert (documentUuid "000000000001")
    (upsertRequest (resource "School") "schoolId" "1" [] none requestTimestamp "client"))

/-- An older call and a newer call both read the document before either of them writes it. -/
private def bothRead : List (RepositoryCall ⊕ Nat) :=
  [racedSchool 1] ++ List.replicate 7 (.inr 0) ++ [racedSchool 5, .inr 1, .inr 1, racedSchool 10] ++
    [.inr 2, .inr 2]

/-- The newer call commits first, and the older one up to its last statement. -/
private def newerFirst : List (RepositoryCall ⊕ Nat) :=
  bothRead ++ List.replicate 5 (.inr 2) ++ List.replicate 4 (.inr 1)

/-- The older call commits first, and the newer one up to its last statement. -/
private def olderFirst : List (RepositoryCall ⊕ Nat) :=
  bothRead ++ List.replicate 5 (.inr 1) ++ List.replicate 4 (.inr 2)

private theorem actions_stamped {actions : List (RepositoryCall ⊕ Nat)} (call : RepositoryCall)
    (listed : .inl call ∈ actions)
    (posted : ∀ action ∈ actions, action.isLeft = true → action ∈ [racedSchool 1, racedSchool 5,
      racedSchool 10]) : StampedCall call := by
  have known := posted _ listed rfl
  simp only [racedSchool, List.mem_cons, Sum.inl.injEq, List.not_mem_nil, or_false] at known
  rcases known with rfl | rfl | rfl <;> rfl

theorem older_call_overwrites :
    ∃ clients following, @Clients.Reached columns runtime StampedCall (fun _ _ => True) Tables.empty
        clients ∧
      @Clients.Step columns runtime StampedCall clients following ∧
      ¬ ChangesIncrease clients following := by
  have decided : ((performAllOf (fun _ _ => true) newerFirst (.start .empty)).bind fun clients =>
      (perform clients (.inr 1)).map fun following =>
        decide (ChangesIncrease clients following)) = some false := by decide +kernel
  obtain ⟨clients, performed, last⟩ := Option.bind_eq_some_iff.mp decided
  obtain ⟨following, done, decreases⟩ := Option.map_eq_some_iff.mp last
  have reached := performAllOf_reached (fun _ _ _ => trivial)
    (fun call listed => actions_stamped call listed (by simp [newerFirst, bothRead]))
    (@Clients.Reached.start columns runtime _ (fun _ _ => True) _) performed
  have step := perform_step (fun _ same => absurd same Sum.inr_ne_inl) done
  exact ⟨clients, following, reached, step, of_decide_eq_false decreases⟩

theorem reached_changesIncrease_olderFirst :
    ∃ clients following, @Clients.Reached columns runtime StampedCall NoOvertaking Tables.empty
        clients ∧
      following.database.documents.committed.map (·.lastModifiedAt) = [10] ∧
      ChangesIncrease clients following := by
  have decided : ((performAllOf (fun before after => decide (NoOvertaking before after)) olderFirst
      (.start .empty)).bind fun clients => (perform clients (.inr 2)).map fun following =>
        following.database.documents.committed.map (·.lastModifiedAt)) = some [10] := by
    decide +kernel
  obtain ⟨clients, performed, last⟩ := Option.bind_eq_some_iff.mp decided
  obtain ⟨following, done, newest⟩ := Option.map_eq_some_iff.mp last
  have reached := performAllOf_reached (fun _ _ checked => of_decide_eq_true checked)
    (fun call listed => actions_stamped call listed (by simp [olderFirst, bothRead]))
    (@Clients.Reached.start columns runtime _ NoOvertaking _) performed
  have step := perform_step (fun _ same => absurd same Sum.inr_ne_inl) done
  have converted : @UuidsConverted columns Tables.empty :=
    fun document stored => absurd stored List.not_mem_nil
  exact ⟨clients, following, reached, newest,
    (@reached_changesIncrease columns _ _ runtime _ converted reached step).1⟩

end Examples
end Meadowlark.Postgres
