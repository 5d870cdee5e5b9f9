import Meadowlark.Construction.Postgres.Pool
import Meadowlark.Proof.Postgres.Effects

namespace Meadowlark.Postgres
open Meadowlark.Core Systems
variable [ColumnTypes] {A B : Type} {committed view : Tables}

section Direct

/-- The statements that neither open nor end a transaction block. -/
def Statement.plain : Statement → Bool
  | .begin => false
  | .commit => false
  | .rollback => false
  | _ => true

/-- The statements that only select rows. -/
def Statement.reads : Statement → Bool
  | .findReferencingMeadowlarkIds _ => true
  | .findAliasMeadowlarkIdsForDocumentByDocumentUuid _ => true
  | .findAliasMeadowlarkId _ => true
  | .findDocumentByMeadowlarkId _ => true
  | .findDocumentByDocumentUuid _ => true
  | .validateReferenceExistence _ => true
  | .findReferringDocumentInfo _ => true
  | .getAuthorizationClientDocumentList => true
  | .getAuthorizationClientDocumentById _ => true
  | .checkBootstrapAdminExists => true
  | _ => false

omit [ColumnTypes] in
theorem Statement.reads_plain {statement : Statement} (reads : statement.reads = true) :
    statement.plain = true := by
  cases statement <;> first | rfl | cases reads

/-- A statement that only selects rows leaves the tables. -/
theorem execute_reads {statement : Statement} (reads : statement.reads = true)
    {tables following : Tables} {rows : statement.Rows}
    (executed : execute statement tables = .ok (following, rows)) : following = tables := by
  cases statement with
  | findAliasMeadowlarkIdsForDocumentByDocumentUuid documentUuid =>
      simp only [execute] at executed
      cases converted : uuidColumn documentUuid with
      | ok converted =>
          simp_all [bind, Except.bind, pure, Except.pure]
      | error error => simp_all [bind, Except.bind]
  | findDocumentByDocumentUuid documentUuid =>
      simp only [execute] at executed
      cases converted : uuidColumn documentUuid with
      | ok converted =>
          simp_all [bind, Except.bind, pure, Except.pure]
      | error error => simp_all [bind, Except.bind]
  | _ =>
      first
      | exact (Prod.mk.inj (Except.ok.inj executed)).1.symm
      | cases reads

/-- A statement that is applied to the tables at once. -/
def performDirectly (statement : Statement) (tables : Tables) : statement.Answer × Tables :=
  match execute statement tables with
  | .ok (following, rows) => (.ok rows, following)
  | .error error => (.error error, tables)

/-- The writes of a session, as if there were no transactions. -/
def Tables.direct (tables : Tables) (session : Session A) : Except SqlError A × Tables :=
  Program.runState performDirectly session tables

theorem direct_bind_ok {session : Session A} {f : A → Session B} {tables following : Tables}
    {value : A} (done : tables.direct session = (.ok value, following)) :
    tables.direct (session >>= f) = following.direct (f value) :=
  Program.runState_bind_ok done

theorem send_plain {statement : Statement} (plain : statement.plain = true) :
    (working committed view).send statement =
      match execute statement view with
      | .ok (following, rows) => (.ok rows, working committed following)
      | .error error => (.error error, ⟨committed, .failed⟩) := by
  cases statement <;> first | rfl | cases plain

theorem send_plain_idle {statement : Statement} (plain : statement.plain = true) :
    (⟨committed, .idle⟩ : Connection).send statement =
      match execute statement committed with
      | .ok (following, rows) => (.ok rows, ⟨following, .idle⟩)
      | .error error => (.error error, ⟨committed, .idle⟩) := by
  cases statement <;> first | rfl | cases plain

/-- The session sends no transaction command and stops at the first error. -/
abbrev Plain (session : Session A) : Prop :=
  Program.Straight (fun statement => statement.plain = true) session.run

omit [ColumnTypes] in
theorem plain_query {statement : Statement} (plain : statement.plain = true) :
    Plain (query statement) := Program.straight_request plain

omit [ColumnTypes] in
theorem plain_pure (value : A) : Plain (pure value : Session A) := Program.straight_pure value

omit [ColumnTypes] in
theorem Plain.bind {session : Session A} {f : A → Session B} (first : Plain session)
    (second : ∀ value, Plain (f value)) : Plain (session >>= f) :=
  Program.Straight.bind first second

omit [ColumnTypes] in
theorem plain_forM {f : A → Session Unit} (plain : ∀ value, Plain (f value)) (values : List A) :
    Plain (values.forM f) := by
  induction values with
  | nil => exact plain_pure ()
  | cons value rest ih => exact (plain value).bind fun _ => ih

theorem performDirectly_ok {statement : Statement} {tables following : Tables}
    {rows : statement.Rows} (executed : execute statement tables = .ok (following, rows)) :
    performDirectly statement tables = (.ok rows, following) := by
  unfold performDirectly
  rw [executed]

/-- Inside a block a plain session that does not throw has its direct effect on the view. -/
theorem run_plain {session : Session A} (plain : Plain session) {value : A} {following : Tables}
    (done : view.direct session = (.ok value, following)) :
    (working committed view).run session = (.ok value, working committed following) := by
  have straight : ∀ (steps : Program Statement Statement.Answer (Except SqlError A)) (view : Tables),
      @Program.Straight _ _ _ Statement.Rows (fun statement => statement.plain = true) steps →
      Program.interpret (M := StateM Tables) performDirectly steps view = (.ok value, following) →
      Program.interpret (M := StateM Connection) Connection.handler steps (working committed view) =
        (.ok value, working committed following) := by
    intro steps
    induction steps with
    | pure outcome =>
        intro view plain done
        cases done
        rfl
    | call statement next ih =>
        rintro view ⟨permitted, stops, continues⟩ done
        change Program.interpret (M := StateM Tables) performDirectly
          (next (performDirectly statement view).1) (performDirectly statement view).2 = _ at done
        change Program.interpret (M := StateM Connection) Connection.handler
          (next ((working committed view).send statement).1)
            ((working committed view).send statement).2 = _
        rw [send_plain permitted]
        cases executed : execute statement view with
        | ok written =>
            rw [performDirectly_ok executed] at done
            exact ih (.ok written.2) written.1 (continues written.2) done
        | error error =>
            unfold performDirectly at done
            rw [executed] at done
            simp only [stops error] at done
            cases done
  exact straight session.run view plain done

end Direct

section Bodies

/-- The postcondition holds however the statements of the session are answered. -/
abbrev Always (post : Except SqlError A → Connection → Prop) (session : Session A)
    (connection : Connection) : Prop :=
  Program.Every (fun statement connection => connection.Answers statement) post session.run connection

/-- A plain session inside a block has its direct effect on the view or throws. -/
theorem always_plain {post : Except SqlError A → Connection → Prop} {session : Session A}
    (plain : Plain session)
    (done : ∀ value following, view.direct session = (.ok value, following) →
      post (.ok value) (working committed following))
    (thrown : ∀ error block, post (.error error) ⟨committed, block⟩) :
    Always post session (working committed view) := by
  have straight : ∀ (steps : Program Statement Statement.Answer (Except SqlError A)) (view : Tables),
      @Program.Straight _ _ _ Statement.Rows (fun statement => statement.plain = true) steps →
      (∀ value following, Program.interpret (M := StateM Tables) performDirectly steps view =
        (.ok value, following) → post (.ok value) (working committed following)) →
      steps.Every (fun statement connection => connection.Answers statement) post
        (working committed view) := by
    intro steps
    induction steps with
    | pure outcome =>
        intro view plain done
        cases outcome with
        | ok value => exact done value view rfl
        | error error => exact thrown error _
    | call statement next ih =>
        rintro view ⟨permitted, stops, continues⟩ done answer middle answered
        cases answered with
        | sent =>
            rw [send_plain permitted]
            cases executed : execute statement view with
            | ok written =>
                obtain ⟨following, rows⟩ := written
                apply ih (.ok rows) following (continues rows)
                intro value last run
                apply done value last
                change Program.interpret (M := StateM Tables) performDirectly
                  (next (performDirectly statement view).1) (performDirectly statement view).2 = _
                rw [performDirectly_ok executed]
                exact run
            | error error =>
                simp only
                rw [stops error]
                exact thrown error _
        | lost error inside =>
            rw [stops error]
            exact thrown error _
        | rejected error inside =>
            rw [stops error]
            exact thrown error _
  exact straight session.run view plain done

variable {succeeded : A → Bool} {session : Session A}

/-- A body inside its own block ends the block, or it throws before anything is committed.
A success has committed its direct effect, and a failure has committed nothing. -/
def Coupled (succeeded : A → Bool) (committed : Tables) (session : Session A) (view : Tables) :
    Prop :=
  Always (fun outcome connection =>
    match outcome with
    | .ok result => connection.block = .idle ∧ connection.committed =
        if succeeded result then (view.direct session).2 else committed
    | .error _ => connection.committed = committed) session (working committed view)

theorem coupled_bind {program : Session B} {f : B → Session A} (plain : Plain program)
    (rest : ∀ value following, view.direct program = (.ok value, following) →
      Coupled succeeded committed (f value) following) :
    Coupled succeeded committed (program >>= f) view := by
  apply Program.every_bind
  apply always_plain plain
  · intro value following done
    have inside := rest value following done
    unfold Coupled at inside
    rw [← direct_bind_ok done] at inside
    exact inside
  · exact fun error block => rfl

/-- The rest of the body starts with what one run of the plain session answers. -/
theorem coupled_step {program : Session B} {f : B → Session A} {value : B} {following : Tables}
    (plain : Plain program)
    (ran : (working committed view).run program = (.ok value, working committed following))
    (rest : Coupled succeeded committed (f value) following) :
    Coupled succeeded committed (program >>= f) view := by
  apply coupled_bind plain
  intro answer last done
  have same := (@run_plain _ _ committed _ _ plain _ _ done).symm.trans ran
  simp only [Prod.mk.injEq, Except.ok.injEq, Connection.mk.injEq, TransactionBlock.active.injEq,
    true_and] at same
  obtain ⟨rfl, rfl⟩ := same
  exact rest

theorem coupled_thrown {program : Session B} {f : B → Session A} {error : SqlError}
    {connection : Connection} (plain : Plain program)
    (ran : (working committed view).run program = (.error error, connection)) :
    Coupled succeeded committed (program >>= f) view := by
  apply coupled_bind plain
  intro value following done
  have same := (@run_plain _ _ committed _ _ plain _ _ done).symm.trans ran
  cases same

/-- A check inside a block passes without an effect, or it rolls the block back. -/
def Checks (succeeded : A → Bool) (passes : Prop) (committed : Tables)
    (check : Session (Option A)) (view : Tables) : Prop :=
  Always (fun outcome connection =>
    match outcome with
    | .ok none => passes ∧ connection = working committed view ∧
        view.direct check = (.ok none, view)
    | .ok (some failure) => connection = ⟨committed, .idle⟩ ∧ succeeded failure = false
    | .error _ => connection.committed = committed) check (working committed view)

theorem checks_pass {passes : Prop} (holds : passes) :
    Checks succeeded passes committed (pure none) view := ⟨holds, rfl, rfl⟩

theorem checks_refuse {passes : Prop} {failure : A} (fails : succeeded failure = false) :
    Checks succeeded passes committed (rollbackTransaction >>= fun _ => pure (some failure)) view := by
  intro answer middle answered
  cases answered with
  | sent => exact ⟨rfl, fails⟩
  | lost error inside => cases inside
  | rejected error inside => cases inside

theorem checks_read {passes : Prop} {program : Session B} {f : B → Session (Option A)} {value : B}
    (plain : Plain program)
    (ran : (working committed view).run program = (.ok value, working committed view))
    (rest : Checks succeeded passes committed (f value) view) :
    Checks succeeded passes committed (program >>= f) view := by
  apply Program.every_bind
  apply always_plain plain
  · intro answer following done
    have same := (@run_plain _ _ committed _ _ plain _ _ done).symm.trans ran
    simp only [Prod.mk.injEq, Except.ok.injEq, Connection.mk.injEq, TransactionBlock.active.injEq]
      at same
    obtain ⟨rfl, -, rfl⟩ := same
    unfold Checks at rest
    rw [← direct_bind_ok done] at rest
    exact rest
  · exact fun error block => rfl

theorem coupled_check {passes : Prop} {check : Session (Option A)} {f : Option A → Session A}
    (checks : Checks succeeded passes committed check view)
    (stops : ∀ failure, f (some failure) = pure failure)
    (rest : passes → Coupled succeeded committed (f none) view) :
    Coupled succeeded committed (check >>= f) view := by
  apply Program.every_bind
  apply Program.Every.mono checks
  intro outcome connection checked
  cases outcome with
  | error error => exact checked
  | ok failure =>
      cases failure with
      | none =>
          obtain ⟨holds, rfl, passed⟩ := checked
          have inside := rest holds
          unfold Coupled at inside
          rw [← direct_bind_ok passed] at inside
          exact inside
      | some failure =>
          obtain ⟨rfl, fails⟩ := checked
          simp only
          rw [stops]
          exact ⟨rfl, by rw [fails]; rfl⟩

theorem coupled_committed {result : A} (settles : succeeded result = true ∨ view = committed) :
    Coupled succeeded committed (commitTransaction >>= fun _ => pure result) view := by
  intro answer middle answered
  cases answered with
  | sent =>
      refine ⟨rfl, ?_⟩
      rcases settles with success | same
      · rw [if_pos success]
        rfl
      · subst same
        split
        · rfl
        · rfl
  | lost error inside => cases inside
  | rejected error inside => cases inside

/-- A call ends outside any block.
A success has committed exactly its direct effect, and anything else has committed nothing. -/
structure Closed (succeeded : A → Bool) (before : Tables) (session : Session A)
    (outcome : Except SqlError A) (connection : Connection) : Prop where
  block : connection.block = .idle
  settled : ∃ result, outcome = .ok result ∧
    connection.committed = if succeeded result then (before.direct session).2 else before

/-- The effect of a caught session is the effect of its body. -/
theorem direct_caught (tables : Tables) (body : Session A) {handle : SqlError → Session A}
    (silent : ∀ error following, ((following : Tables).direct (handle error)).2 = following) :
    (tables.direct (tryCatch body handle)).2 = (tables.direct body).2 := by
  unfold Tables.direct
  rw [Program.runState_tryCatch]
  cases Program.runState performDirectly body tables with
  | mk outcome following =>
      cases outcome with
      | ok value => rfl
      | error error => exact silent error following

/-- A body that ends its block closes the call that opens the block and catches errors. -/
theorem closes_caught {body : Session A} {handle : SqlError → A}
    (coupled : Coupled succeeded committed body committed)
    (fails : ∀ error, succeeded (handle error) = false) :
    Always (Closed succeeded committed (tryCatch (beginTransaction >>= fun _ => body) fun error => do
        rollbackTransaction
        pure (handle error)))
      (tryCatch (beginTransaction >>= fun _ => body) fun error => do
        rollbackTransaction
        pure (handle error)) ⟨committed, .idle⟩ := by
  have effect : (committed.direct (tryCatch (beginTransaction >>= fun _ => body) fun error => do
      rollbackTransaction
      pure (handle error))).2 = (committed.direct body).2 :=
    direct_caught committed (beginTransaction >>= fun _ => body) fun _ _ => rfl
  have caught : ∀ error block, Always (Closed succeeded committed
      (tryCatch (beginTransaction >>= fun _ => body) fun error => do
        rollbackTransaction
        pure (handle error))) (do rollbackTransaction; pure (handle error)) ⟨committed, block⟩ := by
    intro error block answer middle answered
    cases answered with
    | sent =>
        refine ⟨rfl, handle error, rfl, ?_⟩
        rw [fails]
        rfl
    | lost error inside => cases inside
    | rejected error inside => cases inside
  apply Program.every_tryCatch
  apply Program.every_bind
  intro answer middle answered
  cases answered with
  | sent =>
      apply Program.Every.mono coupled
      intro outcome last ended
      cases outcome with
      | ok result =>
          refine ⟨ended.1, result, rfl, ?_⟩
          rw [effect]
          exact ended.2
      | error error =>
          obtain ⟨committedLast, block⟩ := last
          obtain rfl : committedLast = committed := ended
          exact caught error block
  | lost error inside => exact caught error _
  | rejected error inside => exact caught error _

end Bodies

section Single
variable {succeeded : A → Bool} {before : Tables} {session : Session A}

/-- A body outside any block stays outside, and only its success changes the tables. -/
def Settles (succeeded : A → Bool) (before : Tables) (session : Session A) : Prop :=
  Always (fun outcome connection =>
    match outcome with
    | .ok result => connection.block = .idle ∧ connection.committed =
        if succeeded result then (before.direct session).2 else before
    | .error _ => connection = ⟨before, .idle⟩) session ⟨before, .idle⟩

theorem settles_pure {result : A} : Settles succeeded before (pure result) := by
  refine ⟨rfl, ?_⟩
  split
  · rfl
  · rfl

/-- A statement that reads is followed by the rest of the body. -/
theorem settles_read {statement : Statement} {f : statement.Rows → Session A}
    (reads : statement.reads = true) (rest : ∀ rows, Settles succeeded before (f rows)) :
    Settles succeeded before (query statement >>= f) := by
  apply Program.every_bind
  intro answer middle answered
  cases answered with
  | sent =>
      rw [send_plain_idle (Statement.reads_plain reads)]
      cases executed : execute statement before with
      | ok written =>
          obtain ⟨following, rows⟩ := written
          obtain rfl := execute_reads reads executed
          have settles := rest rows
          have done : following.direct (query statement) = (.ok rows, following) :=
            performDirectly_ok executed
          unfold Settles at settles
          rw [← direct_bind_ok done] at settles
          exact settles
      | error error => rfl
  | lost error inside => rfl
  | rejected error inside => rfl

/-- The last statement of a body is applied to the committed tables at once. -/
theorem settles_write {statement : Statement} {f : statement.Rows → A}
    (plain : statement.plain = true)
    (kept : ∀ rows following, execute statement before = .ok (following, rows) →
      succeeded (f rows) = false → following = before) :
    Settles succeeded before (query statement >>= fun rows => pure (f rows)) := by
  apply Program.every_bind
  intro answer middle answered
  cases answered with
  | sent =>
      rw [send_plain_idle plain]
      cases executed : execute statement before with
      | ok written =>
          obtain ⟨following, rows⟩ := written
          have done : before.direct (query statement) = (.ok rows, following) :=
            performDirectly_ok executed
          refine ⟨rfl, ?_⟩
          cases success : succeeded (f rows) with
          | true =>
              rw [if_pos rfl, direct_bind_ok done]
              rfl
          | false =>
              rw [if_neg (by simp)]
              exact kept rows following executed success
      | error error => rfl
  | lost error inside => rfl
  | rejected error inside => rfl

/-- A body outside any block closes the call that catches its errors. -/
theorem closes_settled {failure : A} (settles : Settles succeeded before session)
    (fails : succeeded failure = false) :
    Always (Closed succeeded before (tryCatch session fun _ => pure failure))
      (tryCatch session fun _ => pure failure) ⟨before, .idle⟩ := by
  have effect : (before.direct (tryCatch session fun _ => pure failure)).2 =
      (before.direct session).2 := direct_caught before session fun _ _ => rfl
  apply Program.every_tryCatch
  apply Program.Every.mono settles
  intro outcome connection settled
  cases outcome with
  | ok result =>
      refine ⟨settled.1, result, rfl, ?_⟩
      rw [effect]
      exact settled.2
  | error error =>
      obtain rfl : connection = ⟨before, .idle⟩ := settled
      refine ⟨rfl, failure, rfl, ?_⟩
      rw [fails]
      rfl

theorem closes_pure {result : A} (fails : succeeded result = false) :
    Always (Closed succeeded before (pure result)) (pure result) ⟨before, .idle⟩ := by
  refine ⟨rfl, result, rfl, ?_⟩
  rw [fails]
  rfl

theorem closes_map {wrap : A → B} {wrapped : B → Bool} (same : ∀ result, wrapped (wrap result) = succeeded result)
    (closes : Always (Closed succeeded before session) session ⟨before, .idle⟩) :
    Always (Closed wrapped before (wrap <$> session)) (wrap <$> session) ⟨before, .idle⟩ := by
  have effect : (before.direct (wrap <$> session)).2 = (before.direct session).2 := by
    rw [map_eq_pure_bind]
    unfold Tables.direct
    rw [Program.runState_bind]
    cases Program.runState performDirectly session before with
    | mk outcome following =>
        cases outcome with
        | ok value => rfl
        | error error => rfl
  revert effect
  rw [map_eq_pure_bind]
  intro effect
  apply Program.every_bind
  apply Program.Every.mono closes
  rintro outcome connection ⟨idle, result, rfl, settled⟩
  refine ⟨idle, wrap result, rfl, ?_⟩
  rw [same, effect]
  exact settled

end Single
end Meadowlark.Postgres
