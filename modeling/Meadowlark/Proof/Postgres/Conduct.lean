import Meadowlark.Construction.Postgres.Backend
import Meadowlark.Systems.Conduct

namespace Meadowlark.Postgres
open Meadowlark.Core Systems

section Conduct
variable {A : Type}

def RepositoryCall.requestTimestamp : RepositoryCall → Option Int
  | .upsert _ upsertRequest => some upsertRequest.documentInfo.requestTimestamp
  | .update updateRequest => some updateRequest.documentInfo.requestTimestamp
  | .delete _ => none

/-- The statements that change the documents table. -/
def Statement.writesDocuments : Statement → Bool
  | .updateDocument _ => true
  | .insertDocument _ => true
  | .deleteDocumentRow _ => true
  | _ => false

/-- The statements that neither select whole documents nor change them. -/
def Statement.quiet : Statement → Bool
  | .findDocumentByMeadowlarkId _ => false
  | .findDocumentByDocumentUuid _ => false
  | statement => !statement.writesDocuments

/-- The documents that a call has read, and whether it has written one. -/
structure Progress where
  read : List MeadowlarkDocument
  written : Bool

def Progress.advance (progress : Progress) (statement : Statement) (answer : statement.Answer) :
    Progress :=
  match statement, answer with
  | .findDocumentByMeadowlarkId _, .ok rows => { progress with read := rows ++ progress.read }
  | .findDocumentByDocumentUuid _, .ok rows => { progress with read := rows ++ progress.read }
  | statement, _ => { progress with written := progress.written || statement.writesDocuments }

abbrev QuietSession (session : Session A) : Prop :=
  Program.Confined (fun statement => statement.quiet = true) (fun _ => True) session

theorem quiet_pure (value : A) : QuietSession (pure value : Session A) :=
  Program.confined_pure trivial

theorem quiet_query {statement : Statement} {f : statement.Rows → Session A}
    (quiet : statement.quiet = true) (rest : ∀ rows, QuietSession (f rows)) :
    QuietSession (query statement >>= f) := by
  have asked : QuietSession (query statement) := by
    refine ⟨quiet, ?_⟩
    intro answer
    cases answer with
    | ok rows => exact trivial
    | error error => exact trivial
  exact Program.Confined.bind asked fun rows _ => rest rows

theorem quiet_forM {B : Type} {f : B → Session Unit} (quiet : ∀ value, QuietSession (f value))
    (values : List B) : QuietSession (values.forM f) := by
  induction values with
  | nil => exact quiet_pure ()
  | cons value rest ih => exact Program.Confined.bind (quiet value) fun _ _ => ih

theorem quiet_findReferringDocumentInfo (ids : List MeadowlarkId) :
    QuietSession (findReferringDocumentInfoForErrorReporting ids) :=
  quiet_query rfl fun _ => quiet_pure _

theorem quiet_rolledBack (value : A) :
    QuietSession (rollbackTransaction >>= fun _ => pure value) :=
  quiet_query rfl fun _ => quiet_pure value

variable [NodeRuntime]

theorem quiet_validateReferenceList (references : List DocumentReference) :
    QuietSession (validateReferenceList references) := by
  have found : QuietSession (findReferencedMeadowlarkIdsByMeadowlarkId
      (references.map getMeadowlarkIdForDocumentReference)) := by
    unfold findReferencedMeadowlarkIdsByMeadowlarkId
    split
    · exact quiet_pure []
    · have asked := @quiet_query (List MeadowlarkId) _ pure (rfl :
        (Statement.validateReferenceExistence
          (references.map getMeadowlarkIdForDocumentReference)).quiet = true) fun _ => quiet_pure _
      rw [bind_pure] at asked
      exact asked
  exact Program.Confined.bind found fun _ _ => quiet_pure _

theorem quiet_validateReferences (documentReferences descriptorReferences : List DocumentReference) :
    QuietSession (validateReferences documentReferences descriptorReferences) := by
  apply Program.Confined.bind (quiet_validateReferenceList _)
  intro failures _
  apply Program.Confined.bind (quiet_validateReferenceList _)
  exact fun _ _ => quiet_pure _

theorem quiet_checkSuperclassIdentity (upsertRequest : UpsertRequest) (isInsert : Bool) :
    QuietSession (checkSuperclassIdentity upsertRequest isInsert) := by
  unfold checkSuperclassIdentity
  split
  · apply quiet_query rfl
    intro inUse
    split
    · exact quiet_pure _
    · apply Program.Confined.bind (quiet_findReferringDocumentInfo _)
      exact fun _ _ => quiet_rolledBack _
  · exact quiet_pure _

theorem quiet_checkUpsertReferences (upsertRequest : UpsertRequest) (isInsert : Bool) :
    QuietSession (checkUpsertReferences upsertRequest isInsert) := by
  unfold checkUpsertReferences
  split
  · apply Program.Confined.bind (quiet_validateReferences _ _)
    intro failures _
    split
    · exact quiet_pure _
    · apply Program.Confined.bind (quiet_findReferringDocumentInfo _)
      exact fun _ _ => quiet_rolledBack _
  · exact quiet_pure _

theorem quiet_checkUpdateReferences (updateRequest : UpdateRequest) (existing : MeadowlarkId) :
    QuietSession (checkUpdateReferences updateRequest existing) := by
  unfold checkUpdateReferences
  split
  · apply Program.Confined.bind (quiet_validateReferences _ _)
    intro failures _
    split
    · exact quiet_pure _
    · apply Program.Confined.bind (quiet_findReferringDocumentInfo _)
      exact fun _ _ => quiet_rolledBack _
  · exact quiet_pure _

theorem quiet_rewrite (existing : MeadowlarkId) (documentUuid : DocumentUuid) (id : MeadowlarkId)
    (documentInfo : DocumentInfo) :
    QuietSession (rewriteAliasesAndReferences existing documentUuid id documentInfo) := by
  have deleted : QuietSession (deleteAliasesForDocumentByMeadowlarkId existing) :=
    quiet_query rfl fun _ => quiet_pure _
  have unreferenced : QuietSession (deleteOutboundReferencesOfDocumentByMeadowlarkId existing) :=
    quiet_query rfl fun _ => quiet_pure _
  have named : ∀ aliasId, QuietSession (do let _ ← insertAlias documentUuid id aliasId) :=
    fun aliasId => Program.Confined.bind (quiet_query rfl fun _ => quiet_pure _) fun _ _ =>
      quiet_pure ()
  have referred : ∀ ref, QuietSession (do let _ ← insertOutboundReferences id ref) :=
    fun ref => Program.Confined.bind (quiet_query rfl fun _ => quiet_pure _) fun _ _ =>
      quiet_pure ()
  apply Program.Confined.bind deleted
  intro _ _
  apply Program.Confined.bind (quiet_forM named _)
  intro _ _
  apply Program.Confined.bind unreferenced
  intro _ _
  exact quiet_forM referred _

end Conduct

section Guarded
variable [ColumnTypes] {A B : Type} {requestTimestamp : Int} {progress : Progress}

/-- The rows that a select of whole documents can answer with. -/
def Possible : (statement : Statement) → statement.Answer → Prop
  | .findDocumentByMeadowlarkId _, .ok rows =>
      ∀ row ∈ rows, uuidColumn row.documentUuid = .ok row.documentUuid
  | .findDocumentByDocumentUuid documentUuid, .ok rows =>
      ∀ row ∈ rows, uuidColumn documentUuid = .ok row.documentUuid
  | _, _ => True

/-- A call writes one document at most.
It updates only a document that it has read in an older form than its own. -/
def Guarded (requestTimestamp : Int) (progress : Progress) : Statement → Prop
  | .updateDocument updateRequest =>
      updateRequest.documentInfo.requestTimestamp = requestTimestamp ∧ progress.written = false ∧
        ∃ row ∈ progress.read, uuidColumn updateRequest.documentUuid = .ok row.documentUuid ∧
          row.lastModifiedAt < requestTimestamp
  | .insertDocument _ => progress.written = false
  | .deleteDocumentRow _ => False
  | _ => True

abbrev Conduct (requestTimestamp : Int) (session : Session A) (progress : Progress) : Prop :=
  session.run.Follows Possible Progress.advance (Guarded requestTimestamp) (fun _ _ => True)
    progress

theorem conduct_query {statement : Statement} {f : statement.Rows → Session A}
    (guarded : Guarded requestTimestamp progress statement)
    (rest : ∀ rows, Possible statement (.ok rows) →
      Conduct requestTimestamp (f rows) (progress.advance statement (.ok rows))) :
    Conduct requestTimestamp (query statement >>= f) progress := by
  apply Program.follows_bind
  refine ⟨guarded, ?_⟩
  intro answer possible
  cases answer with
  | ok rows => exact rest rows possible
  | error error => exact trivial

theorem guarded_quiet {statement : Statement} (quiet : statement.quiet = true)
    (progress : Progress) : Guarded requestTimestamp progress statement := by
  cases statement <;> first | exact trivial | cases quiet

omit [ColumnTypes] in
theorem advance_quiet {statement : Statement} (quiet : statement.quiet = true)
    (progress : Progress) (answer : statement.Answer) :
    progress.advance statement answer = progress := by
  cases statement <;>
    first | (cases quiet; done) | simp [Progress.advance, Statement.writesDocuments]

theorem QuietSession.conduct {session : Session A} (quiet : QuietSession session) :
    Conduct requestTimestamp session progress := by
  apply Program.Within.follows quiet
  · exact fun statement progress silent => guarded_quiet silent progress
  · exact fun statement progress answer silent => advance_quiet silent progress answer
  · exact fun _ _ => trivial

theorem conduct_quiet {session : Session B} {f : B → Session A} (quiet : QuietSession session)
    (rest : ∀ value, Conduct requestTimestamp (f value) progress) :
    Conduct requestTimestamp (session >>= f) progress := by
  apply Program.follows_bind
  apply Program.Within.follows quiet
  · exact fun statement progress silent => guarded_quiet silent progress
  · exact fun statement progress answer silent => advance_quiet silent progress answer
  · intro outcome _
    cases outcome with
    | ok value => exact rest value
    | error error => exact trivial

/-- The handler of an error only rolls back. -/
theorem conduct_caught {session : Session A} {handle : SqlError → A}
    (body : Conduct requestTimestamp session progress) :
    Conduct requestTimestamp (tryCatch session fun error => do
      rollbackTransaction
      pure (handle error)) progress := by
  apply Program.follows_tryCatch
  apply body.mono
  intro outcome last _
  cases outcome with
  | ok value => exact trivial
  | error error => exact (quiet_rolledBack (handle error)).conduct

variable [NodeRuntime]

omit [ColumnTypes] in
/-- The aliases and references of a written document follow it, and the commit comes last. -/
theorem quiet_settled (existing : MeadowlarkId) (documentUuid : DocumentUuid) (id : MeadowlarkId)
    (documentInfo : DocumentInfo) (result : A) :
    QuietSession (do
      rewriteAliasesAndReferences existing documentUuid id documentInfo
      commitTransaction
      pure result) := by
  apply Program.Confined.bind (quiet_rewrite _ _ _ _)
  intro _ _
  exact quiet_query rfl fun _ => quiet_pure _

theorem conduct_upsertDocument (generated : DocumentUuid) (upsertRequest : UpsertRequest) :
    Conduct upsertRequest.documentInfo.requestTimestamp (upsertDocument generated upsertRequest)
      ⟨[], false⟩ := by
  apply conduct_caught
  unfold tryUpsert beginTransaction findDocumentByMeadowlarkId
  apply conduct_query
  · exact trivial
  intro _ _
  rw [bind_assoc]
  apply conduct_query
  · exact trivial
  intro rows canonical
  rw [pure_bind]
  simp only
  split
  · exact (quiet_pure _).conduct
  · rename_i current
    apply conduct_quiet (quiet_checkSuperclassIdentity _ _)
    intro failure
    cases failure with
    | some failure => exact (quiet_pure _).conduct
    | none =>
        apply conduct_quiet (quiet_checkUpsertReferences _ _)
        intro failure
        cases failure with
        | some failure => exact (quiet_pure _).conduct
        | none =>
            cases rows with
            | nil =>
                simp only [List.head?_nil, Option.isNone_none, writeUpsert, writeDocument,
                  insertDocument, if_true, bind_assoc, pure_bind]
                apply conduct_query
                · exact rfl
                exact fun _ _ => (quiet_settled _ _ _ _ _).conduct
            | cons existing others =>
                simp only [List.head?_cons, Option.isNone_some, writeUpsert, writeDocument,
                  updateDocument, Bool.false_eq_true, if_false, bind_assoc, pure_bind]
                apply conduct_query
                · refine ⟨rfl, rfl, existing, by simp [Progress.advance], ?_, ?_⟩
                  · exact canonical existing List.mem_cons_self
                  · simpa using current
                exact fun _ _ => (quiet_settled _ _ _ _ _).conduct

theorem conduct_updateDocument (updateRequest : UpdateRequest) :
    Conduct updateRequest.documentInfo.requestTimestamp (updateDocumentByDocumentUuid updateRequest)
      ⟨[], false⟩ := by
  apply conduct_caught
  unfold tryUpdate beginTransaction findDocumentByDocumentUuid
  apply conduct_query
  · exact trivial
  intro _ _
  rw [bind_assoc]
  apply conduct_query
  · exact trivial
  intro rows same
  rw [pure_bind]
  cases found : rows.head? with
  | none => exact (quiet_pure _).conduct
  | some existing =>
      simp only
      split
      · exact (quiet_pure _).conduct
      · rename_i current
        split
        · exact (quiet_pure _).conduct
        · apply conduct_quiet (quiet_checkUpdateReferences _ _)
          intro failure
          cases failure with
          | some failure => exact (quiet_pure _).conduct
          | none =>
              have stored : existing ∈ rows := List.mem_of_mem_head? found
              simp only [writeUpdate, updateDocument, bind_assoc, pure_bind]
              apply conduct_query
              · exact ⟨rfl, rfl, existing, List.mem_append_left _ stored, same existing stored,
                  not_le.mp current⟩
              exact fun _ _ => (quiet_settled _ _ _ _ _).conduct

omit [NodeRuntime] in
theorem conduct_map {wrap : A → B} {session : Session A}
    (conduct : Conduct requestTimestamp session progress) :
    Conduct requestTimestamp (wrap <$> session) progress := by
  rw [map_eq_pure_bind]
  apply Program.follows_bind
  apply conduct.mono
  intro outcome last _
  cases outcome with
  | ok value => exact trivial
  | error error => exact trivial

theorem conduct_repositorySession {call : RepositoryCall}
    (stamped : call.requestTimestamp = some requestTimestamp) :
    Conduct requestTimestamp (repositorySession call) ⟨[], false⟩ := by
  cases call with
  | upsert generated upsertRequest =>
      cases stamped
      exact conduct_map (conduct_upsertDocument generated upsertRequest)
  | update updateRequest =>
      cases stamped
      exact conduct_map (conduct_updateDocument updateRequest)
  | delete deleteRequest => cases stamped

end Guarded

end Meadowlark.Postgres
