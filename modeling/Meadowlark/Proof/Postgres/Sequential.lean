import Meadowlark.Construction.Postgres.Write

namespace Meadowlark.Postgres
open Meadowlark.Core Systems
variable [ColumnTypes]

section Run
variable {A B : Type} {connection following : Connection}

@[simp] theorem run_pure (value : A) :
    connection.run (pure value : Session A) = (.ok value, connection) := rfl

@[simp] theorem run_query (statement : Statement) :
    connection.run (query statement) = connection.send statement := rfl

/-- A connection runs a program in its own state. -/
theorem run_runState (program : Session A) :
    connection.run program =
      Program.runState (fun statement connection => connection.send statement) program connection :=
  rfl

theorem run_bind (connection : Connection) (program : Session A) (f : A → Session B) :
    connection.run (program >>= f) =
      match connection.run program with
      | (.ok value, following) => following.run (f value)
      | (.error error, following) => (.error error, following) := by
  rw [run_runState, Program.runState_bind, ← run_runState]
  cases connection.run program with
  | mk outcome following =>
      cases outcome with
      | ok value => rfl
      | error error => rfl

theorem run_bind_ok {program : Session A} {f : A → Session B} {value : A}
    (done : connection.run program = (.ok value, following)) :
    connection.run (program >>= f) = following.run (f value) :=
  Program.runState_bind_ok done

theorem run_bind_error {program : Session A} {f : A → Session B} {error : SqlError}
    (thrown : connection.run program = (.error error, following)) :
    connection.run (program >>= f) = (.error error, following) :=
  Program.runState_bind_error thrown

/-- A finished sequence has finished its first part. -/
theorem run_bind_done {program : Session A} {f : A → Session B} {answer : B} {last : Connection}
    (done : connection.run (program >>= f) = (.ok answer, last)) :
    ∃ value following, connection.run program = (.ok value, following) ∧
      following.run (f value) = (.ok answer, last) := by
  cases outcome : connection.run program with
  | mk result following =>
      cases result with
      | ok value =>
          rw [run_bind_ok outcome] at done
          exact ⟨value, following, rfl, done⟩
      | error error =>
          rw [run_bind_error outcome] at done
          cases done

theorem run_tryCatch (connection : Connection) (program : Session A)
    (handle : SqlError → Session A) :
    connection.run (tryCatch program handle) =
      match connection.run program with
      | (.ok value, following) => (.ok value, following)
      | (.error error, following) => following.run (handle error) := by
  rw [run_runState, Program.runState_tryCatch, ← run_runState]
  cases connection.run program with
  | mk outcome following =>
      cases outcome with
      | ok value => rfl
      | error error => rfl

theorem run_forM_cons (connection : Connection) (first : A) (rest : List A)
    (f : A → Session Unit) :
    connection.run ((first :: rest).forM f) =
      connection.run (f first >>= fun _ => rest.forM f) := rfl

theorem run_map (connection : Connection) (f : A → B) (program : Session A) :
    connection.run (f <$> program) =
      ((connection.run program).1.map f, (connection.run program).2) := by
  rw [map_eq_pure_bind, run_bind]
  cases connection.run program with
  | mk outcome following =>
      cases outcome with
      | ok value => rfl
      | error error => rfl

end Run

/-- The connection works on its own version of the tables. -/
abbrev working (committed tables : Tables) : Connection := ⟨committed, .active tables⟩

/-- The connection shows the committed tables and nothing else. -/
def Connection.Clean (connection : Connection) : Prop :=
  connection.block = .idle ∨ connection.block = .active connection.committed

section Statements
variable {committed tables : Tables}

theorem run_beginTransaction {connection : Connection} (clean : connection.Clean) :
    connection.run beginTransaction =
      (.ok (), working connection.committed connection.committed) := by
  obtain ⟨committed, block⟩ := connection
  rcases clean with same | same
  · subst same
    rfl
  · simp only at same
    subst same
    rfl

theorem run_rollbackTransaction (connection : Connection) :
    connection.run rollbackTransaction = (.ok (), ⟨connection.committed, .idle⟩) := by
  obtain ⟨committed, block⟩ := connection
  cases block with
  | idle => rfl
  | active tables => rfl
  | failed => rfl

theorem run_commitTransaction :
    (working committed tables).run commitTransaction = (.ok (), ⟨tables, .idle⟩) := rfl

/-- The row under one id. -/
def documentById (tables : Tables) (meadowlarkId : MeadowlarkId) : Option MeadowlarkDocument :=
  tables.documents.find? (·.meadowlarkId = meadowlarkId)

/-- The row under one uuid. -/
def documentByUuid (tables : Tables) (documentUuid : DocumentUuid) : Option MeadowlarkDocument :=
  tables.documents.find? (·.documentUuid = documentUuid)

omit [ColumnTypes] in
theorem documentById_some {meadowlarkId : MeadowlarkId} {document : MeadowlarkDocument}
    (found : documentById tables meadowlarkId = some document) :
    document ∈ tables.documents ∧ document.meadowlarkId = meadowlarkId := by
  have same := List.find?_some found
  exact ⟨List.mem_of_find?_eq_some found, by simpa using same⟩

omit [ColumnTypes] in
theorem documentByUuid_some {documentUuid : DocumentUuid} {document : MeadowlarkDocument}
    (found : documentByUuid tables documentUuid = some document) :
    document ∈ tables.documents ∧ document.documentUuid = documentUuid := by
  have same := List.find?_some found
  exact ⟨List.mem_of_find?_eq_some found, by simpa using same⟩

theorem run_findDocumentByMeadowlarkId (meadowlarkId : MeadowlarkId) :
    (working committed tables).run (findDocumentByMeadowlarkId meadowlarkId) =
      (.ok (documentById tables meadowlarkId), working committed tables) := by
  unfold findDocumentByMeadowlarkId
  have selected : (working committed tables).run
      (query (.findDocumentByMeadowlarkId meadowlarkId)) =
        (.ok (tables.documents.filter (·.meadowlarkId = meadowlarkId)),
          working committed tables) := rfl
  rw [run_bind_ok selected, run_pure, List.head?_filter]
  rfl

/-- A uuid that the column type rejects fails the statement. -/
theorem run_findDocumentByDocumentUuid_ok {given documentUuid : DocumentUuid}
    (converted : uuidColumn given = .ok documentUuid) :
    (working committed tables).run (findDocumentByDocumentUuid given) =
      (.ok (documentByUuid tables documentUuid), working committed tables) := by
  unfold findDocumentByDocumentUuid
  have selected : (working committed tables).run (query (.findDocumentByDocumentUuid given)) =
      (.ok (tables.documents.filter (·.documentUuid = documentUuid)),
        working committed tables) := by
    change (working committed tables).send (.findDocumentByDocumentUuid given) = _
    simp only [Connection.send, execute, converted]
    rfl
  rw [run_bind_ok selected, run_pure, List.head?_filter]
  rfl

theorem run_findDocumentByDocumentUuid_error {given : DocumentUuid} {error : SqlError}
    (refused : uuidColumn given = .error error) :
    (working committed tables).run (findDocumentByDocumentUuid given) =
      (.error error, ⟨committed, .failed⟩) := by
  apply run_bind_error
  change (working committed tables).send (.findDocumentByDocumentUuid given) = _
  simp only [Connection.send, execute, refused]
  rfl

/-- The alias rows of one uuid. -/
def aliasRows (tables : Tables) (documentUuid : DocumentUuid) : List AliasRow :=
  tables.aliases.filter (·.documentUuid = documentUuid)

theorem run_findAliases_ok {given documentUuid : DocumentUuid}
    (converted : uuidColumn given = .ok documentUuid) :
    (working committed tables).run (findAliasMeadowlarkIdsForDocumentByDocumentUuid given) =
      (.ok (aliasRows tables documentUuid), working committed tables) := by
  change (working committed tables).send
    (.findAliasMeadowlarkIdsForDocumentByDocumentUuid given) = _
  simp only [Connection.send, execute, converted]
  rfl

theorem run_findAliases_error {given : DocumentUuid} {error : SqlError}
    (refused : uuidColumn given = .error error) :
    (working committed tables).run (findAliasMeadowlarkIdsForDocumentByDocumentUuid given) =
      (.error error, ⟨committed, .failed⟩) := by
  change (working committed tables).send
    (.findAliasMeadowlarkIdsForDocumentByDocumentUuid given) = _
  simp only [Connection.send, execute, refused]
  rfl

theorem run_findReferringDocumentInfo (ids : List MeadowlarkId) :
    (working committed tables).run (findReferringDocumentInfoForErrorReporting ids) =
      (.ok (((tables.documents.filter (·.meadowlarkId ∈ ids)).take 5).map
        referringDocumentInfoFrom), working committed tables) := rfl

/-- The aliases among the given ids. -/
def aliasesAmong (tables : Tables) (ids : List MeadowlarkId) : List MeadowlarkId :=
  (tables.aliases.filter (·.aliasMeadowlarkId ∈ ids)).map (·.aliasMeadowlarkId)

theorem run_findReferenced (ids : List MeadowlarkId) :
    (working committed tables).run (findReferencedMeadowlarkIdsByMeadowlarkId ids) =
      (.ok (aliasesAmong tables ids), working committed tables) := by
  unfold findReferencedMeadowlarkIdsByMeadowlarkId
  split
  · rename_i empty
    subst empty
    simp [aliasesAmong]
  · rfl

theorem run_updateDocument_ok {updateRequest : UpdateRequest} {documentUuid : DocumentUuid}
    {following : Tables} (converted : uuidColumn updateRequest.documentUuid = .ok documentUuid)
    (written : tables.updateDocument updateRequest documentUuid = .ok following) :
    (working committed tables).run (updateDocument updateRequest) =
      (.ok (decide (tables.documents.countP (·.documentUuid = documentUuid) > 0)),
        working committed following) := by
  have updated : (working committed tables).run (query (.updateDocument updateRequest)) =
      (.ok (tables.documents.countP (·.documentUuid = documentUuid)),
        working committed following) := by
    change (working committed tables).send (.updateDocument updateRequest) = _
    simp only [Connection.send, execute, converted, bind, Except.bind, written]
    rfl
  unfold updateDocument
  rw [run_bind_ok updated, run_pure]

theorem run_updateDocument_error {updateRequest : UpdateRequest}
    (refused : ∀ documentUuid following, uuidColumn updateRequest.documentUuid = .ok documentUuid →
      tables.updateDocument updateRequest documentUuid ≠ .ok following) :
    ∃ error, (working committed tables).run (updateDocument updateRequest) =
      (.error error, ⟨committed, .failed⟩) := by
  cases converted : uuidColumn updateRequest.documentUuid with
  | error error =>
      refine ⟨error, run_bind_error ?_⟩
      change (working committed tables).send (.updateDocument updateRequest) = _
      simp only [Connection.send, execute, converted]
      rfl
  | ok documentUuid =>
      cases written : tables.updateDocument updateRequest documentUuid with
      | ok following => exact absurd written (refused documentUuid following converted)
      | error error =>
          refine ⟨error, run_bind_error ?_⟩
          change (working committed tables).send (.updateDocument updateRequest) = _
          simp only [Connection.send, execute, converted, bind, Except.bind, written]

theorem run_insertDocument_ok {updateRequest : UpdateRequest} {documentUuid : DocumentUuid}
    {following : Tables} (converted : uuidColumn updateRequest.documentUuid = .ok documentUuid)
    (written : tables.insertDocument updateRequest documentUuid = .ok following) :
    (working committed tables).run (insertDocument updateRequest) =
      (.ok true, working committed following) := by
  have inserted : (working committed tables).run (query (.insertDocument updateRequest)) =
      (.ok (1 : Nat), working committed following) := by
    change (working committed tables).send (.insertDocument updateRequest) = _
    simp only [Connection.send, execute, converted, bind, Except.bind, written]
    rfl
  unfold insertDocument
  rw [run_bind_ok inserted, run_pure]
  rfl

theorem run_insertDocument_error {updateRequest : UpdateRequest}
    (refused : ∀ documentUuid following, uuidColumn updateRequest.documentUuid = .ok documentUuid →
      tables.insertDocument updateRequest documentUuid ≠ .ok following) :
    ∃ error, (working committed tables).run (insertDocument updateRequest) =
      (.error error, ⟨committed, .failed⟩) := by
  cases converted : uuidColumn updateRequest.documentUuid with
  | error error =>
      refine ⟨error, run_bind_error ?_⟩
      change (working committed tables).send (.insertDocument updateRequest) = _
      simp only [Connection.send, execute, converted]
      rfl
  | ok documentUuid =>
      cases written : tables.insertDocument updateRequest documentUuid with
      | ok following => exact absurd written (refused documentUuid following converted)
      | error error =>
          refine ⟨error, run_bind_error ?_⟩
          change (working committed tables).send (.insertDocument updateRequest) = _
          simp only [Connection.send, execute, converted, bind, Except.bind, written]

end Statements

section References
variable [NodeRuntime] {committed tables : Tables}

/-- The missing identities of one list of references. -/
def missingFrom (tables : Tables) (references : List DocumentReference) : List MissingIdentity :=
  let ids := references.map getMeadowlarkIdForDocumentReference
  if ids.length ≠ (aliasesAmong tables ids).length then
    findMissingReferences (aliasesAmong tables ids) ids references
  else []

def missingReferences (tables : Tables) (documentInfo : DocumentInfo) : List MissingIdentity :=
  missingFrom tables documentInfo.documentReferences ++
    missingFrom tables documentInfo.descriptorReferences

theorem run_validateReferenceList (references : List DocumentReference) :
    (working committed tables).run (validateReferenceList references) =
      (.ok (missingFrom tables references), working committed tables) := by
  unfold validateReferenceList
  rw [run_bind_ok (run_findReferenced _)]
  rfl

theorem run_validateReferences (documentInfo : DocumentInfo) :
    (working committed tables).run (validateReferences documentInfo.documentReferences
      documentInfo.descriptorReferences) =
      (.ok (missingReferences tables documentInfo), working committed tables) := by
  unfold validateReferences
  rw [run_bind_ok (run_validateReferenceList _), run_bind_ok (run_validateReferenceList _)]
  rfl

end References

section Rewrite
variable [NodeRuntime] {committed tables : Tables}

/-- The side tables after one document has been written. -/
def Tables.rewrite (tables : Tables) (existingMeadowlarkId : MeadowlarkId)
    (documentUuid : DocumentUuid) (meadowlarkId : MeadowlarkId) (documentInfo : DocumentInfo) :
    Tables :=
  { tables with
    aliases := tables.aliases.filter (·.meadowlarkId ≠ existingMeadowlarkId) ++
      (meadowlarkId :: superclassAliasIds documentInfo).map fun aliasId =>
        ⟨documentUuid, meadowlarkId, aliasId⟩
    references := tables.references.filter (·.parentMeadowlarkId ≠ existingMeadowlarkId) ++
      (outboundRefsFrom documentInfo).map fun ref => ⟨meadowlarkId, ref⟩ }

omit [NodeRuntime] in
theorem run_insertAliases {given documentUuid : DocumentUuid}
    (converted : uuidColumn given = .ok documentUuid) (meadowlarkId : MeadowlarkId)
    (aliasIds : List MeadowlarkId) :
    (working committed tables).run (aliasIds.forM fun aliasId => do
        let _ ← insertAlias given meadowlarkId aliasId) =
      (.ok (), working committed { tables with
        aliases := tables.aliases ++ aliasIds.map fun aliasId =>
          ⟨documentUuid, meadowlarkId, aliasId⟩ }) := by
  induction aliasIds generalizing tables with
  | nil => simp
  | cons aliasId rest ih =>
      have added : (working committed tables).run
          (query (.insertAlias given meadowlarkId aliasId)) =
          (.ok (1 : Nat), working committed { tables with
            aliases := tables.aliases ++ [⟨documentUuid, meadowlarkId, aliasId⟩] }) := by
        change (working committed tables).send (.insertAlias given meadowlarkId aliasId) = _
        simp only [Connection.send, execute, converted]
        rfl
      have inserted : (working committed tables).run (do
          let _ ← insertAlias given meadowlarkId aliasId) =
          (.ok (), working committed { tables with
            aliases := tables.aliases ++ [⟨documentUuid, meadowlarkId, aliasId⟩] }) := by
        unfold insertAlias
        rw [run_bind_ok (run_bind_ok added), run_pure]
      rw [run_forM_cons, run_bind_ok inserted, ih]
      simp

omit [NodeRuntime] in
theorem run_insertReferences (meadowlarkId : MeadowlarkId) (refs : List MeadowlarkId) :
    (working committed tables).run (refs.forM fun ref => do
        let _ ← insertOutboundReferences meadowlarkId ref) =
      (.ok (), working committed { tables with
        references := tables.references ++ refs.map fun ref => ⟨meadowlarkId, ref⟩ }) := by
  induction refs generalizing tables with
  | nil => simp
  | cons ref rest ih =>
      have inserted : (working committed tables).run (do
          let _ ← insertOutboundReferences meadowlarkId ref) =
          (.ok (), working committed { tables with
            references := tables.references ++ [⟨meadowlarkId, ref⟩] }) := rfl
      rw [run_forM_cons, run_bind_ok inserted, ih]
      simp

theorem run_rewrite {given documentUuid : DocumentUuid}
    (converted : uuidColumn given = .ok documentUuid)
    (existingMeadowlarkId meadowlarkId : MeadowlarkId) (documentInfo : DocumentInfo) :
    (working committed tables).run
        (rewriteAliasesAndReferences existingMeadowlarkId given meadowlarkId documentInfo) =
      (.ok (), working committed
        (tables.rewrite existingMeadowlarkId documentUuid meadowlarkId documentInfo)) := by
  have aliasesDeleted : (working committed tables).run
      (deleteAliasesForDocumentByMeadowlarkId existingMeadowlarkId) =
        (.ok (decide (tables.aliases.countP (·.meadowlarkId = existingMeadowlarkId) > 0)),
          working committed { tables with
            aliases := tables.aliases.filter (·.meadowlarkId ≠ existingMeadowlarkId) }) := rfl
  have referencesDeleted : ∀ tables : Tables, (working committed tables).run
      (deleteOutboundReferencesOfDocumentByMeadowlarkId existingMeadowlarkId) =
        (.ok (decide (tables.references.countP (·.parentMeadowlarkId = existingMeadowlarkId) > 0)),
          working committed { tables with
            references := tables.references.filter
              (·.parentMeadowlarkId ≠ existingMeadowlarkId) }) := fun _ => rfl
  unfold rewriteAliasesAndReferences
  rw [run_bind_ok aliasesDeleted, run_bind_ok (run_insertAliases converted _ _),
    run_bind_ok (referencesDeleted _), run_insertReferences]
  rfl

end Rewrite
end Meadowlark.Postgres
