import Meadowlark.Construction.Postgres.Concurrency
import Meadowlark.Proof.Postgres.Conduct
import Meadowlark.Proof.Postgres.SequentialIntegrity

namespace Meadowlark.Postgres
open Meadowlark.Core Systems

section Statements
variable {A B : Type} {transaction : Nat} {database following : Database}

/-- The value of a composed statement comes from the values of its parts. -/
theorem waiting_bind_ok {first : Waiting A} {f : A → Waiting B} {value : B}
    (done : (first >>= f).run = some (.ok value)) :
    ∃ middle, first.run = some (.ok middle) ∧ (f middle).run = some (.ok value) := by
  rw [ExceptT.run_bind] at done
  obtain ⟨outcome, ran, rest⟩ := Option.bind_eq_some_iff.mp done
  cases outcome with
  | ok middle => exact ⟨middle, ran, rest⟩
  | error error => cases rest

theorem checked_ok {outcome : Except SqlError A} {value : A}
    (done : (checked outcome).run = some (.ok value)) : outcome = .ok value := Option.some.inj done

theorem awaited_ok {outcome : Option A} {value : A}
    (done : (awaited outcome).run = some (.ok value)) : outcome = some value := by
  cases outcome with
  | none => cases done
  | some found =>
      cases done
      rfl

theorem uniqueRow_free {documents : Versions MeadowlarkDocument} {row : MeadowlarkDocument}
    (done : (uniqueRow transaction documents row).run = some (.ok ())) :
    documents.uniqueness transaction (·.documentUuid = row.documentUuid) = .free := by
  unfold uniqueRow at done
  split at done
  · rename_i free
    exact free
  · cases done
  · cases done
  · cases done

/-- What the insert of each row keeps holds after all of them. -/
theorem insertRows_keeps {Keeps : Versions MeadowlarkDocument → Prop}
    {rows : List MeadowlarkDocument} {documents after : Versions MeadowlarkDocument}
    (done : (insertRows transaction rows documents).run = some (.ok after)) (start : Keeps documents)
    (step : ∀ documents, ∀ row ∈ rows, Keeps documents →
      documents.uniqueness transaction (·.documentUuid = row.documentUuid) = .free →
        Keeps (documents.insert transaction row)) : Keeps after := by
  induction rows generalizing documents with
  | nil =>
      cases done
      exact start
  | cons row rest ih =>
      obtain ⟨_, unique, rest⟩ := waiting_bind_ok done
      have kept := step documents row List.mem_cons_self start (uniqueRow_free unique)
      exact ih rest kept fun documents other listed => step documents other
        (List.mem_cons_of_mem _ listed)

variable [ColumnTypes]

theorem documentRow_stamped {updateRequest : UpdateRequest} {documentUuid : DocumentUuid}
    {createdAt : Int} {row : MeadowlarkDocument}
    (done : documentRow updateRequest documentUuid createdAt = .ok row) :
    row.documentUuid = documentUuid ∧
      row.lastModifiedAt = updateRequest.documentInfo.requestTimestamp := by
  unfold documentRow at done
  split at done
  · cases done
  · split at done
    · cases done
    · cases done
      exact ⟨rfl, rfl⟩

/-- The documents table keeps one row for each uuid and the uuids are values of their column. -/
structure DocumentsSound (documents : Versions MeadowlarkDocument) : Prop where
  ordered : Ordered (·.documentUuid) (fun old new => old.lastModifiedAt < new.lastModifiedAt)
    documents
  canonical : ∀ version ∈ documents,
    uuidColumn version.row.documentUuid = .ok version.row.documentUuid

/-- A statement of one open transaction leaves the committed rows and the other transactions. -/
structure Pending (transaction : Nat) (before after : Versions MeadowlarkDocument) : Prop where
  sound : DocumentsSound after
  committed : after.committed = before.committed
  others : ∀ other, other ≠ transaction → Untouched other before → Untouched other after

/-- The rows that a transaction has taken out and not put back. -/
structure Replacing (transaction : Nat) (before after : Versions MeadowlarkDocument)
    (documentUuid : DocumentUuid) (requestTimestamp : Int) : Prop where
  pending : Pending transaction before after
  older : ∀ version ∈ after, version.row.documentUuid = documentUuid →
    version.deletedBy = some transaction → version.row.lastModifiedAt < requestTimestamp

theorem Replacing.insertRows {documents after kept : Versions MeadowlarkDocument}
    {rows : List MeadowlarkDocument} {documentUuid : DocumentUuid} {requestTimestamp : Int}
    (converted : uuidColumn documentUuid = .ok documentUuid)
    (described : ∀ row ∈ rows, row.documentUuid = documentUuid ∧
      row.lastModifiedAt = requestTimestamp)
    (replacing : Replacing transaction documents kept documentUuid requestTimestamp)
    (done : (Postgres.insertRows transaction rows kept).run = some (.ok after)) :
    Replacing transaction documents after documentUuid requestTimestamp := by
  apply insertRows_keeps done replacing
  intro versions row listed holds free
  obtain ⟨uuid, timestamp⟩ := described row listed
  refine ⟨⟨⟨?_, ?_⟩, ?_, ?_⟩, ?_⟩
  · apply holds.pending.sound.ordered.insert
    intro version stored same
    have removed := Versions.uniqueness_free free stored (by simpa using same)
    refine ⟨removed, ?_⟩
    rw [timestamp]
    exact holds.older version stored (same.trans uuid) removed
  · intro version stored
    rcases List.mem_append.mp stored with stored | stored
    · exact holds.pending.sound.canonical version stored
    · obtain rfl := List.mem_singleton.mp stored
      simp only [uuid]
      exact converted
  · rw [Versions.committed_insert, holds.pending.committed]
  · intro other apart untouched
    exact (holds.pending.others other apart untouched).insert apart.symm row
  · intro version stored same removed
    rcases List.mem_append.mp stored with stored | stored
    · exact holds.older version stored same removed
    · obtain rfl := List.mem_singleton.mp stored
      cases removed

/-- An update of a document that is older in every committed form keeps the table sound. -/
theorem perform_updateDocument {updateRequest : UpdateRequest} {count : Nat}
    (sound : DocumentsSound database.documents)
    (older : ∀ stored ∈ database.documents.committed,
      uuidColumn updateRequest.documentUuid = .ok stored.documentUuid →
        stored.lastModifiedAt < updateRequest.documentInfo.requestTimestamp)
    (done : (database.perform transaction (.updateDocument updateRequest)).run =
      some (.ok (following, count))) :
    Pending transaction database.documents following.documents := by
  obtain ⟨documentUuid, converted, done⟩ := waiting_bind_ok done
  have converted := checked_ok converted
  obtain ⟨kept, removed, done⟩ := waiting_bind_ok done
  have removed := awaited_ok removed
  obtain ⟨rows, written, done⟩ := waiting_bind_ok done
  have written := checked_ok written
  obtain ⟨after, inserted, done⟩ := waiting_bind_ok done
  cases done
  have described : ∀ row ∈ rows, row.documentUuid = documentUuid ∧
      row.lastModifiedAt = updateRequest.documentInfo.requestTimestamp := by
    intro row listed
    obtain ⟨existing, -, done⟩ := (mapM_ok written).2 row listed
    exact documentRow_stamped done
  have replacing : Replacing transaction database.documents kept documentUuid
      updateRequest.documentInfo.requestTimestamp := by
    refine ⟨⟨⟨sound.ordered.remove removed, ?_⟩, Versions.committed_remove removed, ?_⟩, ?_⟩
    · obtain ⟨rfl, -⟩ := Versions.remove_some removed
      intro version stored
      obtain ⟨before, beforeStored, marked⟩ := List.mem_filterMap.mp stored
      rcases Version.remove_some marked with rfl | ⟨-, -, -, rfl⟩
      · exact sound.canonical _ beforeStored
      · exact sound.canonical before beforeStored
    · exact fun other apart untouched => untouched.remove apart.symm removed
    · intro version stored same marked
      have settled := (sound.ordered.remove removed).base version stored (by simp [marked])
      apply older version.row
      · rw [← Versions.committed_remove removed]
        exact Versions.mem_committed.mpr ⟨version, stored, settled, rfl⟩
      · rw [same]
        exact converted
  exact (replacing.insertRows (uuidColumn_converted converted) described inserted).pending

theorem perform_insertDocument {updateRequest : UpdateRequest} {count : Nat}
    (sound : DocumentsSound database.documents)
    (untouched : Untouched transaction database.documents)
    (done : (database.perform transaction (.insertDocument updateRequest)).run =
      some (.ok (following, count))) :
    Pending transaction database.documents following.documents := by
  obtain ⟨documentUuid, converted, done⟩ := waiting_bind_ok done
  have converted := checked_ok converted
  obtain ⟨row, written, done⟩ := waiting_bind_ok done
  have written := checked_ok written
  obtain ⟨after, inserted, done⟩ := waiting_bind_ok done
  cases done
  have replacing : Replacing transaction database.documents database.documents documentUuid
      updateRequest.documentInfo.requestTimestamp :=
    ⟨⟨sound, rfl, fun _ _ same => same⟩,
      fun version stored _ removed => absurd removed (untouched version stored).2⟩
  have described : ∀ other ∈ [row], other.documentUuid = documentUuid ∧
      other.lastModifiedAt = updateRequest.documentInfo.requestTimestamp := by
    intro other listed
    obtain rfl := List.mem_singleton.mp listed
    exact documentRow_stamped written
  exact (replacing.insertRows (uuidColumn_converted converted) described inserted).pending

/-- The other statements leave the documents table. -/
theorem perform_documents {statement : Statement} {rows : statement.Rows}
    (reads : statement.writesDocuments = false)
    (done : (database.perform transaction statement).run = some (.ok (following, rows))) :
    following.documents = database.documents := by
  cases statement with
  | updateDocument updateRequest => cases reads
  | insertDocument updateRequest => cases reads
  | deleteDocumentRow documentUuid => cases reads
  | findAliasMeadowlarkIdsForDocumentByDocumentUuid documentUuid =>
      obtain ⟨_, _, done⟩ := waiting_bind_ok done
      obtain ⟨_, _, done⟩ := waiting_bind_ok done
      cases done
      rfl
  | findDocumentByDocumentUuid documentUuid =>
      obtain ⟨_, _, done⟩ := waiting_bind_ok done
      cases done
      rfl
  | validateReferenceExistence meadowlarkIds =>
      obtain ⟨_, _, done⟩ := waiting_bind_ok done
      cases done
      rfl
  | insertAlias documentUuid meadowlarkId aliasId =>
      obtain ⟨_, _, done⟩ := waiting_bind_ok done
      cases done
      rfl
  | deleteOutboundReferences meadowlarkId =>
      obtain ⟨_, _, done⟩ := waiting_bind_ok done
      cases done
      rfl
  | deleteAliases meadowlarkId =>
      obtain ⟨_, _, done⟩ := waiting_bind_ok done
      cases done
      rfl
  | resetAuthorizationClientSecret clientId clientSecretHashed =>
      obtain ⟨_, _, done⟩ := waiting_bind_ok done
      cases done
      rfl
  | updateAuthorizationClient clientId clientName roles active =>
      obtain ⟨_, _, done⟩ := waiting_bind_ok done
      cases done
      rfl
  | insertOrUpdateAuthorization authorizationClient =>
      obtain ⟨_, _, done⟩ := waiting_bind_ok done
      split at done
      · cases done
        rfl
      · cases done
  | _ =>
      cases done
      rfl

/-- The rows that a statement selects from the documents table. -/
def selectedDocuments : (statement : Statement) → statement.Rows → List MeadowlarkDocument
  | .findDocumentByMeadowlarkId _, rows => rows
  | .findDocumentByDocumentUuid _, rows => rows
  | _, _ => []

/-- A select of whole documents answers with rows that the transaction sees. -/
theorem perform_selected {statement : Statement} {rows : statement.Rows}
    (sound : DocumentsSound database.documents)
    (done : (database.perform transaction statement).run = some (.ok (following, rows))) :
    Possible statement (.ok rows) ∧
      ∀ row ∈ selectedDocuments statement rows, row ∈ database.documents.rows transaction := by
  have canonical : ∀ row ∈ database.documents.rows transaction,
      uuidColumn row.documentUuid = .ok row.documentUuid := by
    intro row seen
    obtain ⟨version, stored, rfl, -⟩ := Versions.mem_rows seen
    exact sound.canonical version stored
  cases statement with
  | findDocumentByMeadowlarkId meadowlarkId =>
      cases done
      exact ⟨fun row listed => canonical row (List.mem_filter.mp listed).1,
        fun row listed => (List.mem_filter.mp listed).1⟩
  | findDocumentByDocumentUuid documentUuid =>
      obtain ⟨column, converted, done⟩ := waiting_bind_ok done
      have converted := checked_ok converted
      cases done
      refine ⟨?_, fun row listed => (List.mem_filter.mp listed).1⟩
      intro row listed
      have same : row.documentUuid = column := by simpa using (List.mem_filter.mp listed).2
      rw [same]
      exact converted
  | _ => exact ⟨trivial, fun row listed => absurd listed List.not_mem_nil⟩

theorem DocumentsSound.commit {documents : Versions MeadowlarkDocument}
    (sound : DocumentsSound documents) : DocumentsSound (documents.commit transaction) := by
  refine ⟨sound.ordered.commit, ?_⟩
  intro version stored
  obtain ⟨before, beforeStored, done⟩ := List.mem_filterMap.mp stored
  rw [(Version.commit_some done).2.1]
  exact sound.canonical before beforeStored

theorem DocumentsSound.abort {documents : Versions MeadowlarkDocument}
    (sound : DocumentsSound documents) : DocumentsSound (documents.abort transaction) := by
  refine ⟨sound.ordered.abort, ?_⟩
  intro version stored
  obtain ⟨before, beforeStored, done⟩ := List.mem_filterMap.mp stored
  rw [(Version.abort_some done).2.1]
  exact sound.canonical before beforeStored

/-- One step of one transaction on the documents table. -/
structure Moved (transaction : Nat) (before after : Versions MeadowlarkDocument) : Prop where
  sound : DocumentsSound after
  others : ∀ other, other ≠ transaction → Untouched other before → Untouched other after
  increase : ∀ old ∈ before.committed, ∀ new ∈ after.committed,
    old.documentUuid = new.documentUuid → new = old ∨ old.lastModifiedAt < new.lastModifiedAt

/-- A step of a transaction without writes changes no committed row. -/
structure Still (transaction : Nat) (before after : Versions MeadowlarkDocument) : Prop where
  committed : after.committed = before.committed
  untouched : Untouched transaction after

section Moves
variable {before after : Versions MeadowlarkDocument}

theorem Pending.refl (sound : DocumentsSound before) : Pending transaction before before :=
  ⟨sound, rfl, fun _ _ same => same⟩

theorem Pending.moved (pending : Pending transaction before after) :
    Moved transaction before after := by
  refine ⟨pending.sound, pending.others, ?_⟩
  intro old oldStored new newStored same
  rw [← pending.committed] at oldStored
  exact .inl (pending.sound.ordered.committed_unique newStored oldStored same.symm)

theorem Pending.commit (pending : Pending transaction before after) :
    Moved transaction before (after.commit transaction) := by
  refine ⟨pending.sound.commit, ?_, ?_⟩
  · exact fun other apart untouched => (pending.others other apart untouched).commit
  · intro old oldStored new newStored same
    rw [← pending.committed] at oldStored
    exact pending.sound.ordered.committed_commit oldStored newStored same

theorem DocumentsSound.aborted (sound : DocumentsSound before) :
    Moved transaction before (before.abort transaction) := by
  refine ⟨sound.abort, fun other _ untouched => untouched.abort, ?_⟩
  intro old oldStored new newStored same
  rw [Versions.committed_abort] at newStored
  exact .inl (sound.ordered.committed_unique newStored oldStored same.symm)

omit [ColumnTypes] in
theorem still_refl (untouched : Untouched transaction before) :
    Still transaction before before := ⟨rfl, untouched⟩

omit [ColumnTypes] in
theorem still_commit (untouched : Untouched transaction before) :
    Still transaction before (before.commit transaction) :=
  ⟨untouched.committed_commit, untouched.commit⟩

omit [ColumnTypes] in
theorem still_abort (untouched : Untouched transaction before) :
    Still transaction before (before.abort transaction) :=
  ⟨Versions.committed_abort, untouched.abort⟩

end Moves

/-- A statement is performed, and outside a block it is committed at once.
A statement that ends a block or fails only ends the transaction. -/
theorem send_some {statement : Statement} {answer : statement.Answer} {block after : CallBlock}
    (sent : database.send transaction statement block = some (answer, after, following)) :
    (∃ rows middle, answer = .ok rows ∧
        (database.perform transaction statement).run = some (.ok (middle, rows)) ∧
        (following = middle ∨ following = middle.commit transaction)) ∨
      ((statement.quiet = true ∨ ∃ error, answer = .error error) ∧
        (following = database ∨ following = database.commit transaction ∨
          following = database.abort transaction)) := by
  unfold Database.send at sent
  split at sent
  · cases sent
    exact .inr ⟨.inl rfl, .inl rfl⟩
  · cases sent
    exact .inr ⟨.inl rfl, .inl rfl⟩
  · cases sent
    exact .inr ⟨.inl rfl, .inr (.inl rfl)⟩
  · cases sent
    exact .inr ⟨.inl rfl, .inr (.inr rfl)⟩
  · cases sent
    exact .inr ⟨.inr ⟨_, rfl⟩, .inl rfl⟩
  · split at sent
    · cases sent
    · cases sent
      exact .inr ⟨.inr ⟨_, rfl⟩, .inr (.inr rfl)⟩
    · rename_i performed
      cases sent
      exact .inl ⟨_, _, rfl, performed, .inl rfl⟩
  · split at sent
    · cases sent
    · cases sent
      exact .inr ⟨.inr ⟨_, rfl⟩, .inl rfl⟩
    · rename_i performed
      cases sent
      exact .inl ⟨_, _, rfl, performed, .inr rfl⟩

end Statements

end Meadowlark.Postgres
