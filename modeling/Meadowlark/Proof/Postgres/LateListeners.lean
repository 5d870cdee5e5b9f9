import Meadowlark.Proof.Postgres.Deposits
import Meadowlark.Proof.Search.LateListeners

namespace Meadowlark.Postgres
open Meadowlark.Core Systems
variable [NodeRuntime] [ColumnTypes] {tables following : Tables} {generated : DocumentUuid}

/-- What the search index has to show of a row. -/
def searchedDocument (document : MeadowlarkDocument) : Search.SearchedDocument where
  documentUuid := document.documentUuid
  meadowlarkId := document.meadowlarkId
  projectName := document.projectName
  resourceVersion := document.resourceVersion
  resourceName := document.resourceName
  edfiDoc := document.edfiDoc
  createdBy := document.createdBy

def searchedDocuments (connection : Connection) : List Search.SearchedDocument :=
  connection.committed.documents.map searchedDocument

/-- The uuids of the write are spelled as their column gives them back. When it is accepted, the
engine can show its document. -/
structure WritesSearched (resources : Set ResourceInfo) (generated : DocumentUuid)
    (connection : Connection) (write : WriteRequest) : Prop where
  plain : WritesPlain generated write
  shown : WriteAccepted connection.committed write →
    Search.WritesShown resources (searchedDocuments connection) write

omit [NodeRuntime] in
theorem StoredAs.isFor {request : UpsertRequest} {row : MeadowlarkDocument}
    (storedAs : StoredAs request row) : (searchedDocument row).IsFor keptDocument request := by
  have created := (documentRow_ok storedAs).2.2
  obtain ⟨project, name, -⟩ := documentRow_requested storedAs
  refine ⟨⟨project, ?_, name⟩, storedAs.shows.1, created⟩
  unfold StoredAs documentRow at storedAs
  split at storedAs
  · cases storedAs
  · split at storedAs
    · cases storedAs
    · exact congrArg MeadowlarkDocument.resourceVersion (Except.ok.inj storedAs).symm

/-- An upsert writes a new row or the one with its id. -/
theorem CallEffect.upserted_id (plain : uuidColumn generated = .ok generated)
    {request : UpsertRequest} {result : UpsertResult}
    (effect : CallEffect tables (.upsert generated request) (.upsert result) following)
    {documentUuid : DocumentUuid}
    (written : (ListenerEvent.afterUpsertDocument request result).writtenUuid = some documentUuid)
    {row : MeadowlarkDocument} (stored : row ∈ tables.documents)
    (named : row.documentUuid = documentUuid) : row.meadowlarkId = request.meadowlarkId := by
  generalize made : RepositoryResult.upsert result = answer at effect
  cases effect with
  | @upserted _ rowUuid _ next writes =>
      obtain rfl := RepositoryResult.upsert.inj made
      have inserted := writes.written
      have uuid := writes.converted
      unfold upsertRow at inserted
      unfold upsertedResult at written
      cases found : documentById tables request.meadowlarkId with
      | none =>
          simp only [upsertedUuid, found, Option.map_none, Option.getD_none, Option.isNone_none,
            if_true] at inserted uuid written
          obtain rfl : generated = documentUuid := Option.some.inj written
          obtain rfl : generated = rowUuid := Except.ok.inj (plain.symm.trans uuid)
          exact absurd named (insertDocument_fresh inserted stored)
      | some existing =>
          obtain ⟨existingStored, sameId⟩ := documentById_some found
          simp only [upsertedUuid, found, Option.map_some, Option.getD_some, Option.isNone_some,
            Bool.false_eq_true, if_false] at written
          obtain rfl : existing.documentUuid = documentUuid := Option.some.inj written
          rw [documents_eq_of_uuid stored existingStored named]
          exact sameId
  | failed unsuccessful =>
      subst made
      cases (succeeded_of_writtenUuid written).symm.trans unsuccessful

/-- The table is one whose documents an engine can show. -/
theorem showable (resources : Set ResourceInfo) :
    Search.Showable documentStore resources searchedDocuments keptDocument
      (WritesSearched resources)
      (fun connection deposits =>
        Regular connection ∧ Deposited connection.committed deposits) where
  requests := {
    checked := keptDeposited.checked
    read := keptDeposited.read
    written := fun held writes => keptDeposited.written held writes.plain }
  stored held document inside := by
    obtain ⟨row, listed, rfl⟩ := List.mem_map.mp inside
    obtain ⟨request, deposited, storedAs⟩ := held.2.stored row listed
    exact ⟨request, deposited, storedAs.isFor⟩
  present held documentUuid request deposited := by
    obtain ⟨row, stored, named⟩ := held.2.present documentUuid request deposited
    exact ⟨searchedDocument row, List.mem_map_of_mem stored, named⟩
  unique held document inside other otherInside same := by
    obtain ⟨row, listed, rfl⟩ := List.mem_map.mp inside
    obtain ⟨otherRow, otherListed, rfl⟩ := List.mem_map.mp otherInside
    exact congrArg searchedDocument (documents_eq_of_uuid otherListed listed same)
  shown {generated connection deposits write} held writes succeeds := by
    rcases held.1.settled with clean | failed
    · exact writes.shown ((writeAccepted_iff clean).mp ⟨generated, succeeds⟩)
    · obtain ⟨committed, block⟩ := connection
      obtain rfl : block = .failed := failed
      obtain ⟨answer, done, unsuccessful⟩ :=
        repositorySession_failed committed (callOf generated write)
      obtain ⟨result, answered, succeeded⟩ := succeeds_callOf.mp succeeds
      rw [done, Except.ok.injEq] at answered
      rw [answered, succeeded] at unsuccessful
      cases unsuccessful
  upserted {generated connection deposits request result documentUuid} held writes answered written
      document inside named := by
    obtain ⟨row, listed, rfl⟩ := List.mem_map.mp inside
    rcases held.1.settled with clean | failed
    · obtain ⟨answer, following, done, -, effect⟩ :=
        repositorySession_effect clean (.upsert generated request)
      obtain ⟨inner, rfl, served⟩ := serveSession_map (congrArg Prod.fst done)
      obtain rfl : inner = result := Except.ok.inj (served.symm.trans answered)
      exact effect.upserted_id writes.plain.generated written listed named
    · obtain ⟨committed, block⟩ := connection
      obtain rfl : block = .failed := failed
      obtain ⟨answer, done, unsuccessful⟩ :=
        repositorySession_failed committed (.upsert generated request)
      obtain ⟨inner, rfl, served⟩ := serveSession_map (congrArg Prod.fst done)
      obtain rfl : inner = result := Except.ok.inj (served.symm.trans answered)
      cases (succeeded_of_writtenUuid written).symm.trans unsuccessful

end Meadowlark.Postgres
