import Meadowlark.Proof.Mongo.Calls

namespace Meadowlark.Mongo
open Meadowlark.Core Systems

/-- Some stored document holds the id as an alias. -/
def Holds (store : Store) (id : MeadowlarkId) : Prop :=
  ∃ document ∈ documents store, id ∈ document.aliasMeadowlarkIds

instance (store : Store) (id : MeadowlarkId) : Decidable (Holds store id) :=
  inferInstanceAs (Decidable (∃ document ∈ documents store, _))

/-- Every stored document holds its own id as an alias. -/
def SelfAliased (store : Store) : Prop :=
  ∀ document ∈ documents store, document.id ∈ document.aliasMeadowlarkIds

/-- No id is an alias of two different documents. -/
def AliasesUnique (store : Store) : Prop :=
  ∀ first ∈ documents store, ∀ second ∈ documents store,
    ∀ id ∈ first.aliasMeadowlarkIds, id ∈ second.aliasMeadowlarkIds → first = second

instance (store : Store) : Decidable (AliasesUnique store) :=
  inferInstanceAs (Decidable (∀ first ∈ documents store, ∀ second ∈ documents store,
    ∀ id ∈ first.aliasMeadowlarkIds, _ → _))

/-- A validation that finds as many documents as ids finds a holder of each id. -/
def CountsHolders (store : Store) (ids : List MeadowlarkId) : Prop :=
  ids.length = (findDocuments store (.aliasMeadowlarkIds ids)).length → ∀ id ∈ ids, Holds store id

instance (store : Store) (ids : List MeadowlarkId) : Decidable (CountsHolders store ids) :=
  inferInstanceAs (Decidable (_ → ∀ id ∈ ids, _))

/-- The projections that reference validation uses. -/
def Projection.Validates : Projection → Prop
  | .whole => False
  | .onlyReturnId => True
  | .onlyReturnAliasMeadowlarkId => True

/-- The id that validation reads from a found document. -/
def reportedId (document : MeadowlarkDocument) : MeadowlarkId :=
  match document.aliasMeadowlarkIds with
  | [] => document.id
  | first :: _ => first

theorem reportedId_held {store : Store} (selfAliased : SelfAliased store)
    {ids : List MeadowlarkId} {projection : Projection} (validates : projection.Validates)
    {document : MeadowlarkDocument}
    (found : document ∈ findDocuments store (.aliasMeadowlarkIds ids)) :
    Holds store (reportedId (projection.apply (.aliasMeadowlarkIds ids) document)) := by
  obtain ⟨stored, matching⟩ := (mem_findDocuments _ _ _).mp found
  refine ⟨document, stored, ?_⟩
  cases projection with
  | whole => exact validates.elim
  | onlyReturnId => exact selfAliased document stored
  | onlyReturnAliasMeadowlarkId =>
      simp only [Projection.apply, reportedId]
      cases first : document.aliasMeadowlarkIds.find? (· ∈ ids) with
      | none =>
          obtain ⟨held, inside, wanted⟩ := List.any_eq_true.mp matching
          have refused := List.find?_eq_none.mp first held inside
          exact absurd wanted refused
      | some held => exact List.mem_of_find?_eq_some first

variable [NodeRuntime]

/-- No failure is reported only when each id is read from some found document. -/
theorem findMissingReferences_nil {found : List MeadowlarkDocument}
    {references : List DocumentReference}
    (clean : findMissingReferences found (references.map getMeadowlarkIdForDocumentReference)
      references = []) {id : MeadowlarkId}
    (inside : id ∈ references.map getMeadowlarkIdForDocumentReference) :
    ∃ document ∈ found, reportedId document = id := by
  by_contra absent
  have missing : id ∈ ((references.map getMeadowlarkIdForDocumentReference).filter fun id =>
      id ∉ found.map reportedId).eraseDups := by
    rw [List.mem_eraseDups, List.mem_filter]
    refine ⟨inside, ?_⟩
    simpa using absent
  have position : (references.map getMeadowlarkIdForDocumentReference).idxOf id <
      references.length := by
    simpa using List.idxOf_lt_length_of_mem inside
  unfold findMissingReferences at clean
  rw [List.map_eq_nil_iff, List.filterMap_eq_nil_iff] at clean
  have unpicked := clean _ (List.mem_map_of_mem missing)
  rw [List.getElem?_eq_getElem position] at unpicked
  cases unpicked

/-- A clean validation of one list leaves no id without a holder. -/
theorem validated_holds {store : Store} (selfAliased : SelfAliased store)
    {projection : Projection} (validates : projection.Validates)
    {references : List DocumentReference}
    (counts : CountsHolders store (references.map getMeadowlarkIdForDocumentReference))
    (clean : (if (references.map getMeadowlarkIdForDocumentReference).length ≠
        ((findDocuments store (.aliasMeadowlarkIds
          (references.map getMeadowlarkIdForDocumentReference))).map
            (projection.apply (.aliasMeadowlarkIds
              (references.map getMeadowlarkIdForDocumentReference)))).length then
      findMissingReferences ((findDocuments store (.aliasMeadowlarkIds
          (references.map getMeadowlarkIdForDocumentReference))).map
            (projection.apply (.aliasMeadowlarkIds
              (references.map getMeadowlarkIdForDocumentReference))))
        (references.map getMeadowlarkIdForDocumentReference) references
      else []) = []) {id : MeadowlarkId}
    (inside : id ∈ references.map getMeadowlarkIdForDocumentReference) : Holds store id := by
  split at clean
  · obtain ⟨document, found, rfl⟩ := findMissingReferences_nil clean inside
    obtain ⟨whole, wholeFound, rfl⟩ := List.mem_map.mp found
    exact reportedId_held selfAliased validates wholeFound
  · rename_i same
    rw [List.length_map, List.length_map, not_not] at same
    exact counts (by rw [List.length_map, same]) id inside

end Meadowlark.Mongo
