import Meadowlark.Construction.Core.Identity
import Meadowlark.Systems.FirstOccurrences

namespace Meadowlark.Core
open Systems

def missingIdentityOf (reference : DocumentReference) : MissingIdentity :=
  ⟨reference.resourceName, reference.documentIdentity⟩

variable [NodeRuntime] {present : MeadowlarkId → Prop} [DecidablePred present]
  {references : List DocumentReference}

/-- The references whose id is not present, each id once. -/
def missingIdentities (present : MeadowlarkId → Prop) [DecidablePred present]
    (references : List DocumentReference) : List MissingIdentity :=
  (distinctBy getMeadowlarkIdForDocumentReference (references.filter fun reference =>
    ¬ present (getMeadowlarkIdForDocumentReference reference))).map missingIdentityOf

/-- Nothing is missing exactly when every id is present. -/
theorem missingIdentities_nil_iff :
    missingIdentities present references = [] ↔
      ∀ reference ∈ references, present (getMeadowlarkIdForDocumentReference reference) := by
  unfold missingIdentities
  rw [List.map_eq_nil_iff, distinctBy_nil_iff, List.filter_eq_nil_iff]
  simp

/-- The ids that are not present lead back to their references. -/
theorem missingIdentities_pick :
    (((((references.map getMeadowlarkIdForDocumentReference).filter fun id =>
          ¬ present id).eraseDups).map
        (references.map getMeadowlarkIdForDocumentReference).idxOf).filterMap (references[·]?)).map
        missingIdentityOf = missingIdentities present references := by
  unfold missingIdentities
  rw [pick_distinct getMeadowlarkIdForDocumentReference references fun id => ¬ present id]

/-- A list is not shorter when fewer ids are present. -/
theorem missingIdentities_length_le {other : MeadowlarkId → Prop} [DecidablePred other]
    (implies : ∀ id, other id → present id) :
    (missingIdentities present references).length ≤ (missingIdentities other references).length := by
  have within : (distinctBy getMeadowlarkIdForDocumentReference (references.filter fun reference =>
        ¬ present (getMeadowlarkIdForDocumentReference reference))).map
          getMeadowlarkIdForDocumentReference ⊆
      (distinctBy getMeadowlarkIdForDocumentReference (references.filter fun reference =>
        ¬ other (getMeadowlarkIdForDocumentReference reference))).map
          getMeadowlarkIdForDocumentReference := ?_
  · have counted := (List.subperm_of_subset (nodup_distinctBy _ _) within).length_le
    rw [List.length_map, List.length_map] at counted
    unfold missingIdentities
    rw [List.length_map, List.length_map]
    exact counted
  intro id named
  obtain ⟨reference, listed, rfl⟩ := List.mem_map.mp named
  obtain ⟨inside, absent⟩ := List.mem_filter.mp (mem_of_mem_distinctBy _ listed)
  have stillAbsent : ¬ other (getMeadowlarkIdForDocumentReference reference) := by
    intro held
    simp only [decide_not, Bool.not_eq_true', decide_eq_false_iff_not] at absent
    exact absent (implies _ held)
  have selected : reference ∈ references.filter fun reference =>
      ¬ other (getMeadowlarkIdForDocumentReference reference) :=
    List.mem_filter.mpr ⟨inside, by simpa using stillAbsent⟩
  obtain ⟨first, firstListed, same⟩ :=
    exists_mem_distinctBy getMeadowlarkIdForDocumentReference selected
  exact List.mem_map.mpr ⟨first, firstListed, same⟩

/-- Lists of the same length agree on every reference. -/
theorem present_of_length {other : MeadowlarkId → Prop} [DecidablePred other]
    (implies : ∀ id, other id → present id)
    (counted : (missingIdentities other references).length =
      (missingIdentities present references).length) {reference : DocumentReference}
    (inside : reference ∈ references)
    (held : present (getMeadowlarkIdForDocumentReference reference)) :
    other (getMeadowlarkIdForDocumentReference reference) := by
  by_contra absent
  unfold missingIdentities at counted
  rw [List.length_map, List.length_map] at counted
  obtain ⟨first, -, same, missing⟩ := @selected_of_length _ _ _ getMeadowlarkIdForDocumentReference
    references (fun reference => ¬ present (getMeadowlarkIdForDocumentReference reference))
    (fun reference => ¬ other (getMeadowlarkIdForDocumentReference reference)) _ _
    (fun _ missing known => missing (implies _ known)) counted reference inside absent
  rw [same] at missing
  exact missing held

/-- The list depends only on which of its ids are present. -/
theorem missingIdentities_congr {other : MeadowlarkId → Prop} [DecidablePred other]
    (agree : ∀ reference ∈ references, present (getMeadowlarkIdForDocumentReference reference) ↔
      other (getMeadowlarkIdForDocumentReference reference)) :
    missingIdentities present references = missingIdentities other references := by
  unfold missingIdentities
  congr 2
  apply List.filter_congr
  intro reference inside
  simp only [agree reference inside]

end Meadowlark.Core
