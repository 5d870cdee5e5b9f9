import Meadowlark.Proof.Core.References
import Meadowlark.Construction.Postgres.Backend
import Meadowlark.Proof.Postgres.Sequential

namespace Meadowlark.Postgres
open Meadowlark.Core Systems

/-- Some alias row holds the id. -/
def Occurs (tables : Tables) (id : MeadowlarkId) : Prop :=
  id ∈ tables.aliases.map (·.aliasMeadowlarkId)

instance (tables : Tables) (id : MeadowlarkId) : Decidable (Occurs tables id) :=
  inferInstanceAs (Decidable (id ∈ _))

variable {committed tables : Tables} {ids : List MeadowlarkId}

theorem mem_aliasesAmong {id : MeadowlarkId} :
    id ∈ aliasesAmong tables ids ↔ id ∈ ids ∧ Occurs tables id := by
  unfold aliasesAmong Occurs
  simp only [List.mem_map, List.mem_filter, decide_eq_true_eq]
  constructor
  · rintro ⟨row, ⟨stored, wanted⟩, rfl⟩
    exact ⟨wanted, row, stored, rfl⟩
  · rintro ⟨wanted, row, stored, rfl⟩
    exact ⟨row, ⟨stored, wanted⟩, rfl⟩

/-- As many rows as ids are found only when every id occurs. -/
theorem occurs_of_length (unique : (tables.aliases.map (·.aliasMeadowlarkId)).Nodup)
    (counted : ids.length = (aliasesAmong tables ids).length) {id : MeadowlarkId}
    (inside : id ∈ ids) : Occurs tables id := by
  have distinct : (aliasesAmong tables ids).Nodup :=
    unique.sublist (List.filter_sublist.map _)
  have covers := covers_of_length distinct
    (fun other found => (mem_aliasesAmong.mp found).1) counted
  exact (mem_aliasesAmong.mp (covers id inside)).2

variable [NodeRuntime]

/-- The references of one list that the check reports are those whose id does not occur. -/
theorem missingFrom_eq (unique : (tables.aliases.map (·.aliasMeadowlarkId)).Nodup)
    (references : List DocumentReference) :
    missingFrom tables references = missingIdentities (Occurs tables) references := by
  unfold missingFrom
  dsimp only
  split
  · refine Eq.trans (@missingIdentities_pick _ (· ∈ aliasesAmong tables
      (references.map getMeadowlarkIdForDocumentReference)) _ references) ?_
    apply missingIdentities_congr
    intro reference inside
    rw [mem_aliasesAmong]
    exact and_iff_right (List.mem_map_of_mem inside)
  · rename_i counted
    rw [not_not] at counted
    symm
    rw [missingIdentities_nil_iff]
    intro reference inside
    exact occurs_of_length unique counted (List.mem_map_of_mem inside)

/-- The check reports no failure exactly when every referenced id occurs.
Otherwise it names the references of either list whose id does not occur, each id once for a list. -/
theorem validateReferences_exact [ColumnTypes]
    (unique : (tables.aliases.map (·.aliasMeadowlarkId)).Nodup)
    (documentReferences descriptorReferences : List DocumentReference) :
    ∃ failures, (working committed tables).run
        (validateReferences documentReferences descriptorReferences) =
          (.ok failures, working committed tables) ∧
      (failures = [] ↔ ∀ reference ∈ documentReferences ++ descriptorReferences,
        Occurs tables (getMeadowlarkIdForDocumentReference reference)) ∧
      failures = missingIdentities (Occurs tables) documentReferences ++
        missingIdentities (Occurs tables) descriptorReferences := by
  refine ⟨_, ?_, ?_, rfl⟩
  · unfold validateReferences
    rw [run_bind_ok (run_validateReferenceList _), run_bind_ok (run_validateReferenceList _),
      missingFrom_eq unique, missingFrom_eq unique]
    rfl
  · rw [List.append_eq_nil_iff, missingIdentities_nil_iff, missingIdentities_nil_iff]
    simp only [List.forall_mem_append]

section Sample
open Core.Sample Sample

/-- The aliases table holds one school. -/
def oneSchool : Tables :=
  { Tables.empty with aliases :=
      [⟨documentUuid "000000000001",
        @getMeadowlarkIdForDocumentReference runtime (reference "School" "schoolId" "1"),
        @getMeadowlarkIdForDocumentReference runtime (reference "School" "schoolId" "1")⟩] }

omit [NodeRuntime] in
/-- A school that is missing twice is named once. -/
theorem repeated_reference_named_once :
    ∃ failures, @Connection.run columns _ (working Tables.empty oneSchool)
        (@validateReferences runtime [reference "School" "schoolId" "1",
          reference "School" "schoolId" "2", reference "School" "schoolId" "2"] []) =
          (.ok failures, working Tables.empty oneSchool) ∧
      failures = [⟨"School", [("schoolId", .string "2")]⟩] := by
  obtain ⟨failures, done, -, named⟩ := @validateReferences_exact Tables.empty oneSchool runtime
    columns (List.nodup_singleton _) [reference "School" "schoolId" "1",
      reference "School" "schoolId" "2", reference "School" "schoolId" "2"] []
  refine ⟨failures, done, ?_⟩
  rw [named]
  decide +kernel

end Sample
end Meadowlark.Postgres
