import Meadowlark.Construction.Search.UpdateDocuments

namespace Meadowlark.Search
open Meadowlark.Core

theorem find_assign_self (fields : List (String × Json)) (name : String) (value : Json) :
    (Json.assign fields name value).find? (fun field => field.1 = name) = some (name, value) := by
  unfold Json.assign
  by_cases present : name ∈ fields.map Prod.fst
  · rw [if_pos present]
    induction fields with
    | nil => cases present
    | cons field rest ih =>
        by_cases same : field.1 = name
        · simp [same]
        · have later : name ∈ rest.map Prod.fst := by
            simpa [Ne.symm same] using present
          rw [List.map_cons, if_neg same, List.find?_cons_of_neg (by simpa using same)]
          exact ih later
  · rw [if_neg present, List.find?_append]
    have missing : fields.find? (fun field => field.1 = name) = none := by
      apply List.find?_eq_none.mpr
      intro field inside same
      exact present (List.mem_map.mpr ⟨field, inside, of_decide_eq_true same⟩)
    rw [missing]
    simp

theorem find_assign_other {fields : List (String × Json)} {name other : String} {value : Json}
    (different : other ≠ name) :
    (Json.assign fields other value).find? (fun field => field.1 = name) =
      fields.find? fun field => field.1 = name := by
  unfold Json.assign
  by_cases present : other ∈ fields.map Prod.fst
  · rw [if_pos present]
    clear present
    induction fields with
    | nil => rfl
    | cons field rest ih =>
        by_cases same : field.1 = other
        · have unlike : field.1 ≠ name := fun equal => different (same.symm.trans equal)
          rw [List.map_cons, if_pos same, List.find?_cons_of_neg (by simpa using different),
            List.find?_cons_of_neg (by simpa using unlike)]
          exact ih
        · rw [List.map_cons, if_neg same, List.find?_cons, List.find?_cons, ih]
  · rw [if_neg present, List.find?_append]
    simp [different]

/-- A body tells the client of the request that it has been written for. -/
theorem createdBy_bodyFrom (request : UpsertRequest) (documentUuid : DocumentUuid) :
    (bodyFrom request documentUuid).field? "createdBy" =
      some (.string request.security.clientId) := by
  unfold bodyFrom Json.spread Json.field?
  rw [List.flatten_cons, List.flatten_cons, List.foldl_append, List.foldl_append]
  simp only [List.flatten_cons, List.flatten_nil, List.append_nil, List.foldl_cons, List.foldl_nil,
    Json.entries]
  rw [find_assign_other (by decide), find_assign_other (by decide), find_assign_self]
  rfl

theorem find_foldl_other {added fields : List (String × Json)} {name : String}
    (absent : ∀ field ∈ added, field.1 ≠ name) :
    (added.foldl (fun fields field => Json.assign fields field.1 field.2) fields).find?
        (fun field => field.1 = name) = fields.find? fun field => field.1 = name := by
  induction added generalizing fields with
  | nil => rfl
  | cons field rest ih =>
      rw [List.foldl_cons, ih fun other inside => absent other (List.mem_cons_of_mem _ inside),
        find_assign_other (absent field List.mem_cons_self)]

/-- A document without a field of this name leaves the text of the entry as it is. -/
theorem info_bodyFrom {request : UpsertRequest} (plain : request.edfiDoc.field? "info" = none)
    (documentUuid : DocumentUuid) :
    (bodyFrom request documentUuid).field? "info" =
      some (.string (infoFrom documentUuid request.edfiDoc).stringify) := by
  have absent : ∀ field ∈ request.edfiDoc.entries, field.1 ≠ "info" := by
    intro field inside same
    have missing := List.find?_eq_none.mp (Option.map_eq_none_iff.mp plain) field inside
    exact missing (decide_eq_true same)
  have opened (fields : List (String × Json)) : (Json.object fields).entries = fields := rfl
  unfold bodyFrom Json.spread Json.field?
  rw [opened, List.flatten_cons, List.flatten_cons, List.foldl_append, List.foldl_append]
  simp only [List.flatten_cons, List.flatten_nil, List.append_nil, List.foldl_cons, List.foldl_nil]
  rw [find_assign_other (by decide), find_assign_other (by decide), find_assign_other (by decide),
    find_foldl_other absent, find_assign_self]
  rfl

end Meadowlark.Search
