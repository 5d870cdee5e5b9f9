import Mathlib.Tactic

namespace Meadowlark.Systems
open scoped List
variable {Item Key Row : Type} [DecidableEq Key] {key : Item → Key} {owner : Row → Key}
  {rows : List Row} {items following : List Item} {rowsOf rowsAfter : Item → List Row}

/-- Every row of an item carries the key of the item. -/
def Owned (key : Item → Key) (owner : Row → Key) (rowsOf : Item → List Row) : Prop :=
  ∀ item, ∀ row ∈ rowsOf item, owner row = key item

/-- The rows of the other keys are the image of the other items. -/
theorem image_filter (image : rows ~ items.flatMap rowsOf) (owned : Owned key owner rowsOf)
    (dropped : Key) :
    rows.filter (owner · ≠ dropped) ~ (items.filter (key · ≠ dropped)).flatMap rowsOf := by
  refine (image.filter _).trans (List.Perm.of_eq ?_)
  clear image
  induction items with
  | nil => rfl
  | cons item rest ih =>
      rw [List.flatMap_cons, List.filter_append, ih, List.filter_cons]
      by_cases same : key item = dropped
      · have none : (rowsOf item).filter (owner · ≠ dropped) = [] := by
          rw [List.filter_eq_nil_iff]
          intro row inside
          simp [owned item row inside, same]
        rw [none, if_neg (by simpa using same)]
        rfl
      · have kept : (rowsOf item).filter (owner · ≠ dropped) = rowsOf item := by
          rw [List.filter_eq_self]
          intro row inside
          simp [owned item row inside, same]
        rw [kept, if_pos (by simpa using same), List.flatMap_cons]

/-- A write drops the rows of the old key and adds the rows of the written item. -/
theorem image_write (image : rows ~ items.flatMap rowsOf) (owned : Owned key owner rowsOf)
    {dropped : Key} {written : Item}
    (split : following ~ items.filter (key · ≠ dropped) ++ [written])
    (same : ∀ item ∈ items, key item ≠ dropped → rowsAfter item = rowsOf item) :
    rows.filter (owner · ≠ dropped) ++ rowsAfter written ~ following.flatMap rowsAfter := by
  have kept : (items.filter (key · ≠ dropped)).flatMap rowsOf =
      (items.filter (key · ≠ dropped)).flatMap rowsAfter := by
    apply List.flatMap_congr
    intro item inside
    obtain ⟨stored, different⟩ := List.mem_filter.mp inside
    exact (same item stored (by simpa using different)).symm
  calc rows.filter (owner · ≠ dropped) ++ rowsAfter written
    _ ~ (items.filter (key · ≠ dropped)).flatMap rowsAfter ++ rowsAfter written :=
        (kept ▸ image_filter image owned dropped).append_right _
    _ ~ (items.filter (key · ≠ dropped) ++ [written]).flatMap rowsAfter := by simp
    _ ~ following.flatMap rowsAfter := split.symm.flatMap_right _

section Selections
variable {kept selected : Row → Prop} [DecidablePred kept] [DecidablePred selected]

/-- A filter that keeps the selected rows does not change their selection. -/
theorem filter_spared (spared : ∀ row ∈ rows, selected row → kept row) :
    (rows.filter (kept ·)).filter (selected ·) = rows.filter (selected ·) := by
  rw [List.filter_filter]
  apply List.filter_congr
  intro row inside
  by_cases chosen : selected row
  · simp [chosen, spared row inside chosen]
  · simp [chosen]

/-- Neither do rows that are added outside of it. -/
theorem filter_rewritten {added : List Row} (spared : ∀ row ∈ rows, selected row → kept row)
    (apart : ∀ row ∈ added, ¬ selected row) :
    (rows.filter (kept ·) ++ added).filter (selected ·) = rows.filter (selected ·) := by
  have none : added.filter (selected ·) = [] := by
    apply List.filter_eq_nil_iff.mpr
    intro row inside
    simpa using apart row inside
  rw [List.filter_append, filter_spared spared, none, List.append_nil]

end Selections
end Meadowlark.Systems
