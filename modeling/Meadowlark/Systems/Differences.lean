import Mathlib.Tactic

namespace Meadowlark.Systems
variable {A B : Type} [DecidableEq A]

/-- The number of positions at which two lists hold different items. -/
def differences : List A → List A → Nat
  | first :: rest, other :: others => (if first = other then 0 else 1) + differences rest others
  | _, _ => 0

theorem differences_self (items : List A) : differences items items = 0 := by
  induction items with
  | nil => rfl
  | cons first rest ih => rw [differences, if_pos rfl, ih]

theorem differences_append {front other : List A} (same : front.length = other.length)
    (back others : List A) :
    differences (front ++ back) (other ++ others) = differences front other + differences back others := by
  induction front generalizing other with
  | nil =>
      obtain rfl := List.length_eq_zero_iff.mp same.symm
      simp [differences]
  | cons first rest ih =>
      obtain ⟨second, remaining, rfl⟩ := List.exists_cons_of_length_eq_add_one same.symm
      simp only [List.cons_append, differences]
      rw [ih (by simpa using same), Nat.add_assoc]

/-- Lists without a difference are equal. -/
theorem eq_of_differences {items others : List A} (same : items.length = others.length)
    (none : differences items others = 0) : items = others := by
  induction items generalizing others with
  | nil => exact (List.length_eq_zero_iff.mp same.symm).symm
  | cons first rest ih =>
      obtain ⟨second, remaining, rfl⟩ := List.exists_cons_of_length_eq_add_one same.symm
      simp only [differences, Nat.add_eq_zero_iff] at none
      have equal : first = second := by
        by_contra other
        simp [other] at none
      rw [equal, ih (by simpa using same) none.2]

theorem differences_triangle {items between others : List A} (left : items.length = between.length)
    (right : between.length = others.length) :
    differences items others ≤ differences items between + differences between others := by
  induction items generalizing between others with
  | nil => simp [differences]
  | cons first rest ih =>
      obtain ⟨second, middle, rfl⟩ := List.exists_cons_of_length_eq_add_one left.symm
      obtain ⟨third, remaining, rfl⟩ := List.exists_cons_of_length_eq_add_one right.symm
      have later := @ih middle remaining (by simpa using left) (by simpa using right)
      have here : (if first = third then 0 else 1) ≤
          (if first = second then 0 else 1) + (if second = third then 0 else 1) := by
        split_ifs <;> simp_all
      simp only [differences]
      omega

/-- Steps that each change a bounded number of items bring a list at most their sum nearer to a target. -/
theorem differences_foldl {change : List A → B → List A} {cost : B → Nat} {steps : List B}
    (keeps : ∀ step ∈ steps, ∀ items, (change items step).length = items.length)
    (bounded : ∀ step ∈ steps, ∀ items, differences items (change items step) ≤ cost step)
    {items target : List A} (same : items.length = target.length) :
    differences items target ≤ (steps.map cost).sum + differences (steps.foldl change items) target := by
  induction steps generalizing items with
  | nil => simp
  | cons step steps ih =>
      have kept := keeps step List.mem_cons_self items
      have near := bounded step List.mem_cons_self items
      have later := @ih (fun next listed => keeps next (List.mem_cons_of_mem step listed))
        (fun next listed => bounded next (List.mem_cons_of_mem step listed)) (change items step)
        (kept.trans same)
      have between := @differences_triangle _ _ items (change items step) target kept.symm
        (kept.trans same)
      simp only [List.foldl_cons, List.map_cons, List.sum_cons]
      omega

end Meadowlark.Systems
