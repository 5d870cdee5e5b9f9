import Mathlib.Tactic

namespace Meadowlark.Systems
variable {A : Type} {value next other front : List A} {separator : List A}
  {rest others : List (List A × List A)}

/-- The text of a first value and of the later values, each after its separator. -/
def join (value : List A) : List (List A × List A) → List A
  | [] => value
  | (separator, next) :: rest => value ++ separator ++ join next rest

theorem join_append (front value : List A) (rest : List (List A × List A)) :
    join (front ++ value) rest = front ++ join value rest := by
  cases rest with
  | nil => rfl
  | cons segment rest => simp [join]

theorem initial_join (value : List A) (rest : List (List A × List A)) : value <+: join value rest := by
  cases rest with
  | nil => exact List.prefix_rfl
  | cons segment rest => exact ⟨segment.1 ++ join segment.2 rest, by simp [join]⟩

/-- The separator is found nowhere in the two values that it stands between. -/
structure SeparatedBy (separator value next : List A) : Prop where
  before {front back : List A} : value ++ separator = front ++ separator ++ back → back = []
  after {front back : List A} : separator ++ next = front ++ separator ++ back → front = []

/-- A separator is told from values that do not hold its first item. -/
theorem separatedBy_of_head {head : A} {tail : List A} (once : head ∉ tail) (before : head ∉ value)
    (after : head ∉ next) : SeparatedBy (head :: tail) value next := by
  classical
  constructor
  · intro front back found
    have counted := congrArg (List.count head) found
    have unmarked : head ∉ front := by
      rw [← List.count_eq_zero]
      simp only [List.count_append, List.count_cons_self, List.count_eq_zero.mpr before,
        List.count_eq_zero.mpr once] at counted
      omega
    have positions := congrArg (List.idxOf head) found
    rw [List.append_assoc, List.idxOf_append_of_notMem before, List.idxOf_append_of_notMem unmarked]
      at positions
    have lengths := congrArg List.length found
    simp only [List.cons_append, List.idxOf_cons_self, List.length_append, List.length_cons]
      at positions lengths
    exact List.eq_nil_of_length_eq_zero (by omega)
  · intro front back found
    have counted := congrArg (List.count head) found
    have unmarked : head ∉ front := by
      rw [← List.count_eq_zero]
      simp only [List.count_append, List.count_cons_self, List.count_eq_zero.mpr after,
        List.count_eq_zero.mpr once] at counted
      omega
    have positions := congrArg (List.idxOf head) found
    rw [List.append_assoc, List.idxOf_append_of_notMem unmarked] at positions
    simp only [List.cons_append, List.idxOf_cons_self] at positions
    exact List.eq_nil_of_length_eq_zero (by omega)

/-- Every separator can be told from the two values that it stands between. -/
def Legible (value : List A) : List (List A × List A) → Prop
  | [] => True
  | (separator, next) :: rest => SeparatedBy separator value next ∧ Legible next rest

/-- Another reading cannot end its first value earlier. -/
theorem SeparatedBy.length_le {tail otherTail : List A} (separated : SeparatedBy separator value next)
    (same : value ++ separator ++ tail = other ++ separator ++ otherTail) :
    value.length ≤ other.length := by
  by_contra short
  have first : value ++ separator <+: value ++ separator ++ tail := List.prefix_append _ _
  have second : other ++ separator <+: value ++ separator ++ tail := by
    rw [same]
    exact List.prefix_append _ _
  have lengths : (other ++ separator).length ≤ (value ++ separator).length := by
    simp only [List.length_append]
    omega
  obtain ⟨back, found⟩ := List.prefix_of_prefix_length_le second first lengths
  have empty := separated.before found.symm
  rw [empty, List.append_nil] at found
  have equal := congrArg List.length found
  simp only [List.length_append] at equal
  omega

/-- Another reading of the end of a text cannot end its first value later.
The induction is on the separators, and the last one decides. -/
theorem Legible.length_le (legible : Legible value rest) (some : rest ≠ [])
    (aligned : others.map Prod.fst = rest.map Prod.fst)
    (same : join value rest = front ++ join other others) :
    front.length + other.length ≤ value.length := by
  induction rest generalizing value other others front with
  | nil => exact absurd rfl some
  | cons segment rest ih =>
      obtain ⟨separator, next⟩ := segment
      obtain ⟨separated, legible⟩ := legible
      cases others with
      | nil => cases aligned
      | cons otherSegment others =>
          obtain ⟨otherSeparator, otherNext⟩ := otherSegment
          rw [List.map_cons, List.map_cons, List.cons.injEq] at aligned
          obtain ⟨rfl, aligned⟩ := aligned
          simp only [join] at same
          by_contra far
          have first : value <+: value ++ otherSeparator ++ join next rest :=
            ⟨otherSeparator ++ join next rest, by simp⟩
          have second : front ++ other <+: value ++ otherSeparator ++ join next rest := by
            rw [same]
            exact ⟨otherSeparator ++ join otherNext others, by simp⟩
          obtain ⟨shift, shifted⟩ := List.prefix_of_prefix_length_le first second
            (by rw [List.length_append]; omega)
          have moved : shift ≠ [] := by
            rintro rfl
            have equal := congrArg List.length shifted
            simp only [List.append_nil, List.length_append] at equal
            omega
          have remaining : otherSeparator ++ join next rest =
              shift ++ otherSeparator ++ join otherNext others := by
            refine @List.append_cancel_left _ value _ _ ?_
            calc value ++ (otherSeparator ++ join next rest)
                = front ++ (other ++ otherSeparator ++ join otherNext others) := by
                  rw [← List.append_assoc, same]
              _ = value ++ shift ++ (otherSeparator ++ join otherNext others) := by
                  rw [shifted]
                  simp
              _ = value ++ (shift ++ otherSeparator ++ join otherNext others) := by simp
          -- The text of the other next value still lies before the end of the next value.
          have inside : shift.length + otherNext.length ≤ next.length ∨ rest = [] := by
            by_cases last : rest = []
            · exact .inr last
            · left
              have suffix : join next rest =
                  (shift ++ otherSeparator).drop otherSeparator.length ++ join otherNext others := by
                have dropped := congrArg (List.drop otherSeparator.length) remaining
                rw [List.drop_left, List.drop_append_of_le_length (by simp)] at dropped
                exact dropped
              have shorter := ih legible last aligned suffix
              rw [List.length_drop, List.length_append] at shorter
              omega
          have nextPrefix : otherSeparator ++ next <+: otherSeparator ++ join next rest :=
            (List.prefix_append_right_inj _).mpr (initial_join _ _)
          have otherPrefix : shift ++ otherSeparator ++ otherNext <+:
              otherSeparator ++ join next rest := by
            rw [remaining]
            exact (List.prefix_append_right_inj _).mpr (initial_join _ _)
          have found : shift ++ otherSeparator ++ otherNext <+: otherSeparator ++ next := by
            rcases inside with inside | rfl
            · apply List.prefix_of_prefix_length_le otherPrefix nextPrefix
              simp only [List.length_append]
              omega
            · exact otherPrefix
          obtain ⟨back, found⟩ := found
          rw [List.append_assoc] at found
          exact moved (separated.after found.symm)

/-- A legible text has one reading. -/
theorem Legible.unique (legible : Legible value rest)
    (aligned : others.map Prod.fst = rest.map Prod.fst)
    (same : join other others = join value rest) : other = value ∧ others = rest := by
  induction rest generalizing value other others with
  | nil =>
      obtain rfl := List.map_eq_nil_iff.mp aligned
      exact ⟨same, rfl⟩
  | cons segment rest ih =>
      have later : ([] : List A).length + other.length ≤ value.length :=
        legible.length_le (by simp) aligned same.symm
      obtain ⟨separator, next⟩ := segment
      obtain ⟨separated, legible⟩ := legible
      cases others with
      | nil => cases aligned
      | cons otherSegment others =>
          obtain ⟨otherSeparator, otherNext⟩ := otherSegment
          rw [List.map_cons, List.map_cons, List.cons.injEq] at aligned
          obtain ⟨rfl, aligned⟩ := aligned
          simp only [join, List.append_assoc] at same
          have earlier := separated.length_le (by simpa using same.symm)
          obtain ⟨rfl, tails⟩ := List.append_inj same (by simp at later; omega)
          obtain ⟨rfl, rfl⟩ := ih legible aligned (List.append_cancel_left tails)
          exact ⟨rfl, rfl⟩

/-- A text with one reading is legible. -/
theorem legible_of_unique
    (unique : ∀ other others, others.map Prod.fst = rest.map Prod.fst →
      join other others = join value rest → other = value ∧ others = rest) :
    Legible value rest := by
  induction rest generalizing value with
  | nil => exact trivial
  | cons segment rest ih =>
      obtain ⟨separator, next⟩ := segment
      refine ⟨⟨?_, ?_⟩, ih ?_⟩
      · intro front back found
        have reading := unique front ((separator, back ++ next) :: rest) rfl (by
          simp only [join]
          rw [join_append, found]
          simp)
        rw [reading.1] at found
        simpa using found
      · intro front back found
        have reading := unique (value ++ front) ((separator, back) :: rest) rfl (by
          have moved := congrArg (fun text => value ++ join text rest) found
          simpa [join, join_append] using moved.symm)
        simpa using reading.1
      · intro other others aligned same
        have reading := unique value ((separator, other) :: others) (by simp [aligned]) (by
          simp only [join]
          rw [same])
        obtain ⟨segmentSame, restSame⟩ := List.cons.inj reading.2
        exact ⟨(Prod.mk.inj segmentSame).2, restSame⟩

end Meadowlark.Systems
