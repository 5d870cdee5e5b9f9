import Mathlib.Tactic

namespace Meadowlark.Systems
variable {Key Value Name Row : Type} [DecidableEq Key] [DecidableEq Name]

/-- A second store keeps a row for every value, under a name that the value determines. -/
def Mirrors (name : Value → Name) (row : Key → Value → Row) (values : Key → Option Value)
    (rows : Name → Key → Option Row) : Prop :=
  ∀ given key, rows given key =
    (values key).bind fun value => if name value = given then some (row key value) else none

/-- The rows with another one, or with none, in one place. -/
def setRow (rows : Name → Key → Option Row) (name : Name) (key : Key) (row : Option Row) :
    Name → Key → Option Row :=
  fun given other => if given = name ∧ other = key then row else rows given other

section Rows
variable {rows : Name → Key → Option Row} {name : Name} {key : Key} {row : Option Row}

theorem setRow_self : setRow rows name key row name key = row :=
  if_pos ⟨rfl, rfl⟩

theorem setRow_other {given : Name} {other : Key} (apart : other ≠ key) :
    setRow rows name key row given other = rows given other :=
  if_neg fun same => apart same.2

theorem setRow_elsewhere {given : Name} (apart : given ≠ name) (other : Key) :
    setRow rows name key row given other = rows given other :=
  if_neg fun same => apart same.1

end Rows

variable {name : Value → Name} {row : Key → Value → Row} {values : Key → Option Value}
  {rows : Name → Key → Option Row} {key : Key}

omit [DecidableEq Key] in
theorem Mirrors.found (mirrors : Mirrors name row values rows) {value : Value}
    (stored : values key = some value) : rows (name value) key = some (row key value) := by
  rw [mirrors, stored, Option.bind_some, if_pos rfl]

omit [DecidableEq Key] in
/-- Every row of the second store comes from a value. -/
theorem Mirrors.origin (mirrors : Mirrors name row values rows) {given : Name} {entry : Row}
    (inside : rows given key = some entry) :
    ∃ value, values key = some value ∧ name value = given ∧ row key value = entry := by
  rw [mirrors, Option.bind_eq_some_iff] at inside
  obtain ⟨value, stored, inside⟩ := inside
  split at inside
  · rename_i named
    exact ⟨value, stored, named, Option.some.inj inside⟩
  · cases inside

/-- Whether one place changes in step with its key is seen in the rows under other names. -/
theorem mirrors_set_iff (mirrors : Mirrors name row values rows) {given : Name}
    {following : Option Value} (named : ∀ value ∈ following, name value = given) :
    Mirrors name row (Function.update values key following)
        (setRow rows given key (following.map (row key))) ↔
      ∀ value, values key = some value → name value = given := by
  constructor
  · intro kept value stored
    by_contra apart
    have left := kept (name value) key
    rw [setRow_elsewhere apart, mirrors.found stored, Function.update_self] at left
    obtain ⟨other, inside, shown⟩ := Option.bind_eq_some_iff.mp left.symm
    rw [if_neg (by rw [named other inside]; exact Ne.symm apart)] at shown
    cases shown
  · intro alike other anyKey
    by_cases same : anyKey = key
    · subst same
      rw [Function.update_self]
      by_cases here : other = given
      · subst here
        rw [setRow_self]
        cases following with
        | none => rfl
        | some value => rw [Option.map_some, Option.bind_some, if_pos (named value rfl)]
      · rw [setRow_elsewhere here]
        have empty : rows other anyKey = none := by
          cases inside : rows other anyKey with
          | none => rfl
          | some entry =>
              obtain ⟨value, stored, known, -⟩ := mirrors.origin inside
              exact absurd (known.symm.trans (alike value stored)) here
        rw [empty]
        cases following with
        | none => rfl
        | some value =>
            rw [Option.bind_some, if_neg (by rw [named value rfl]; exact Ne.symm here)]
    · rw [setRow_other same, Function.update_of_ne same]
      exact mirrors other anyKey

end Meadowlark.Systems
