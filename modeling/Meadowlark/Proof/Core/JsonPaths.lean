import Meadowlark.Construction.Core.JsonPaths
import Mathlib.Data.List.TakeWhile

namespace Meadowlark.Core
open Systems

section Reading

/-- The steps of a path expression after its root. -/
def readSteps : Nat → List Char → Option (List (Step String))
  | _, [] => some []
  | fuel + 1, '[' :: '*' :: ']' :: rest => (readSteps fuel rest).map (.every :: ·)
  | fuel + 1, '.' :: rest =>
      (readSteps fuel (rest.dropWhile isNameChar)).map
        (.member (String.ofList (rest.takeWhile isNameChar)) :: ·)
  | _, _ => none

def readPath (path : String) : Option (List (Step String)) :=
  match path.toList with
  | '$' :: rest => readSteps rest.length rest
  | _ => none

/-- A name ends before the next step. -/
theorem stepText_head (steps : List (Step String)) :
    ∀ char, (steps.flatMap stepText).head? = some char → isNameChar char = false := by
  intro char first
  cases steps with
  | nil => cases first
  | cons step rest =>
      cases step with
      | member name =>
          cases first
          rfl
      | every =>
          cases first
          rfl

theorem name_ends {name rest : List Char} (named : name.all isNameChar = true)
    (ends : ∀ char, rest.head? = some char → isNameChar char = false) :
    (name ++ rest).takeWhile isNameChar = name ∧ (name ++ rest).dropWhile isNameChar = rest := by
  have all : ∀ char ∈ name, isNameChar char = true := List.all_eq_true.mp named
  rw [List.takeWhile_append_of_pos all, List.dropWhile_append_of_pos all]
  cases rest with
  | nil => simp
  | cons char rest =>
      have other := ends char rfl
      simp [other]

/-- The steps of a path expression are read back. -/
theorem readSteps_text {steps : List (Step String)} {fuel : Nat}
    (plain : ∀ step ∈ steps, isPlainStep step = true)
    (enough : (steps.flatMap stepText).length ≤ fuel) :
    readSteps fuel (steps.flatMap stepText) = some steps := by
  induction steps generalizing fuel with
  | nil => cases fuel <;> rfl
  | cons step rest ih =>
      have restPlain : ∀ step ∈ rest, isPlainStep step = true := fun other inside =>
        plain other (List.mem_cons_of_mem _ inside)
      rw [List.flatMap_cons, List.length_append] at enough
      cases step with
      | member name =>
          have named : name.toList.all isNameChar = true := by
            have plainName := plain (.member name) List.mem_cons_self
            unfold isPlainStep isPlainName at plainName
            simp only [Bool.and_eq_true] at plainName
            exact plainName.1.1
          obtain ⟨taken, dropped⟩ := name_ends named (stepText_head rest)
          rw [stepText, List.length_cons] at enough
          cases fuel with
          | zero => omega
          | succ fuel =>
              have read := @ih fuel restPlain (by omega)
              rw [List.flatMap_cons, stepText, List.cons_append, readSteps, taken, dropped, read,
                String.ofList_toList]
              rfl
      | every =>
          rw [stepText, List.length_cons] at enough
          cases fuel with
          | zero => omega
          | succ fuel =>
              have read := @ih fuel restPlain (by omega)
              change (readSteps fuel (rest.flatMap stepText)).map (.every :: ·) = _
              rw [read]
              rfl

theorem readPath_jsonPathOf {steps : List (Step String)}
    (plain : ∀ step ∈ steps, isPlainStep step = true) :
    readPath (jsonPathOf steps) = some steps := by
  unfold readPath jsonPathOf
  rw [String.toList_ofList]
  exact readSteps_text plain le_rfl

end Reading

namespace Sample

/-- A single result is not wrapped unless the path goes to every member of a value. -/
def unwrappedResult (collects : Bool) : List Json → Option Json
  | [] => none
  | [value] => if collects then some (.array [value]) else some value
  | values => some (.array values)

theorem unwrappedResult_primitive {collects : Bool} {values : List Json} {value : Json}
    (found : unwrappedResult collects values = some value) (primitive : value.isPrimitive = true) :
    values = [value] := by
  match values with
  | [] => cases found
  | [single] =>
      change (if collects then some (Json.array [single]) else some single) = some value at found
      by_cases collected : collects
      · rw [if_pos collected] at found
        cases found
        exact absurd primitive Bool.false_ne_true
      · rw [if_neg collected] at found
        cases found
        rfl
  | first :: second :: rest =>
      cases found
      exact absurd primitive Bool.false_ne_true

/-- An evaluation of the paths that have only names and wildcards. -/
abbrev jsonPaths : JsonPathLibrary where
  flattened path document :=
    match readPath path with
    | some steps => (document.addressed steps).flatMap Json.unpack
    | none => []
  unwrapped path document :=
    match readPath path with
    | some steps => unwrappedResult (.every ∈ steps) (document.addressed steps)
    | none => none
  missingPath := typeError
    "You must supply a \"path\" property when providing an object argument to JSONPath.evaluate()."

theorem jsonPaths_lawful : @LawfulJsonPathLibrary jsonPaths := by
  refine @LawfulJsonPathLibrary.mk jsonPaths ?_ ?_
  · intro steps document plain
    change (match readPath (jsonPathOf steps) with
      | some steps => (document.addressed steps).flatMap Json.unpack
      | none => []) = _
    rw [readPath_jsonPathOf plain]
  · intro path document value found primitive
    change (match readPath path with
      | some steps => unwrappedResult (.every ∈ steps) (document.addressed steps)
      | none => none) = some value at found
    change (match readPath path with
      | some steps => (document.addressed steps).flatMap Json.unpack
      | none => []) = [value]
    cases read : readPath path with
    | none =>
        rw [read] at found
        cases found
    | some steps =>
        rw [read] at found
        change (document.addressed steps).flatMap Json.unpack = [value]
        rw [unwrappedResult_primitive found primitive, List.flatMap_singleton,
          Json.unpack_primitive primitive]

end Sample
end Meadowlark.Core
