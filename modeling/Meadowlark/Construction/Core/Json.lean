import Mathlib.Tactic

namespace Meadowlark.Core

/-- A JSON value keeps its fields in order.
A number is the text that JavaScript prints for it. -/
inductive Json where
  | null
  | boolean (value : Bool)
  | number (text : String)
  | string (value : String)
  | array (elements : List Json)
  | object (fields : List (String × Json))

namespace Json

instance : Inhabited Json := ⟨.null⟩

mutual
/-- Two values are equal when they agree constructor by constructor. -/
def beq : Json → Json → Bool
  | .null, .null => true
  | .boolean first, .boolean second => first == second
  | .number first, .number second => first == second
  | .string first, .string second => first == second
  | .array first, .array second => beqElements first second
  | .object first, .object second => beqFields first second
  | _, _ => false

def beqElements : List Json → List Json → Bool
  | [], [] => true
  | first :: firstRest, second :: secondRest => beq first second && beqElements firstRest secondRest
  | _, _ => false

def beqFields : List (String × Json) → List (String × Json) → Bool
  | [], [] => true
  | (firstName, first) :: firstRest, (secondName, second) :: secondRest =>
      firstName == secondName && beq first second && beqFields firstRest secondRest
  | _, _ => false
end

mutual
theorem beq_iff : (first second : Json) → (beq first second = true ↔ first = second)
  | .null, second => by cases second <;> simp [beq]
  | .boolean first, second => by cases second <;> simp [beq]
  | .number first, second => by cases second <;> simp [beq]
  | .string first, second => by cases second <;> simp [beq]
  | .array first, second => by cases second <;> simp [beq, beqElements_iff first]
  | .object first, second => by cases second <;> simp [beq, beqFields_iff first]

theorem beqElements_iff :
    (first second : List Json) → (beqElements first second = true ↔ first = second)
  | [], second => by cases second <;> simp [beqElements]
  | first :: rest, second => by
      cases second <;> simp [beqElements, beq_iff first, beqElements_iff rest]

theorem beqFields_iff :
    (first second : List (String × Json)) → (beqFields first second = true ↔ first = second)
  | [], second => by cases second <;> simp [beqFields]
  | (name, first) :: rest, second => by
      cases second <;>
        simp [beqFields, beq_iff first, beqFields_iff rest, Prod.ext_iff, and_assoc]
end

instance : DecidableEq Json := fun first second =>
  decidable_of_iff (beq first second = true) (beq_iff first second)

/-- An assignment keeps the position of a field that already exists. -/
def assign (fields : List (String × Json)) (name : String) (value : Json) :
    List (String × Json) :=
  if name ∈ fields.map Prod.fst then
    fields.map fun field => if field.1 = name then (name, value) else field
  else fields ++ [(name, value)]

/-- The own enumerable properties of a value in their order. -/
def entries : Json → List (String × Json)
  | .object fields => fields
  | .array elements => elements.zipIdx.map fun element => (toString element.2, element.1)
  | .string value =>
      value.toList.zipIdx.map fun char => (toString char.2, .string (String.ofList [char.1]))
  | _ => []

/-- An object literal spreads the entries of each part over the earlier parts. -/
def spread (parts : List (List (String × Json))) : Json :=
  .object (parts.flatten.foldl (fun fields field => assign fields field.1 field.2) [])

/-- The lookup answers nothing for an absent property. -/
def field? (value : Json) (name : String) : Option Json :=
  (value.entries.find? fun field => field.1 = name).map Prod.snd

/-- A value counts as true in a condition unless it is empty. -/
def isTruthy : Json → Bool
  | .null => false
  | .boolean value => value
  | .number text => text ≠ "0"
  | .string value => value ≠ ""
  | .array _ => true
  | .object _ => true

/-- An undefined value and the null value are alike for a loose comparison. -/
def isNullish (value : Option Json) : Bool := value.all (· = .null)

mutual
/-- The text of a value inside a template literal. -/
def toTemplateText : Json → String
  | .null => "null"
  | .boolean value => if value then "true" else "false"
  | .number text => text
  | .string value => value
  | .array elements => ",".intercalate (elementTexts elements)
  | .object _ => "[object Object]"

def elementTexts : List Json → List String
  | [] => []
  | .null :: rest => "" :: elementTexts rest
  | element :: rest => toTemplateText element :: elementTexts rest
end

end Json
end Meadowlark.Core
