import Meadowlark.Construction.Core.Frontend
import Meadowlark.Systems.Selections

namespace Meadowlark.Core
open Systems

namespace Json

/-- The members of a value in their order. -/
def members : Json → List Json
  | .array elements => elements
  | .object fields => fields.map Prod.snd
  | _ => []

/-- The values that have the type `PrimitiveType`. -/
def isPrimitive : Json → Bool
  | .boolean _ => true
  | .number _ => true
  | .string _ => true
  | _ => false

/-- The elements of an array take its place. -/
def unpack : Json → List Json
  | .array elements => elements
  | value => [value]

theorem unpack_primitive {value : Json} (primitive : value.isPrimitive = true) :
    value.unpack = [value] := by
  cases value with
  | array elements => exact absurd primitive Bool.false_ne_true
  | _ => rfl

/-- The values that a path addresses in a document, in document order. -/
def addressed (steps : List (Step String)) (document : Json) : List Json :=
  select field? members steps document

end Json

section Paths

/-- The characters of a step in a path expression. -/
def stepText : Step String → List Char
  | .member name => '.' :: name.toList
  | .every => ['[', '*', ']']

/-- The path expression of a list of steps, such as `$.classPeriods[*].classPeriodReference`. -/
def jsonPathOf (steps : List (Step String)) : String := String.ofList ('$' :: steps.flatMap stepText)

def isNameChar (char : Char) : Bool := char.isAlphanum || char == '_'

/-- A plain name is an identifier that only objects have as a property. -/
def isPlainName (name : String) : Bool :=
  name.toList.all isNameChar && name.toList.head?.any (! ·.isDigit) && name != "length"

def isPlainStep : Step String → Bool
  | .member name => isPlainName name
  | .every => true

end Paths

section Library

/-- The third party function that evaluates a path expression.
It is called with the flag that flattens the results or without wrapping them.
No value stands for undefined, and a call without a path throws an error. -/
class JsonPathLibrary where
  flattened : String → Json → List Json
  unwrapped : String → Json → Option Json
  missingPath : Exception

/-- A path of plain steps gives the values that it addresses.
A primitive value that is not wrapped is the only result. -/
class LawfulJsonPathLibrary [JsonPathLibrary] : Prop where
  flattened_plain (steps : List (Step String)) (document : Json)
    (plain : ∀ step ∈ steps, isPlainStep step = true) :
    JsonPathLibrary.flattened (jsonPathOf steps) document =
      (document.addressed steps).flatMap Json.unpack
  flattened_primitive (path : String) (document value : Json)
    (found : JsonPathLibrary.unwrapped path document = some value)
    (primitive : value.isPrimitive = true) :
    JsonPathLibrary.flattened path document = [value]

end Library
end Meadowlark.Core
