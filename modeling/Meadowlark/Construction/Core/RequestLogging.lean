import Meadowlark.Construction.Core.Frontend
import Meadowlark.Systems.ObjectHeap

namespace Meadowlark.Core
open Systems

/-- The values of JavaScript that a parsed body holds and that are not objects. -/
inductive Scalar where
  | null
  | boolean (value : Bool)
  | number (text : String)
  | string (value : String)
  deriving DecidableEq

inductive ObjectKind where
  | plain
  | array
  deriving DecidableEq

abbrev RequestHeap := ObjectHeap ObjectKind String Scalar

section Anonymization

/-- The own properties that the spread of a value copies. -/
def ownProperties (heap : RequestHeap) : Slot Scalar → Mapping String (Slot Scalar)
  | .reference address =>
      match heap[address]? with
      | some object => object.properties
      | none => Mapping.empty
  | .scalar (.string value) => Mapping.empty.setAll (value.toList.zipIdx.map fun char =>
      (toString char.2, .scalar (.string (String.ofList [char.1]))))
  | .scalar _ => Mapping.empty

/-- A literal that spreads one value makes a new object, also from an array. -/
def shallowCopy (heap : RequestHeap) (slot : Slot Scalar) : Address × RequestHeap :=
  heap.allocate ⟨.plain, ownProperties heap slot⟩

/-- The names are those of the object at the start.
Only a reference is an instance of `Object`. -/
def anonymizeKeys (anonymizeObject : Address → RequestHeap → Option RequestHeap)
    (address : Address) : List String → RequestHeap → Option RequestHeap
  | [], heap => some heap
  | key :: rest, heap =>
      match (ownProperties heap (.reference address)).get? key with
      | some (.reference inner) => do
          let (copy, copied) := shallowCopy heap (.reference inner)
          let anonymized ← anonymizeObject copy copied
          anonymizeKeys anonymizeObject address rest
            (anonymized.assign address key (.reference copy))
      | _ => anonymizeKeys anonymizeObject address rest (heap.assign address key (.scalar .null))

/-- The object is changed in place; a recursion that is deeper than given has no result. -/
def anonymizeObject : Nat → Address → RequestHeap → Option RequestHeap
  | 0, _, _ => none
  | depth + 1, address, heap =>
      anonymizeKeys (anonymizeObject depth) address
        (ownProperties heap (.reference address)).keys heap

end Anonymization

/-- What is handed to the debug log about a request. -/
structure RequestLogEntry where
  message : String
  traceId : TraceId
  body : Slot Scalar
  deriving DecidableEq

/-- The two settings that decide about the log. -/
structure LogSettings where
  isDebugEnabled : Bool
  disableLogAnonymization : Bool
  deriving DecidableEq

/-- The request goes on with the same reference to its parsed body. -/
def logRequestBody (depth : Nat) (settings : LogSettings) (traceId : TraceId)
    (frontendResponse : Option FrontendResponse) (parsedBody : Slot Scalar) (heap : RequestHeap) :
    Option (Option RequestLogEntry × RequestHeap) :=
  match frontendResponse with
  | some _ => some (none, heap)
  | none =>
      if settings.isDebugEnabled then
        if settings.disableLogAnonymization then
          some (some ⟨"Original request body:", traceId, parsedBody⟩, heap)
        else do
          let (copy, copied) := shallowCopy heap parsedBody
          let anonymized ← anonymizeObject depth copy copied
          some (some ⟨"Anonymized request body:", traceId, .reference copy⟩, anonymized)
      else some (none, heap)

end Meadowlark.Core
