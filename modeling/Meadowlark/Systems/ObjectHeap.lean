import Meadowlark.Systems.Mappings

namespace Meadowlark.Systems

abbrev Address := Nat

/-- A property holds a scalar or the address of another object. -/
inductive Slot (Scalar : Type) where
  | scalar (content : Scalar)
  | reference (address : Address)
  deriving DecidableEq

/-- An object has its properties in an order, each name once. -/
structure HeapObject (Kind Name Scalar : Type) [DecidableEq Name] where
  kind : Kind
  properties : Mapping Name (Slot Scalar)

variable {Kind Name Scalar Value : Type} [DecidableEq Name]

/-- The address of an object is its place in the order of allocation. -/
abbrev ObjectHeap (Kind Name Scalar : Type) [DecidableEq Name] := List (HeapObject Kind Name Scalar)

section Cells
variable {heap following last : ObjectHeap Kind Name Scalar} {kept fewer : Address → Prop}
  {object : HeapObject Kind Name Scalar} {address : Address} {name : Name} {slot : Slot Scalar}

def HeapObject.assign (object : HeapObject Kind Name Scalar) (name : Name) (slot : Slot Scalar) :
    HeapObject Kind Name Scalar :=
  { object with properties := object.properties.set name slot }

/-- An object takes the next free address. -/
def ObjectHeap.allocate (heap : ObjectHeap Kind Name Scalar) (object : HeapObject Kind Name Scalar) :
    Address × ObjectHeap Kind Name Scalar := (heap.length, heap ++ [object])

def ObjectHeap.assign (heap : ObjectHeap Kind Name Scalar) (address : Address) (name : Name)
    (slot : Slot Scalar) : ObjectHeap Kind Name Scalar :=
  heap.modify address (·.assign name slot)

/-- The objects at the kept addresses are as before. -/
def KeepsObjects (kept : Address → Prop) (heap following : ObjectHeap Kind Name Scalar) : Prop :=
  ∀ address object, kept address → heap[address]? = some object → following[address]? = some object

theorem KeepsObjects.refl (kept : Address → Prop) (heap : ObjectHeap Kind Name Scalar) :
    KeepsObjects kept heap heap := fun _ _ _ read => read

theorem KeepsObjects.trans (first : KeepsObjects kept heap following)
    (second : KeepsObjects kept following last) : KeepsObjects kept heap last :=
  fun address object inside read => second address object inside (first address object inside read)

theorem KeepsObjects.mono (keeps : KeepsObjects kept heap following)
    (implies : ∀ address, fewer address → kept address) : KeepsObjects fewer heap following :=
  fun address object inside read => keeps address object (implies address inside) read

theorem KeepsObjects.length_le (keeps : KeepsObjects (fun _ => True) heap following) :
    heap.length ≤ following.length := by
  by_contra shorter
  have bound : following.length < heap.length := by omega
  have read := keeps _ _ trivial (List.getElem?_eq_getElem bound)
  rw [List.getElem?_eq_none (Nat.le_refl _)] at read
  cases read

theorem keepsObjects_allocate (kept : Address → Prop) (object : HeapObject Kind Name Scalar) :
    KeepsObjects kept heap (heap.allocate object).2 := by
  intro address stored _ read
  have bound := (List.getElem?_eq_some_iff.mp read).1
  unfold ObjectHeap.allocate
  rw [List.getElem?_append_left bound]
  exact read

theorem read_allocate : (heap.allocate object).2[(heap.allocate object).1]? = some object := by
  simp [ObjectHeap.allocate]

theorem keepsObjects_assign : KeepsObjects (· ≠ address) heap (heap.assign address name slot) := by
  intro other object different read
  unfold ObjectHeap.assign
  rw [List.getElem?_modify, read]
  simp [Ne.symm different]

theorem read_assign (read : heap[address]? = some object) :
    (heap.assign address name slot)[address]? = some (object.assign name slot) := by
  unfold ObjectHeap.assign
  rw [List.getElem?_modify, read]
  simp

@[simp] theorem length_assign : (heap.assign address name slot).length = heap.length := by
  unfold ObjectHeap.assign
  exact List.length_modify _ _ _

/-- An assignment to a property that the object has keeps its names. -/
theorem keys_assign (present : name ∈ object.properties.keys) :
    (object.assign name slot).properties.keys = object.properties.keys := by
  unfold HeapObject.assign Mapping.set
  dsimp only
  rw [dif_pos present]
  exact Mapping.keys_overwritten _ _ _

end Cells

section Representation
variable {view : Value → Scalar ⊕ Kind} {names : Value → List Name}
  {member : Value → Name → Option Value} {heap following : ObjectHeap Kind Name Scalar}
  {within wider : Address → Prop} {slot : Slot Scalar} {value : Value}

/-- A slot stands for a value: a scalar for itself, and a reference for an object whose properties
stand for the members of the value. All the objects are at addresses within the given ones. -/
inductive Represents (view : Value → Scalar ⊕ Kind) (names : Value → List Name)
    (member : Value → Name → Option Value) (heap : ObjectHeap Kind Name Scalar)
    (within : Address → Prop) : Slot Scalar → Value → Prop where
  | scalar {value : Value} {content : Scalar} (seen : view value = .inl content) :
      Represents view names member heap within (.scalar content) value
  | object {value : Value} {address : Address} {object : HeapObject Kind Name Scalar}
      (seen : view value = .inr object.kind) (inside : within address)
      (read : heap[address]? = some object) (named : object.properties.keys = names value)
      (members : ∀ name slot inner, object.properties.get? name = some slot →
        member value name = some inner →
          Represents view names member heap within slot inner) :
      Represents view names member heap within (.reference address) value

/-- A value stays represented while its objects are kept. -/
theorem Represents.keep (represents : Represents view names member heap within slot value)
    (keeps : KeepsObjects within heap following) :
    Represents view names member following within slot value := by
  induction represents with
  | scalar seen => exact .scalar seen
  | object seen inside read named members ih =>
      exact .object seen inside (keeps _ _ inside read) named ih

theorem Represents.widen (represents : Represents view names member heap within slot value)
    (implies : ∀ address, within address → wider address) :
    Represents view names member heap wider slot value := by
  induction represents with
  | scalar seen => exact .scalar seen
  | object seen inside read named members ih =>
      exact .object seen (implies _ inside) read named ih

/-- The objects of a represented value are on the heap. -/
theorem Represents.bound (represents : Represents view names member heap within slot value) :
    Represents view names member heap (· < heap.length) slot value := by
  induction represents with
  | scalar seen => exact .scalar seen
  | object seen inside read named members ih =>
      exact .object seen (List.getElem?_eq_some_iff.mp read).1 read named ih

end Representation
end Meadowlark.Systems
