import Meadowlark.Construction.Core.RequestLogging

namespace Meadowlark.Core
open Systems

namespace Json

/-- A value on the heap is a scalar or an object of one kind. -/
def view : Json → Scalar ⊕ ObjectKind
  | .null => .inl .null
  | .boolean value => .inl (.boolean value)
  | .number text => .inl (.number text)
  | .string value => .inl (.string value)
  | .array _ => .inr .array
  | .object _ => .inr .plain

def names (value : Json) : List String := value.entries.map Prod.fst

/-- Only an object or an array has members. -/
def member? (value : Json) (name : String) : Option Json :=
  match value.view with
  | .inl _ => none
  | .inr _ => value.field? name

/-- The value at the end of a path of keys and indices. -/
def valueAt : Json → List String → Option Json
  | value, [] => some value
  | value, name :: rest => (value.member? name).bind fun inner => inner.valueAt rest

mutual
/-- The value with null in the place of every scalar; an array becomes an object. -/
def anonymized : Json → Json
  | .object fields => .object (anonymizedFields fields)
  | .array elements => .object (anonymizedElements 0 elements)
  | _ => .null

def anonymizedFields : List (String × Json) → List (String × Json)
  | [] => []
  | (name, value) :: rest => (name, anonymized value) :: anonymizedFields rest

def anonymizedElements : Nat → List Json → List (String × Json)
  | _, [] => []
  | index, value :: rest => (toString index, anonymized value) :: anonymizedElements (index + 1) rest
end

mutual
/-- Two values that differ in their scalars only. -/
def sameShape : Json → Json → Bool
  | .object first, .object second => sameFields first second
  | .array first, .array second => sameElements first second
  | .object _, _ => false
  | .array _, _ => false
  | _, .object _ => false
  | _, .array _ => false
  | _, _ => true

def sameFields : List (String × Json) → List (String × Json) → Bool
  | [], [] => true
  | (firstName, first) :: firstRest, (secondName, second) :: secondRest =>
      firstName == secondName && sameShape first second && sameFields firstRest secondRest
  | _, _ => false

def sameElements : List Json → List Json → Bool
  | [], [] => true
  | first :: firstRest, second :: secondRest =>
      sameShape first second && sameElements firstRest secondRest
  | _, _ => false
end

theorem anonymizedFields_eq (fields : List (String × Json)) :
    anonymizedFields fields = fields.map fun field => (field.1, field.2.anonymized) := by
  induction fields with
  | nil => simp [anonymizedFields]
  | cons field rest ih => simp [anonymizedFields, ih]

theorem anonymizedElements_eq (index : Nat) (elements : List Json) :
    anonymizedElements index elements =
      (elements.zipIdx index).map fun element => (toString element.2, element.1.anonymized) := by
  induction elements generalizing index with
  | nil => simp [anonymizedElements]
  | cons element rest ih => simp [anonymizedElements, ih]

theorem anonymized_scalar {value : Json} {content : Scalar} (seen : value.view = .inl content) :
    value.anonymized = .null := by
  cases value with
  | array elements => cases seen
  | object fields => cases seen
  | _ => simp [anonymized]

/-- The entries of an anonymized object or array are the anonymized entries. -/
theorem anonymized_object {value : Json} {kind : ObjectKind} (seen : value.view = .inr kind) :
    value.anonymized = .object (value.entries.map fun entry => (entry.1, entry.2.anonymized)) := by
  cases value with
  | array elements =>
      rw [anonymized, anonymizedElements_eq, entries, List.map_map]
      rfl
  | object fields =>
      rw [anonymized, anonymizedFields_eq]
      rfl
  | _ => cases seen

theorem names_anonymized {value : Json} {kind : ObjectKind} (seen : value.view = .inr kind) :
    value.anonymized.names = value.names := by
  rw [anonymized_object seen]
  unfold names
  rw [entries, List.map_map]
  rfl

theorem member?_anonymized (value : Json) (name : String) :
    value.anonymized.member? name = (value.member? name).map anonymized := by
  unfold member?
  cases seen : value.view with
  | inl content =>
      rw [anonymized_scalar seen]
      rfl
  | inr kind =>
      rw [anonymized_object seen, view, field?, field?, entries, List.find?_map, Option.map_map,
        Option.map_map]
      rfl

theorem valueAt_anonymized (value : Json) (path : List String) :
    value.anonymized.valueAt path = (value.valueAt path).map anonymized := by
  induction path generalizing value with
  | nil => rfl
  | cons name rest ih =>
      rw [valueAt, valueAt, member?_anonymized]
      cases value.member? name with
      | none => rfl
      | some inner => exact ih inner

mutual
theorem anonymized_eq_of_sameShape :
    (first second : Json) → first.sameShape second = true → first.anonymized = second.anonymized
  | .object first, second, same => by
      cases second with
      | object second =>
          rw [sameShape] at same
          rw [anonymized, anonymized, anonymizedFields_eq_of_sameFields first second same]
      | _ => simp [sameShape] at same
  | .array first, second, same => by
      cases second with
      | array second =>
          rw [sameShape] at same
          rw [anonymized, anonymized, anonymizedElements_eq_of_sameElements first second 0 same]
      | _ => simp [sameShape] at same
  | .null, second, same => by cases second <;> simp [sameShape, anonymized] at same ⊢
  | .boolean _, second, same => by cases second <;> simp [sameShape, anonymized] at same ⊢
  | .number _, second, same => by cases second <;> simp [sameShape, anonymized] at same ⊢
  | .string _, second, same => by cases second <;> simp [sameShape, anonymized] at same ⊢

theorem anonymizedFields_eq_of_sameFields :
    (first second : List (String × Json)) → sameFields first second = true →
      anonymizedFields first = anonymizedFields second
  | [], [], _ => rfl
  | [], _ :: _, same => by simp [sameFields] at same
  | (name, value) :: rest, [], same => by simp [sameFields] at same
  | (name, value) :: rest, (otherName, other) :: otherRest, same => by
      simp only [sameFields, Bool.and_eq_true, beq_iff_eq] at same
      rw [anonymizedFields, anonymizedFields, same.1.1,
        anonymized_eq_of_sameShape value other same.1.2,
        anonymizedFields_eq_of_sameFields rest otherRest same.2]

theorem anonymizedElements_eq_of_sameElements :
    (first second : List Json) → (index : Nat) → sameElements first second = true →
      anonymizedElements index first = anonymizedElements index second
  | [], [], _, _ => rfl
  | [], _ :: _, _, same => by simp [sameElements] at same
  | value :: rest, [], _, same => by simp [sameElements] at same
  | value :: rest, other :: otherRest, index, same => by
      simp only [sameElements, Bool.and_eq_true] at same
      rw [anonymizedElements, anonymizedElements, anonymized_eq_of_sameShape value other same.1,
        anonymizedElements_eq_of_sameElements rest otherRest (index + 1) same.2]
end

/-- An object or an array has a member under each of its names. -/
theorem exists_member {value : Json} {kind : ObjectKind} (seen : value.view = .inr kind)
    {name : String} (named : name ∈ value.names) : ∃ inner, value.member? name = some inner := by
  obtain ⟨entry, inside, rfl⟩ := List.mem_map.mp named
  unfold member?
  rw [seen]
  dsimp only
  unfold field?
  cases found : value.entries.find? fun field => field.1 = entry.1 with
  | none => simpa using List.find?_eq_none.mp found entry inside
  | some field => exact ⟨field.2, rfl⟩

theorem sizeOf_entries {value : Json} {kind : ObjectKind} (seen : value.view = .inr kind)
    {entry : String × Json} (inside : entry ∈ value.entries) : sizeOf entry.2 < sizeOf value := by
  cases value with
  | array elements =>
      obtain ⟨element, listed, rfl⟩ := List.mem_map.mp inside
      have smaller := List.sizeOf_lt_of_mem (List.fst_mem_of_mem_zipIdx listed)
      rw [array.sizeOf_spec]
      dsimp only
      omega
  | object fields =>
      obtain ⟨name, inner⟩ := entry
      have smaller : sizeOf (name, inner) < sizeOf fields := List.sizeOf_lt_of_mem inside
      rw [Prod.mk.sizeOf_spec] at smaller
      rw [object.sizeOf_spec]
      dsimp only
      omega
  | _ => cases seen

theorem sizeOf_member {value inner : Json} {name : String}
    (found : value.member? name = some inner) : sizeOf inner < sizeOf value := by
  unfold member? at found
  cases seen : value.view with
  | inl content =>
      rw [seen] at found
      cases found
  | inr kind =>
      rw [seen] at found
      obtain ⟨entry, listed, rfl⟩ := Option.map_eq_some_iff.mp found
      exact sizeOf_entries seen (List.mem_of_find?_eq_some listed)

end Json

section Heap
variable {heap following : RequestHeap} {within : Address → Prop} {slot : Slot Scalar}
  {value inner : Json} {base limit address : Address} {key : String} {rest : List String}

/-- A slot of the heap stands for a JSON value. -/
abbrev StandsFor (heap : RequestHeap) (within : Address → Prop) (slot : Slot Scalar)
    (value : Json) : Prop :=
  Represents Json.view Json.names Json.member? heap within slot value

/-- The copy of a value while its properties are overwritten.
The values of the remaining keys are the original ones, which lie below the limit, and the other
values are anonymized ones, which are allocated from the base on. -/
structure Halfway (base limit : Address) (value : Json) (address : Address) (rest : List String)
    (heap : RequestHeap) : Prop where
  long : base ≤ heap.length
  copy : ∃ object, heap[address]? = some object ∧ object.kind = .plain ∧
    object.properties.keys = value.names ∧
      ∀ name slot inner, object.properties.get? name = some slot →
        value.member? name = some inner →
          (name ∈ rest → StandsFor heap (· < limit) slot inner) ∧
            (name ∉ rest → StandsFor heap (base ≤ ·) slot inner.anonymized)

theorem ownProperties_reference {object : HeapObject ObjectKind String Scalar}
    (read : heap[address]? = some object) :
    ownProperties heap (.reference address) = object.properties := by
  unfold ownProperties
  dsimp only
  rw [read]

/-- The next property is overwritten with an anonymized value. -/
theorem Halfway.assign (halfway : Halfway base limit value address (key :: rest) heap)
    (below : limit ≤ address) (before : address < base) (named : key ∈ value.names)
    (once : key ∉ rest) (found : value.member? key = some inner)
    (keeps : KeepsObjects (fun _ => True) heap following)
    (stands : StandsFor following (base ≤ ·) slot inner.anonymized) :
    Halfway base limit value address rest (following.assign address key slot) := by
  obtain ⟨object, read, plain, names, members⟩ := halfway.copy
  have assigned := @keepsObjects_assign _ _ _ _ following address key slot
  have kept : KeepsObjects (· ≠ address) heap (following.assign address key slot) :=
    (keeps.mono fun _ _ => trivial).trans assigned
  refine ⟨?_, object.assign key slot, read_assign (keeps _ _ trivial read), plain, ?_, ?_⟩
  · rw [length_assign]
    exact halfway.long.trans keeps.length_le
  · rw [keys_assign (names ▸ named), names]
  · intro name held other holds member
    unfold HeapObject.assign at holds
    rw [Mapping.get?_set] at holds
    by_cases same : name = key
    · rw [if_pos same] at holds
      cases holds
      obtain rfl := same
      obtain rfl := Option.some.inj (found.symm.trans member)
      refine ⟨fun remaining => absurd remaining once, fun _ => ?_⟩
      exact stands.keep (assigned.mono fun place inside => (before.trans_le inside).ne')
    · rw [if_neg same] at holds
      obtain ⟨original, replaced⟩ := members name held other holds member
      constructor
      · intro remaining
        exact (original (List.mem_cons_of_mem _ remaining)).keep
          (kept.mono fun place inside => (Nat.lt_of_lt_of_le inside below).ne)
      · intro done
        have passed : name ∉ key :: rest := by
          rw [List.mem_cons]
          exact fun either => either.elim same done
        exact (replaced passed).keep (kept.mono fun place inside => (before.trans_le inside).ne')

/-- A finished copy stands for the anonymized value. -/
theorem Halfway.done {kind : ObjectKind} (halfway : Halfway base limit value address [] heap)
    (seen : value.view = .inr kind) (wide : ∀ place, place = address ∨ base ≤ place → within place) :
    StandsFor heap within (.reference address) value.anonymized := by
  obtain ⟨object, read, plain, names, members⟩ := halfway.copy
  refine .object ?_ (wide address (.inl rfl)) read ?_ ?_
  · rw [Json.anonymized_object seen, plain]
    rfl
  · rw [names, Json.names_anonymized seen]
  · intro name slot shown held found
    rw [Json.member?_anonymized] at found
    obtain ⟨inner, member, rfl⟩ := Option.map_eq_some_iff.mp found
    exact ((members name slot inner held member).2 List.not_mem_nil).widen
      fun place inside => wide place (.inr inside)

/-- A fresh shallow copy has every property still to be overwritten. -/
theorem halfway_copy {target : Address}
    (stands : StandsFor heap (· < limit) (.reference target) value) :
    Halfway (shallowCopy heap (.reference target)).2.length limit value
      (shallowCopy heap (.reference target)).1 value.names
      (shallowCopy heap (.reference target)).2 := by
  have allocated := @keepsObjects_allocate _ _ _ _ heap (· < limit)
    ⟨.plain, ownProperties heap (.reference target)⟩
  cases stands with
  | object known inside read named members =>
      have own := ownProperties_reference read
      refine ⟨Nat.le_refl _, _, read_allocate, rfl, ?_, ?_⟩
      · rw [own, named]
      · intro name slot inner held found
        have listed : name ∈ value.names := by
          rw [← named, ← own]
          exact Mapping.mem_keys.mpr ⟨slot, held⟩
        refine ⟨fun _ => ?_, fun absent => absurd listed absent⟩
        rw [own] at held
        exact (members name slot inner held found).keep allocated

/-- A recursion as deep as given anonymizes every copy of a value of that size. -/
def AnonymizesUpTo (depth : Nat) : Prop :=
  ∀ {value kind limit address} {heap : RequestHeap}, Json.view value = .inr kind →
    sizeOf value ≤ depth → limit ≤ address → address < heap.length →
      Halfway heap.length limit value address value.names heap →
        ∃ following, anonymizeObject depth address heap = some following ∧
          KeepsObjects (· ≠ address) heap following ∧
          Halfway heap.length limit value address [] following

/-- The keys that remain are overwritten one after another. -/
theorem AnonymizesUpTo.keys {depth : Nat} (anonymizes : AnonymizesUpTo depth)
    (below : limit ≤ address) (before : address < base) (small : sizeOf value ≤ depth + 1)
    {kind : ObjectKind} (seen : value.view = .inr kind) (distinct : rest.Nodup)
    (named : rest ⊆ value.names) (halfway : Halfway base limit value address rest heap) :
    ∃ following, anonymizeKeys (anonymizeObject depth) address rest heap = some following ∧
      KeepsObjects (· ≠ address) heap following ∧
      Halfway base limit value address [] following := by
  induction rest generalizing heap with
  | nil => exact ⟨heap, rfl, KeepsObjects.refl _ heap, halfway⟩
  | cons key rest ih =>
      rw [List.nodup_cons] at distinct
      have listed := named List.mem_cons_self
      obtain ⟨inner, found⟩ := Json.exists_member seen listed
      obtain ⟨object, read, plain, names, members⟩ := halfway.copy
      obtain ⟨slot, held⟩ := Mapping.mem_keys.mp (names ▸ listed)
      have original := (members key slot inner held found).1 List.mem_cons_self
      have later := fun following => @ih following distinct.2
        fun name inside => named (List.mem_cons_of_mem _ inside)
      unfold anonymizeKeys
      rw [ownProperties_reference read, held]
      cases slot with
      | scalar content =>
          have stands : StandsFor heap (base ≤ ·) (.scalar .null) inner.anonymized := by
            cases original with
            | scalar known =>
                rw [Json.anonymized_scalar known]
                exact .scalar rfl
          obtain ⟨following, done, kept, finished⟩ := later _
            (halfway.assign below before listed distinct.1 found (KeepsObjects.refl _ heap) stands)
          exact ⟨following, done, keepsObjects_assign.trans kept, finished⟩
      | reference target =>
          obtain ⟨innerKind, known⟩ : ∃ innerKind, inner.view = .inr innerKind := by
            cases original with
            | object known => exact ⟨_, known⟩
          have smaller := Json.sizeOf_member found
          have fresh : (shallowCopy heap (.reference target)).1 <
              (shallowCopy heap (.reference target)).2.length := by
            simp [shallowCopy, ObjectHeap.allocate]
          have long : base ≤ (shallowCopy heap (.reference target)).1 := halfway.long
          obtain ⟨copied, copyDone, copyKept, copyFinished⟩ := anonymizes known (by omega)
            ((below.trans before.le).trans long) fresh (halfway_copy original)
          have stands : StandsFor copied (base ≤ ·)
              (.reference (shallowCopy heap (.reference target)).1) inner.anonymized := by
            apply copyFinished.done known
            rintro place (rfl | beyond)
            · exact long
            · exact long.trans (fresh.le.trans beyond)
          have keeps : KeepsObjects (fun _ => True) heap copied := by
            intro place stored _ present
            have old := (List.getElem?_eq_some_iff.mp present).1
            apply copyKept place stored
            · exact old.ne
            · exact keepsObjects_allocate (fun _ => True) _ place stored trivial present
          obtain ⟨following, done, kept, finished⟩ := later _
            (halfway.assign below before listed distinct.1 found keeps stands)
          refine ⟨following, ?_, ?_, finished⟩
          · dsimp only
            rw [copyDone]
            exact done
          · exact ((keeps.mono fun _ _ => trivial).trans keepsObjects_assign).trans kept

theorem anonymizesUpTo (depth : Nat) : AnonymizesUpTo depth := by
  induction depth with
  | zero =>
      intro value kind limit address heap seen small
      have positive : 0 < sizeOf value := by
        cases value <;> simp
      omega
  | succ depth ih =>
      intro value kind limit address heap seen small below before halfway
      obtain ⟨object, read, plain, names, -⟩ := halfway.copy
      unfold anonymizeObject
      rw [ownProperties_reference read, names]
      have distinct : value.names.Nodup := names ▸ object.properties.unique
      exact ih.keys below before small seen distinct (List.Subset.refl _) halfway

end Heap

section Requests

/-- What a log shows of a body: its keys and indices, and nothing else. -/
structure ShowsShape (body logged : Json) : Prop where
  paths : ∀ path, logged.valueAt path = none ↔ body.valueAt path = none
  names : ∀ path inner kind, body.valueAt path = some inner → inner.view = .inr kind →
    ∃ shown, logged.valueAt path = some shown ∧ shown.names = inner.names
  scalars : ∀ path inner content, body.valueAt path = some inner → inner.view = .inl content →
    logged.valueAt path = some .null

theorem anonymized_showsShape (body : Json) : ShowsShape body body.anonymized where
  paths path := by rw [Json.valueAt_anonymized, Option.map_eq_none_iff]
  names path inner kind found seen := by
    rw [Json.valueAt_anonymized, found]
    exact ⟨_, rfl, Json.names_anonymized seen⟩
  scalars path inner content found seen := by
    rw [Json.valueAt_anonymized, found, Option.map_some, Json.anonymized_scalar seen]

/-- The log shows the shape of a body and nothing else, and every object that was on the heap is
as before, so that the body of the request is the same. -/
theorem logRequestBody_anonymizes {heap : RequestHeap} {within : Address → Prop}
    {parsedBody : Slot Scalar} {fields : List (String × Json)} (traceId : TraceId)
    (stands : StandsFor heap within parsedBody (.object fields)) :
    ∃ depth, ∀ deeper ≥ depth, ∃ entry following,
      logRequestBody deeper ⟨true, false⟩ traceId none parsedBody heap =
          some (some entry, following) ∧
        KeepsObjects (fun _ => True) heap following ∧
        StandsFor following within parsedBody (.object fields) ∧
        StandsFor following (heap.length ≤ ·) entry.body (Json.object fields).anonymized ∧
        ShowsShape (.object fields) (Json.object fields).anonymized ∧
        ∀ other, (Json.object fields).sameShape other = true →
          other.anonymized = (Json.object fields).anonymized := by
  refine ⟨sizeOf (Json.object fields), fun deeper deep => ?_⟩
  cases stands with
  | scalar seen => cases seen
  | @object _ target _ seen inside read named members =>
      have original : StandsFor heap within (.reference target) (.object fields) :=
        .object seen inside read named members
      have fresh : (shallowCopy heap (.reference target)).1 <
          (shallowCopy heap (.reference target)).2.length := by
        simp [shallowCopy, ObjectHeap.allocate]
      obtain ⟨following, done, kept, finished⟩ := anonymizesUpTo deeper rfl deep
        (Nat.le_refl _) fresh (halfway_copy original.bound)
      have keeps : KeepsObjects (fun _ => True) heap following := by
        intro place stored _ present
        have old := (List.getElem?_eq_some_iff.mp present).1
        apply kept place stored
        · exact old.ne
        · exact keepsObjects_allocate (fun _ => True) _ place stored trivial present
      refine ⟨⟨"Anonymized request body:", traceId,
        .reference (shallowCopy heap (.reference target)).1⟩, following, ?_, keeps,
        original.keep (keeps.mono fun _ _ => trivial), ?_, anonymized_showsShape _,
        fun other same => ?_⟩
      · unfold logRequestBody
        dsimp only
        rw [if_pos rfl, if_neg (by decide), done]
        rfl
      · apply finished.done rfl
        rintro place (rfl | beyond)
        · exact Nat.le_refl _
        · exact fresh.le.trans beyond
      · exact (Json.anonymized_eq_of_sameShape _ _ same).symm

end Requests

section Examples

private def studentBody : Json :=
  .object [("studentReference", .object [("studentUniqueId", .string "s0zf6d1123d3e")])]

private def studentHeap : RequestHeap :=
  [⟨.plain, ⟨[("studentReference", .reference 1)], by decide⟩⟩,
    ⟨.plain, ⟨[("studentUniqueId", .scalar (.string "s0zf6d1123d3e"))], by decide⟩⟩]

private theorem studentBody_stands :
    StandsFor studentHeap (fun _ => True) (.reference 0) studentBody := by
  refine .object rfl trivial rfl rfl ?_
  intro name slot inner held found
  have outer : name = "studentReference" := by
    have listed := Mapping.mem_keys.mpr ⟨slot, held⟩
    simpa [Mapping.keys] using listed
  subst outer
  cases held
  cases found
  refine .object rfl trivial rfl rfl ?_
  intro name slot inner held found
  have own : name = "studentUniqueId" := by
    have listed := Mapping.mem_keys.mpr ⟨slot, held⟩
    simpa [Mapping.keys] using listed
  subst own
  cases held
  cases found
  exact .scalar rfl

/-- A nested reference is logged without its value and stays in the request. -/
theorem student_reference_anonymized :
    ∃ depth entry following,
      logRequestBody depth ⟨true, false⟩ ⟨"trace"⟩ none (.reference 0) studentHeap =
          some (some entry, following) ∧
        StandsFor following (fun _ => True) (.reference 0) studentBody ∧
        StandsFor following (2 ≤ ·) entry.body
          (.object [("studentReference", .object [("studentUniqueId", .null)])]) := by
  obtain ⟨depth, logs⟩ := logRequestBody_anonymizes ⟨"trace"⟩ studentBody_stands
  obtain ⟨entry, following, logged, -, kept, shown, -⟩ := logs depth (Nat.le_refl _)
  exact ⟨depth, entry, following, logged, kept, shown⟩

end Examples
end Meadowlark.Core
