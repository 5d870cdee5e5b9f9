import Mathlib.Tactic

namespace Meadowlark.Systems

/-- A step goes to the member of one name or to every member. -/
inductive Step (Name : Type) where
  | member (name : Name)
  | every
  deriving DecidableEq

section Selection
variable {Value Name : Type} (member : Value → Name → Option Value) (members : Value → List Value)

/-- The values that a path addresses, in the order of the members. -/
def select : List (Step Name) → Value → List Value
  | [], value => [value]
  | .member name :: rest, value => (member value name).toList.flatMap (select rest)
  | .every :: rest, value => (members value).flatMap (select rest)

/-- The value at the end of a list of names. -/
def follow : List Name → Value → Option Value
  | [], value => some value
  | name :: rest, value => (member value name).bind (follow rest)

theorem select_append (first second : List (Step Name)) (value : Value) :
    select member members (first ++ second) value =
      (select member members first value).flatMap (select member members second) := by
  induction first generalizing value with
  | nil => simp [select]
  | cons step rest ih =>
      cases step with
      | member name =>
          rw [List.cons_append, select, select, List.flatMap_assoc]
          exact List.flatMap_congr fun next _ => ih next
      | every =>
          rw [List.cons_append, select, select, List.flatMap_assoc]
          exact List.flatMap_congr fun next _ => ih next

theorem select_members (names : List Name) (value : Value) :
    select member members (names.map .member) value = (follow member names value).toList := by
  induction names generalizing value with
  | nil => rfl
  | cons name rest ih =>
      rw [List.map_cons, select, follow]
      cases member value name with
      | none => rfl
      | some next => simp [ih next]

/-- A path that ends with names reads one cell from each row before them. -/
theorem select_column {steps : List (Step Name)} {names : List Name} {cell : Value → Value}
    {value : Value} (present : ∀ row ∈ select member members steps value,
      follow member names row = some (cell row)) :
    select member members (steps ++ names.map .member) value =
      (select member members steps value).map cell := by
  rw [select_append, @List.map_eq_flatMap _ _ cell]
  apply List.flatMap_congr
  intro row inside
  rw [select_members, present row inside, Option.toList_some]

end Selection

section Rows
variable {Error Row Value : Type}

theorem mapM_ok_of_forall {inputs : List Row} {read : Row → Except Error Value}
    {output : Row → Value} (reads : ∀ input ∈ inputs, read input = .ok (output input)) :
    inputs.mapM read = .ok (inputs.map output) := by
  induction inputs with
  | nil => rfl
  | cons input rest ih =>
      rw [List.mapM_cons, reads input List.mem_cons_self,
        ih fun other inside => reads other (List.mem_cons_of_mem _ inside)]
      rfl

theorem mapM_congr {inputs : List Row} {first second : Row → Except Error Value}
    (same : ∀ input ∈ inputs, first input = second input) :
    inputs.mapM first = inputs.mapM second := by
  induction inputs with
  | nil => rfl
  | cons input rest ih =>
      rw [List.mapM_cons, List.mapM_cons, same input List.mem_cons_self,
        ih fun other inside => same other (List.mem_cons_of_mem _ inside)]

/-- A loop that does not throw has read its first input and the later ones. -/
theorem mapM_cons_ok {input : Row} {rest : List Row} {read : Row → Except Error Value}
    {outputs : List Value} (done : (input :: rest).mapM read = .ok outputs) :
    ∃ output later, read input = .ok output ∧ rest.mapM read = .ok later ∧
      outputs = output :: later := by
  rw [List.mapM_cons] at done
  cases first : read input with
  | error error =>
      rw [first] at done
      cases done
  | ok output =>
      cases others : rest.mapM read with
      | error error =>
          rw [first, others] at done
          cases done
      | ok later =>
          rw [first, others] at done
          cases done
          exact ⟨output, later, rfl, rfl, rfl⟩

/-- A loop that reads every input ends. -/
theorem exists_mapM_ok {inputs : List Row} {read : Row → Except Error Value}
    (reads : ∀ input ∈ inputs, ∃ output, read input = .ok output) :
    ∃ outputs, inputs.mapM read = .ok outputs := by
  induction inputs with
  | nil => exact ⟨[], rfl⟩
  | cons input rest ih =>
      obtain ⟨output, first⟩ := reads input List.mem_cons_self
      obtain ⟨later, others⟩ := ih fun other inside => reads other (List.mem_cons_of_mem _ inside)
      rw [List.mapM_cons, first, others]
      exact ⟨_, rfl⟩

/-- Two loops with the same outputs agree on every input. -/
theorem mapM_agree {inputs : List Row} {first second : Row → Except Error Value}
    {outputs : List Value} (firstDone : inputs.mapM first = .ok outputs)
    (secondDone : inputs.mapM second = .ok outputs) :
    ∀ input ∈ inputs, first input = second input := by
  induction inputs generalizing outputs with
  | nil => exact fun input inside => absurd inside List.not_mem_nil
  | cons input rest ih =>
      obtain ⟨output, later, firstRead, firstRest, rfl⟩ := mapM_cons_ok firstDone
      obtain ⟨other, others, secondRead, secondRest, same⟩ := mapM_cons_ok secondDone
      obtain ⟨rfl, rfl⟩ := List.cons.inj same
      intro row inside
      rcases List.mem_cons.mp inside with rfl | listed
      · rw [firstRead, secondRead]
      · exact ih firstRest secondRest row listed

/-- Two loops that may differ only in their outputs throw the same error. -/
theorem mapM_stop {inputs : List Row} {first second : Row → Except Error Value}
    (alike : ∀ input ∈ inputs, first input = second input ∨
      ((∃ output, first input = .ok output) ∧ ∃ output, second input = .ok output))
    (stops : ∃ input ∈ inputs, ∀ output, first input ≠ .ok output) :
    ∃ error, inputs.mapM first = .error error ∧ inputs.mapM second = .error error := by
  induction inputs with
  | nil =>
      obtain ⟨input, inside, -⟩ := stops
      exact absurd inside List.not_mem_nil
  | cons input rest ih =>
      rw [List.mapM_cons, List.mapM_cons]
      cases firstRead : first input with
      | error error =>
          rcases alike input List.mem_cons_self with same | ⟨⟨output, read⟩, -⟩
          · rw [← same, firstRead]
            exact ⟨error, rfl, rfl⟩
          · rw [firstRead] at read
            cases read
      | ok output =>
          have secondRead : ∃ other, second input = .ok other := by
            rcases alike input List.mem_cons_self with same | ⟨-, read⟩
            · exact ⟨output, same ▸ firstRead⟩
            · exact read
          obtain ⟨other, secondRead⟩ := secondRead
          have later : ∃ input ∈ rest, ∀ output, first input ≠ .ok output := by
            obtain ⟨stop, inside, thrown⟩ := stops
            rcases List.mem_cons.mp inside with rfl | listed
            · exact absurd firstRead (thrown output)
            · exact ⟨stop, listed, thrown⟩
          obtain ⟨error, firstRest, secondRest⟩ :=
            ih (fun row inside => alike row (List.mem_cons_of_mem _ inside)) later
          rw [firstRest, secondRead, secondRest]
          exact ⟨error, rfl, rfl⟩

/-- A loop over the indices of a list visits its rows in their order. -/
theorem mapM_range_ok {rows : List Row} {read : Nat → Except Error Value} {output : Row → Value}
    (reads : ∀ index row, rows[index]? = some row → read index = .ok (output row)) :
    (List.range rows.length).mapM read = .ok (rows.map output) := by
  induction rows generalizing read with
  | nil => rfl
  | cons row rest ih =>
      have later := @ih (fun index => read (index + 1)) fun index other found =>
        reads (index + 1) other (by simpa using found)
      rw [List.length_cons, List.range_succ_eq_map, List.mapM_cons, reads 0 row rfl, List.mapM_map]
      change (do let outputs ← (List.range rest.length).mapM fun index => read (index + 1)
                 pure (output row :: outputs)) = _
      rw [later]
      rfl

end Rows
end Meadowlark.Systems
