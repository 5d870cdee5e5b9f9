import Meadowlark.Proof.Authorization.RecasedText

namespace Meadowlark.Authorization
open Meadowlark.Core Systems Json

section Keys

/-- A respelling of a property name of a schema. -/
structure Respells (current name : String) : Prop where
  filled : name ≠ ""
  written : ∀ char ∈ name.toList, char ∈ keyCharacters
  same : SameUpToCase current name

theorem lowerCase_plain {char : Char} (written : lowerCase char ∈ keyCharacters.map lowerCase) :
    char ≠ quotationMark ∧ char ≠ reverseSolidus ∧ 32 ≤ char.toNat := by
  have control : ∀ code : Fin 32, lowerCase (Char.ofNat code.val) ∉ keyCharacters.map lowerCase := by
    decide
  refine ⟨?_, ?_, ?_⟩
  · rintro rfl
    exact absurd written (by decide)
  · rintro rfl
    exact absurd written (by decide)
  · by_contra below
    have unwritten := control ⟨char.toNat, by omega⟩
    rw [Char.ofNat_toNat] at unwritten
    exact unwritten written

variable {current name : String}

theorem Respells.refl (respells : Respells current name) : Respells name name :=
  ⟨respells.filled, respells.written, rfl⟩

theorem Respells.plain (respells : Respells current name) {char : Char} (held : char ∈ current.toList) :
    char ≠ quotationMark ∧ char ≠ reverseSolidus ∧ 32 ≤ char.toNat := by
  apply lowerCase_plain
  have lowered := List.mem_map_of_mem (f := lowerCase) held
  rw [respells.same] at lowered
  obtain ⟨other, listed, same⟩ := List.mem_map.mp lowered
  rw [← same]
  exact List.mem_map_of_mem (respells.written other listed)

theorem Respells.unmarked (respells : Respells current name) : quotationMark ∉ current.toList :=
  fun held => (respells.plain held).1 rfl

theorem Respells.length_eq (respells : Respells current name) :
    name.toList.length = current.toList.length := by
  have same := congrArg List.length respells.same
  rw [List.length_map, List.length_map] at same
  exact same.symm

theorem Respells.nonempty (respells : Respells current name) : current.toList ≠ [] := by
  intro empty
  have none := respells.length_eq
  rw [empty] at none
  exact respells.filled (String.toList_eq_nil_iff.mp (List.length_eq_zero_iff.mp none))

theorem Respells.recased (respells : Respells current name) :
    List.Forall₂ Recased name.toList current.toList :=
  recased_of_name respells.written respells.same

/-- A respelled name is printed as it is between its marks. -/
theorem Respells.quote_eq (respells : Respells current name) (rest : List Char) :
    quote current ++ rest = quotationMark :: (current.toList ++ quotationMark :: rest) := by
  have plain : current.toList.flatMap quoteChar = current.toList.flatMap fun char => [char] :=
    List.flatMap_congr fun char held =>
      quoteChar_plain (respells.plain held).1 (respells.plain held).2.1 (respells.plain held).2.2
  rw [quote_append, plain, List.flatMap_singleton']

end Keys
section Corrections
variable (respell : String → String)

/-- The body with its names respelled. -/
def respelled (fields : List (String × Json)) : List (String × Json) :=
  fields.map fun field => (respell field.1, field.2)

/-- The suggestions that are made for the respelled names. -/
def corrections (fields : List (String × Json)) : List Suggestion :=
  fields.filterMap fun field =>
    if respell field.1 = field.1 then none else some ⟨respell field.1, field.1⟩

def correctText (text : List Char) (suggestion : Suggestion) : List Char :=
  replaceFirst suggestion.current.toList suggestion.suggested.toList text

/-- No respelled name occurs in the text in front of it once the names in that text are corrected. -/
def Undisturbed (before : List Char) : List (String × Json) → Prop
  | [] => True
  | field :: rest =>
      (respell field.1 = field.1 ∨ ¬ (respell field.1).toList <:+: before) ∧
        Undisturbed (before ++ (quote field.1 ++ ':' :: (stringifyChars field.2 ++ [',']))) rest

instance undisturbed : (before : List Char) → (fields : List (String × Json)) →
    Decidable (Undisturbed respell before fields)
  | _, [] => isTrue trivial
  | _, _ :: rest => @instDecidableAnd _ _ inferInstance (undisturbed _ rest)

/-- The text behind a field. -/
def remainder : List (String × Json) → List Char
  | [] => ['\x7d']
  | field :: rest => ',' :: stringifyFields (field :: rest)

theorem stringifyFields_remainder (field : String × Json) (rest : List (String × Json)) :
    stringifyFields (field :: rest) = quote field.1 ++ ':' :: (stringifyChars field.2 ++ remainder rest) := by
  obtain ⟨name, value⟩ := field
  cases rest with
  | nil => simp [stringifyFields, remainder]
  | cons next others => simp [stringifyFields_cons, remainder]

variable {respell} {fields : List (String × Json)}

/-- The number of characters that a correction may change. -/
def changed (suggestion : Suggestion) : Nat :=
  differences suggestion.current.toList suggestion.suggested.toList

theorem corrections_cons (field : String × Json) (rest : List (String × Json)) :
    corrections respell (field :: rest) =
      (if respell field.1 = field.1 then [] else [⟨respell field.1, field.1⟩]) ++ corrections respell rest := by
  by_cases kept : respell field.1 = field.1 <;> simp [corrections, kept]

theorem remainder_differences (rest : List (String × Json))
    (lengths : (stringifyFields (respelled respell rest)).length = (stringifyFields rest).length) :
    (remainder (respelled respell rest)).length = (remainder rest).length ∧
    differences (remainder (respelled respell rest)) (remainder rest) =
      differences (stringifyFields (respelled respell rest)) (stringifyFields rest) := by
  cases rest with
  | nil => exact ⟨rfl, rfl⟩
  | cons field others =>
      refine ⟨congrArg Nat.succ lengths, ?_⟩
      show (if ',' = ',' then 0 else 1) + _ = _
      rw [if_pos rfl, Nat.zero_add]
      rfl

/-- A respelled body differs from the body in the characters that its corrections change. -/
theorem respelled_differences (respells : ∀ field ∈ fields, Respells (respell field.1) field.1) :
    (stringifyFields (respelled respell fields)).length = (stringifyFields fields).length ∧
    differences (stringifyFields (respelled respell fields)) (stringifyFields fields) =
      ((corrections respell fields).map changed).sum := by
  induction fields with
  | nil => exact ⟨rfl, rfl⟩
  | cons field rest ih =>
      have here := respells field List.mem_cons_self
      obtain ⟨lengths, later⟩ := ih fun next listed => respells next (List.mem_cons_of_mem field listed)
      obtain ⟨behind, same⟩ := remainder_differences rest lengths
      have first : stringifyFields (respelled respell (field :: rest)) =
          quote (respell field.1) ++ ':' :: (stringifyChars field.2 ++ remainder (respelled respell rest)) :=
        stringifyFields_remainder (respell field.1, field.2) (respelled respell rest)
      have cost : ((if respell field.1 = field.1 then [] else
          [(⟨respell field.1, field.1⟩ : Suggestion)]).map changed).sum =
          differences (respell field.1).toList field.1.toList := by
        by_cases kept : respell field.1 = field.1
        · rw [if_pos kept, kept, differences_self]
          rfl
        · rw [if_neg kept]
          simp [changed]
      rw [first, stringifyFields_remainder, here.quote_eq, here.refl.quote_eq, corrections_cons,
        List.map_append, List.sum_append, cost, ← later, ← same]
      refine ⟨by simp [here.length_eq, behind], ?_⟩
      simp only [differences, if_pos, Nat.zero_add]
      rw [differences_append here.length_eq.symm]
      simp only [differences, if_pos, Nat.zero_add]
      rw [differences_append rfl, differences_self, Nat.zero_add]

/-- The corrections that follow a wrong one cannot make up for it. -/
theorem corrections_late (respells : ∀ field ∈ fields, Respells (respell field.1) field.1)
    {text target : List Char} (same : text.length = target.length)
    (far : ((corrections respell fields).map changed).sum < differences text target) :
    (corrections respell fields).foldl correctText text ≠ target := by
  have respelt : ∀ suggestion ∈ corrections respell fields,
      Respells suggestion.current suggestion.suggested := by
    intro suggestion listed
    obtain ⟨field, held, corrected⟩ := List.mem_filterMap.mp listed
    split_ifs at corrected with kept
    rw [← Option.some_inj.mp corrected]
    exact respells field held
  have nearer := @differences_foldl _ _ _ correctText changed (corrections respell fields)
    (fun suggestion listed items => replaceFirst_length (respelt suggestion listed).length_eq
      (respelt suggestion listed).nonempty)
    (fun suggestion listed items => differences_replaceFirst_le (respelt suggestion listed).length_eq
      (respelt suggestion listed).nonempty) text target same
  intro reached
  rw [reached, differences_self] at nearer
  omega

/-- The corrections give the body back exactly if every one finds its own name first. -/
theorem corrections_iff (respells : ∀ field ∈ fields, Respells (respell field.1) field.1)
    (before : List Char) :
    (corrections respell fields).foldl correctText (before ++ stringifyFields (respelled respell fields)) =
      before ++ stringifyFields fields ↔ Undisturbed respell before fields := by
  induction fields generalizing before with
  | nil => exact iff_of_true rfl trivial
  | cons field rest ih =>
      have here := respells field List.mem_cons_self
      have others : ∀ next ∈ rest, Respells (respell next.1) next.1 := fun next listed =>
        respells next (List.mem_cons_of_mem field listed)
      have first : stringifyFields (respelled respell (field :: rest)) =
          quote (respell field.1) ++ ':' :: (stringifyChars field.2 ++ remainder (respelled respell rest)) :=
        stringifyFields_remainder (respell field.1, field.2) (respelled respell rest)
      have settled : (corrections respell rest).foldl correctText (before ++ (quote field.1 ++
          ':' :: (stringifyChars field.2 ++ remainder (respelled respell rest)))) =
          before ++ stringifyFields (field :: rest) ↔
            Undisturbed respell (before ++ (quote field.1 ++ ':' :: (stringifyChars field.2 ++ [',']))) rest := by
        rw [stringifyFields_remainder]
        cases rest with
        | nil => exact iff_of_true rfl trivial
        | cons next following =>
            have later := ih others (before ++ (quote field.1 ++ ':' :: (stringifyChars field.2 ++ [','])))
            rw [← later]
            simp [remainder, respelled]
      by_cases kept : respell field.1 = field.1
      · rw [corrections_cons, if_pos kept, List.nil_append, first, kept, settled, Undisturbed]
        exact (and_iff_right (Or.inl kept)).symm
      · rw [corrections_cons, if_neg kept, List.singleton_append, List.foldl_cons, Undisturbed]
        by_cases occurs : (respell field.1).toList <:+: before
        · have far := respelled_differences respells
          have apart : 0 < changed ⟨respell field.1, field.1⟩ := Nat.pos_of_ne_zero fun none =>
            kept (String.toList_inj.mp (eq_of_differences here.length_eq.symm none))
          have hidden : correctText (before ++ stringifyFields (respelled respell (field :: rest)))
              ⟨respell field.1, field.1⟩ = replaceFirst (respell field.1).toList field.1.toList before ++
                stringifyFields (respelled respell (field :: rest)) :=
            replaceFirst_front here.nonempty occurs _
          have lengths := @replaceFirst_length (respell field.1).toList field.1.toList before
            here.length_eq here.nonempty
          rw [corrections_cons, if_neg kept, List.map_append, List.sum_append] at far
          apply iff_of_false
          · rw [hidden]
            apply corrections_late others
            · rw [List.length_append, List.length_append, lengths, far.1]
            · rw [differences_append lengths, far.2]
              simp only [List.map_cons, List.map_nil, List.sum_cons, List.sum_nil]
              omega
          · exact fun undisturbed => undisturbed.1.elim kept fun absent => absent occurs
        · have corrected : correctText (before ++ stringifyFields (respelled respell (field :: rest)))
              ⟨respell field.1, field.1⟩ = before ++ (quote field.1 ++
                ':' :: (stringifyChars field.2 ++ remainder (respelled respell rest))) := by
            rw [correctText, first, here.quote_eq, replaceFirst_back here.unmarked here.nonempty occurs,
              replaceFirst_start _ here.nonempty, here.refl.quote_eq]
          rw [corrected, settled]
          exact (and_iff_right (Or.inr occurs)).symm

/-- The corrections change the text in nothing but the case of letters. -/
theorem corrections_recased (respells : ∀ field ∈ fields, Respells (respell field.1) field.1)
    (text : List Char) :
    List.Forall₂ Recased ((corrections respell fields).foldl correctText text) text := by
  induction fields generalizing text with
  | nil => exact recased_refl text
  | cons field rest ih =>
      have here := respells field List.mem_cons_self
      have others : ∀ next ∈ rest, Respells (respell next.1) next.1 := fun next listed =>
        respells next (List.mem_cons_of_mem field listed)
      rw [corrections_cons, List.foldl_append]
      by_cases kept : respell field.1 = field.1
      · rw [if_pos kept]
        exact ih others text
      · rw [if_neg kept]
        exact recased_trans (ih others _) (replaceFirst_recased here.nonempty here.recased text)

end Corrections
end Meadowlark.Authorization
