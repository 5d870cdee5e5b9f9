import Mathlib.Tactic

namespace Meadowlark.Systems

/-- An object that is used as a map holds every key once. -/
structure Mapping (Key Value : Type) where
  entries : List (Key × Value)
  unique : (entries.map Prod.fst).Nodup

namespace Mapping
variable {Key Value Result : Type} [DecidableEq Key]

def empty : Mapping Key Value := ⟨[], List.nodup_nil⟩

def keys (mapping : Mapping Key Value) : List Key := mapping.entries.map Prod.fst

def values (mapping : Mapping Key Value) : List Value := mapping.entries.map Prod.snd

def get? (mapping : Mapping Key Value) (key : Key) : Option Value :=
  (mapping.entries.find? fun entry => entry.1 = key).map Prod.snd

theorem keys_overwritten (entries : List (Key × Value)) (key : Key) (value : Value) :
    (entries.map fun entry => if entry.1 = key then (key, value) else entry).map Prod.fst =
      entries.map Prod.fst := by
  rw [List.map_map]
  apply List.map_congr_left
  intro entry _
  by_cases same : entry.1 = key <;> simp [same]

omit [DecidableEq Key] in
theorem keys_filterMap (entries : List (Key × Value)) (result : Value → Option Result) :
    ((entries.filterMap fun entry => (result entry.2).map (entry.1, ·)).map Prod.fst).Sublist
      (entries.map Prod.fst) := by
  induction entries with
  | nil => exact List.Sublist.slnil
  | cons entry rest ih =>
      cases found : result entry.2 with
      | none =>
          rw [List.filterMap_cons_none (by rw [found]; rfl)]
          exact ih.cons entry.1
      | some value =>
          rw [List.filterMap_cons_some (by rw [found]; rfl)]
          exact ih.cons_cons entry.1

/-- An assignment keeps the position of a key that already exists. -/
def set (mapping : Mapping Key Value) (key : Key) (value : Value) : Mapping Key Value :=
  if present : key ∈ mapping.keys then
    { entries := mapping.entries.map fun entry => if entry.1 = key then (key, value) else entry
      unique := by
        rw [keys_overwritten]
        exact mapping.unique }
  else
    { entries := mapping.entries ++ [(key, value)]
      unique := by
        rw [List.map_append, List.nodup_append]
        refine ⟨mapping.unique, List.nodup_singleton _, ?_⟩
        intro other inside last same equal
        rw [List.map_singleton, List.mem_singleton] at same
        rw [equal, same] at inside
        exact present inside }

/-- The assignments of a list, one after another. -/
def setAll (mapping : Mapping Key Value) (entries : List (Key × Value)) : Mapping Key Value :=
  entries.foldl (fun mapping entry => mapping.set entry.1 entry.2) mapping

/-- The entries that have a result, each with its result. -/
def filterMap (mapping : Mapping Key Value) (result : Value → Option Result) : Mapping Key Result where
  entries := mapping.entries.filterMap fun entry => (result entry.2).map (entry.1, ·)
  unique := mapping.unique.sublist (keys_filterMap mapping.entries result)

theorem mem_keys {mapping : Mapping Key Value} {key : Key} :
    key ∈ mapping.keys ↔ ∃ value, mapping.get? key = some value := by
  unfold keys get?
  constructor
  · intro inside
    obtain ⟨entry, listed, rfl⟩ := List.mem_map.mp inside
    cases found : mapping.entries.find? fun other => other.1 = entry.1 with
    | none => exact absurd (List.find?_eq_none.mp found entry listed) (by simp)
    | some other => exact ⟨other.2, rfl⟩
  · rintro ⟨value, found⟩
    obtain ⟨entry, first, rfl⟩ := Option.map_eq_some_iff.mp found
    have same : entry.1 = key := by simpa using List.find?_some first
    rw [← same]
    exact List.mem_map_of_mem (List.mem_of_find?_eq_some first)

/-- The value of a key is the value of its only entry. -/
theorem get?_eq_some {mapping : Mapping Key Value} {key : Key} {value : Value} :
    mapping.get? key = some value ↔ (key, value) ∈ mapping.entries := by
  unfold get?
  constructor
  · intro found
    obtain ⟨entry, first, rfl⟩ := Option.map_eq_some_iff.mp found
    have same : entry.1 = key := by simpa using List.find?_some first
    rw [← same]
    exact List.mem_of_find?_eq_some first
  · intro inside
    obtain ⟨other, found⟩ := mem_keys.mp (List.mem_map_of_mem (f := Prod.fst) inside)
    obtain ⟨entry, first, same⟩ := Option.map_eq_some_iff.mp found
    have sameKey : entry.1 = key := by simpa using List.find?_some first
    have sameEntry : entry = (key, value) :=
      List.inj_on_of_nodup_map mapping.unique (List.mem_of_find?_eq_some first) inside sameKey
    rw [first, sameEntry]
    rfl

theorem mem_values {mapping : Mapping Key Value} {value : Value} :
    value ∈ mapping.values ↔ ∃ key, mapping.get? key = some value := by
  unfold values
  simp [get?_eq_some]

@[simp] theorem get?_empty (key : Key) : (empty : Mapping Key Value).get? key = none := rfl

theorem mem_set {mapping : Mapping Key Value} {key other : Key} {value found : Value} :
    (other, found) ∈ (mapping.set key value).entries ↔
      if other = key then found = value else (other, found) ∈ mapping.entries := by
  unfold set
  split
  · rename_i present
    obtain ⟨old, oldFound⟩ := mem_keys.mp present
    have oldInside := get?_eq_some.mp oldFound
    rw [List.mem_map]
    constructor
    · rintro ⟨entry, inside, same⟩
      by_cases overwritten : entry.1 = key
      · rw [if_pos overwritten] at same
        cases same
        rw [if_pos rfl]
      · rw [if_neg overwritten] at same
        rw [same] at inside overwritten
        rw [if_neg overwritten]
        exact inside
    · by_cases same : other = key
      · rw [if_pos same]
        rintro rfl
        exact ⟨(key, old), oldInside, by simp [same]⟩
      · rw [if_neg same]
        intro inside
        exact ⟨(other, found), inside, by simp [same]⟩
  · rename_i absent
    rw [List.mem_append, List.mem_singleton, Prod.mk.injEq]
    by_cases same : other = key
    · rw [if_pos same, same]
      have unlisted : (key, found) ∉ mapping.entries := fun inside =>
        absent (List.mem_map_of_mem (f := Prod.fst) inside)
      simp [unlisted]
    · simp [same]

@[simp] theorem get?_set (mapping : Mapping Key Value) (key other : Key) (value : Value) :
    (mapping.set key value).get? other = if other = key then some value else mapping.get? other := by
  apply Option.ext
  intro found
  rw [get?_eq_some, mem_set]
  by_cases same : other = key
  · simp [same, eq_comm]
  · simp [same, get?_eq_some]

/-- A value after several assignments was assigned or was there before. -/
theorem get?_setAll {mapping : Mapping Key Value} {entries : List (Key × Value)} {key : Key}
    {value : Value} (found : (mapping.setAll entries).get? key = some value) :
    (key, value) ∈ entries ∨ mapping.get? key = some value := by
  induction entries generalizing mapping with
  | nil => exact .inr found
  | cons entry rest ih =>
      rcases ih found with later | before
      · exact .inl (List.mem_cons_of_mem _ later)
      · rw [get?_set] at before
        by_cases same : key = entry.1
        · rw [if_pos same] at before
          obtain rfl := Option.some.inj before
          exact .inl (same ▸ List.mem_cons_self)
        · rw [if_neg same] at before
          exact .inr before

/-- An assigned key has a value, and no key loses its value. -/
theorem exists_get?_setAll {mapping : Mapping Key Value} {entries : List (Key × Value)} {key : Key}
    (assigned : (∃ value, (key, value) ∈ entries) ∨ ∃ value, mapping.get? key = some value) :
    ∃ value, (mapping.setAll entries).get? key = some value := by
  induction entries generalizing mapping with
  | nil =>
      rcases assigned with ⟨value, inside⟩ | before
      · exact absurd inside List.not_mem_nil
      · exact before
  | cons entry rest ih =>
      apply ih
      by_cases same : key = entry.1
      · exact .inr ⟨entry.2, by rw [get?_set, if_pos same]⟩
      · rcases assigned with ⟨value, inside⟩ | ⟨value, before⟩
        · rcases List.mem_cons.mp inside with first | later
          · exact absurd (congrArg Prod.fst first) same
          · exact .inl ⟨value, later⟩
        · exact .inr ⟨value, by rw [get?_set, if_neg same, before]⟩

@[simp] theorem get?_filterMap (mapping : Mapping Key Value) (result : Value → Option Result)
    (key : Key) : (mapping.filterMap result).get? key = (mapping.get? key).bind result := by
  apply Option.ext
  intro value
  rw [get?_eq_some]
  unfold filterMap
  simp [get?_eq_some, Option.bind_eq_some_iff]

end Mapping

end Meadowlark.Systems
