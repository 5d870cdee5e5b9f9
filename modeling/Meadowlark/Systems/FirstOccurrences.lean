import Mathlib.Tactic

namespace Meadowlark.Systems
variable {A K : Type} [DecidableEq K] (keyOf : A → K)

/-- The first item of each key. -/
def distinctBy : List A → List A
  | [] => []
  | item :: rest => item :: (distinctBy rest).filter fun other => keyOf other ≠ keyOf item

theorem mem_of_mem_distinctBy {items : List A} {item : A} (inside : item ∈ distinctBy keyOf items) :
    item ∈ items := by
  induction items with
  | nil => exact inside
  | cons first rest ih =>
      rcases List.mem_cons.mp inside with rfl | later
      · exact List.mem_cons_self
      · exact List.mem_cons_of_mem _ (ih (List.mem_filter.mp later).1)

/-- A listed item is the first one of its key. -/
theorem find_of_mem_distinctBy {items : List A} {item : A}
    (inside : item ∈ distinctBy keyOf items) :
    items.find? (fun other => keyOf other = keyOf item) = some item := by
  induction items with
  | nil => cases inside
  | cons first rest ih =>
      rcases List.mem_cons.mp inside with rfl | later
      · simp
      · obtain ⟨listed, different⟩ := List.mem_filter.mp later
        have apart : keyOf item ≠ keyOf first := by simpa using different
        rw [List.find?_cons_of_neg (by simpa using apart.symm)]
        exact ih listed

/-- Every key is listed. -/
theorem exists_mem_distinctBy {items : List A} {item : A} (inside : item ∈ items) :
    ∃ listed ∈ distinctBy keyOf items, keyOf listed = keyOf item := by
  induction items with
  | nil => cases inside
  | cons first rest ih =>
      by_cases same : keyOf first = keyOf item
      · exact ⟨first, List.mem_cons_self, same⟩
      · rcases List.mem_cons.mp inside with rfl | later
        · exact absurd rfl same
        · obtain ⟨listed, listedInside, sameKey⟩ := ih later
          refine ⟨listed, List.mem_cons_of_mem _ (List.mem_filter.mpr ⟨listedInside, ?_⟩), sameKey⟩
          rw [sameKey]
          simpa using Ne.symm same

/-- No key is listed twice. -/
theorem nodup_distinctBy (items : List A) : ((distinctBy keyOf items).map keyOf).Nodup := by
  induction items with
  | nil => exact List.nodup_nil
  | cons first rest ih =>
      change (keyOf first :: ((distinctBy keyOf rest).filter _).map keyOf).Nodup
      rw [List.nodup_cons]
      constructor
      · intro inside
        obtain ⟨other, listed, same⟩ := List.mem_map.mp inside
        have different := (List.mem_filter.mp listed).2
        simp [same] at different
      · exact ih.sublist (List.filter_sublist.map keyOf)

@[simp] theorem distinctBy_nil_iff {items : List A} : distinctBy keyOf items = [] ↔ items = [] := by
  cases items with
  | nil => simp [distinctBy]
  | cons first rest => simp [distinctBy]

omit keyOf in
/-- Repetitions are removed before or after a selection. -/
theorem eraseDups_filter (keys : List K) (selected : K → Bool) :
    (keys.filter selected).eraseDups = keys.eraseDups.filter selected := by
  induction counted : keys.length using Nat.strong_induction_on generalizing keys with
  | _ count again =>
      cases keys with
      | nil => rfl
      | cons next others =>
          have shorter : (others.filter fun other => !other == next).length < count := by
            rw [← counted, List.length_cons]
            exact Nat.lt_succ_of_le (List.length_filter_le _ _)
          have step := again _ shorter _ rfl
          rw [List.eraseDups_cons]
          cases chosen : selected next with
          | true =>
              rw [List.filter_cons_of_pos chosen, List.filter_cons_of_pos chosen,
                List.eraseDups_cons, ← step]
              simp only [List.filter_filter, Bool.and_comm]
          | false =>
              have refused : ¬ selected next = true := by simp [chosen]
              rw [List.filter_cons_of_neg refused, List.filter_cons_of_neg refused, ← step,
                List.filter_filter]
              congr 1
              apply List.filter_congr
              intro other _
              by_cases same : other = next
              · simp [same, chosen]
              · simp [same]

/-- The keys of the listed items are the distinct keys in their order. -/
theorem map_distinctBy (items : List A) :
    (distinctBy keyOf items).map keyOf = (items.map keyOf).eraseDups := by
  induction items with
  | nil => rfl
  | cons first rest ih =>
      change keyOf first :: ((distinctBy keyOf rest).filter _).map keyOf = _
      rw [List.map_cons, List.eraseDups_cons, eraseDups_filter, ← ih, List.filter_map]
      congr 2
      apply List.filter_congr
      intro other _
      by_cases same : keyOf other = keyOf first
      · simp [same]
      · simp [same]

theorem distinctBy_eq_filterMap (items : List A) :
    (items.map keyOf).eraseDups.filterMap
        (fun wanted => items.find? fun item => keyOf item = wanted) = distinctBy keyOf items := by
  rw [← map_distinctBy, List.filterMap_map]
  have found : ∀ item ∈ distinctBy keyOf items,
      ((fun wanted => items.find? fun item => keyOf item = wanted) ∘ keyOf) item = some item :=
    fun item inside => find_of_mem_distinctBy keyOf inside
  rw [List.filterMap_congr found]
  exact List.filterMap_some

/-- The position of a key leads to the first item of that key. -/
theorem getElem_idxOf_map (items : List A) (wanted : K) :
    items[(items.map keyOf).idxOf wanted]? = items.find? fun item => keyOf item = wanted := by
  induction items with
  | nil => rfl
  | cons first rest ih =>
      by_cases same : keyOf first = wanted
      · simp [same]
      · simp [List.idxOf_cons_ne _ same, same, ih]

/-- A selection of keys that is turned back into items by position lists the first item of each
selected key. -/
theorem pick_distinct (items : List A) (selected : K → Prop) [DecidablePred selected] :
    ((((items.map keyOf).filter fun wanted => selected wanted).eraseDups).map
        (items.map keyOf).idxOf).filterMap (items[·]?) =
      distinctBy keyOf (items.filter fun item => selected (keyOf item)) := by
  rw [List.filterMap_map, ← distinctBy_eq_filterMap, List.filter_map]
  apply List.filterMap_congr
  intro wanted inside
  rw [Function.comp_apply, getElem_idxOf_map, List.find?_filter]
  obtain ⟨item, listed, rfl⟩ := List.mem_map.mp (List.mem_eraseDups.mp inside)
  apply List.find?_congr
  intro other _
  have chosen : selected (keyOf item) := by simpa using (List.mem_filter.mp listed).2
  by_cases same : keyOf other = keyOf item
  · simp [same, chosen]
  · simp [same]

omit [DecidableEq K] in
/-- A list without repetition inside a list of the same length covers it. -/
theorem covers_of_length {covering covered : List K} (distinct : covering.Nodup)
    (inside : ∀ item ∈ covering, item ∈ covered) (counted : covered.length = covering.length) :
    ∀ item ∈ covered, item ∈ covering := by
  have rearranged : covering.Perm covered :=
    (List.subperm_of_subset distinct inside).perm_of_length_le (Nat.le_of_eq counted)
  exact fun item listed => rearranged.mem_iff.mpr listed

/-- A wider selection with as many keys selects the same items. -/
theorem selected_of_length {items : List A} {narrow wide : A → Prop} [DecidablePred narrow]
    [DecidablePred wide] (implies : ∀ item, narrow item → wide item)
    (counted : (distinctBy keyOf (items.filter fun item => wide item)).length =
      (distinctBy keyOf (items.filter fun item => narrow item)).length)
    {item : A} (listed : item ∈ items) (chosen : wide item) :
    ∃ other ∈ items, keyOf other = keyOf item ∧ narrow other := by
  have inside : ∀ wanted ∈ (distinctBy keyOf (items.filter fun item => narrow item)).map keyOf,
      wanted ∈ (distinctBy keyOf (items.filter fun item => wide item)).map keyOf := by
    intro wanted named
    obtain ⟨other, otherListed, rfl⟩ := List.mem_map.mp named
    obtain ⟨otherInside, otherNarrow⟩ :=
      List.mem_filter.mp (mem_of_mem_distinctBy keyOf otherListed)
    have otherWide : wide other := implies other (by simpa using otherNarrow)
    obtain ⟨first, firstListed, same⟩ := @exists_mem_distinctBy _ _ _ keyOf
      (items.filter fun item => wide item) other
      (List.mem_filter.mpr ⟨otherInside, by simpa using otherWide⟩)
    exact List.mem_map.mpr ⟨first, firstListed, same⟩
  have covers := covers_of_length (nodup_distinctBy keyOf _) inside (by simpa using counted)
  obtain ⟨first, firstListed, same⟩ := @exists_mem_distinctBy _ _ _ keyOf
    (items.filter fun item => wide item) item
    (List.mem_filter.mpr ⟨listed, by simpa using chosen⟩)
  obtain ⟨other, otherListed, otherSame⟩ :=
    List.mem_map.mp (covers _ (List.mem_map_of_mem firstListed))
  obtain ⟨otherInside, otherNarrow⟩ :=
    List.mem_filter.mp (mem_of_mem_distinctBy keyOf otherListed)
  exact ⟨other, otherInside, otherSame.trans same, by simpa using otherNarrow⟩

end Meadowlark.Systems
