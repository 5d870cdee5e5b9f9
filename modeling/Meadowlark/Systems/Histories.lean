import Mathlib.Data.List.Induction
import Mathlib.Data.List.Infix

namespace Meadowlark.Systems
variable {Event : Type} {events : List Event} {event : Event}

/-- The property holds of each event and of the events before it. -/
def Along (property : List Event → Event → Prop) (events : List Event) : Prop :=
  ∀ before event, before ++ [event] <+: events → property before event

variable {property other : List Event → Event → Prop} {invariant : List Event → Prop}

theorem along_nil : Along property [] := by
  intro before event inside
  have short := inside.length_le
  simp at short

theorem along_append_singleton :
    Along property (events ++ [event]) ↔ Along property events ∧ property events event := by
  constructor
  · intro along
    exact ⟨fun before earlier inside => along before earlier (inside.trans (List.prefix_append _ _)),
      along events event List.prefix_rfl⟩
  · rintro ⟨along, last⟩ before earlier inside
    rcases List.prefix_concat_iff.mp inside with whole | inside
    · obtain ⟨rfl, same⟩ := List.append_inj' whole rfl
      obtain rfl := List.singleton_inj.mp same
      exact last
    · exact along before earlier inside

/-- An invariant holds after the events when each event preserves it. -/
theorem Along.maintained (along : Along property events) (start : invariant [])
    (preserved : ∀ before event, before ++ [event] <+: events → invariant before →
      property before event → invariant (before ++ [event])) : invariant events := by
  induction events using List.reverseRecOn with
  | nil => exact start
  | append_singleton events event ih =>
      obtain ⟨along, last⟩ := along_append_singleton.mp along
      have earlier := ih along fun before event inside =>
        preserved before event (inside.trans (List.prefix_append _ _))
      exact preserved events event List.prefix_rfl earlier last

/-- Two properties that agree on every event as long as the invariant holds agree along the events. -/
theorem along_congr (start : invariant [])
    (agree : ∀ before event, before ++ [event] <+: events → invariant before →
      (property before event ↔ other before event))
    (preserved : ∀ before event, before ++ [event] <+: events → invariant before →
      property before event → invariant (before ++ [event])) :
    Along property events ↔ Along other events := by
  induction events using List.reverseRecOn with
  | nil => exact iff_of_true along_nil along_nil
  | append_singleton events event ih =>
      have inner : ∀ before earlier, before ++ [earlier] <+: events →
          before ++ [earlier] <+: events ++ [event] :=
        fun before earlier inside => inside.trans (List.prefix_append _ _)
      rw [along_append_singleton, along_append_singleton,
        ih (fun before earlier inside => agree before earlier (inner before earlier inside))
          (fun before earlier inside => preserved before earlier (inner before earlier inside))]
      apply and_congr_right
      intro along
      have held : invariant events := along.maintained start fun before earlier inside holds last =>
        preserved before earlier (inner before earlier inside) holds
          ((agree before earlier (inner before earlier inside) holds).mpr last)
      exact agree events event List.prefix_rfl held

end Meadowlark.Systems
