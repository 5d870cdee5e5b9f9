import Meadowlark.Construction.Authorization.Body
import Meadowlark.Systems.Differences

namespace Meadowlark.Authorization
open Meadowlark.Core Systems

section Replacements
variable {current suggested text : List Char}

theorem replaceFirst_start (rest : List Char) (nonempty : current ≠ []) :
    replaceFirst current suggested (current ++ rest) = suggested ++ rest := by
  obtain ⟨first, others, rfl⟩ := List.exists_cons_of_ne_nil nonempty
  have starts : (first :: others).isPrefixOf (first :: (others ++ rest)) = true := by
    simp
  rw [List.cons_append, replaceFirst, if_pos starts]
  simp

theorem replaceFirst_skip {first : Char} {rest : List Char} (other : ¬ current <+: first :: rest) :
    replaceFirst current suggested (first :: rest) = first :: replaceFirst current suggested rest := by
  rw [replaceFirst, if_neg (by rwa [List.isPrefixOf_iff_prefix])]

/-- Only the first occurrence of a text is replaced. -/
theorem replaceFirst_occurring (nonempty : current ≠ []) (occurs : current <:+: text) :
    ∃ front back, text = front ++ current ++ back ∧
      replaceFirst current suggested text = front ++ suggested ++ back := by
  induction text with
  | nil => exact absurd (List.infix_nil.mp occurs) nonempty
  | cons first rest ih =>
      by_cases starts : current <+: first :: rest
      · obtain ⟨back, whole⟩ := starts
        have replaced := @replaceFirst_start _ suggested back nonempty
        rw [← whole]
        exact ⟨[], back, rfl, replaced⟩
      · have later := (List.infix_cons_iff.mp occurs).resolve_left starts
        obtain ⟨front, back, whole, replaced⟩ := ih later
        refine ⟨first :: front, back, ?_, ?_⟩
        · rw [whole]
          rfl
        · rw [replaceFirst_skip starts, replaced]
          rfl

theorem replaceFirst_absent (nonempty : current ≠ []) (absent : ¬ current <:+: text) :
    replaceFirst current suggested text = text := by
  induction text with
  | nil => rw [replaceFirst, if_neg nonempty]
  | cons first rest ih =>
      rw [List.infix_cons_iff, not_or] at absent
      rw [replaceFirst_skip absent.1, ih absent.2]

/-- An occurrence in front hides every later one. -/
theorem replaceFirst_front (nonempty : current ≠ []) (occurs : current <:+: text) (rest : List Char) :
    replaceFirst current suggested (text ++ rest) = replaceFirst current suggested text ++ rest := by
  induction text with
  | nil => exact absurd (List.infix_nil.mp occurs) nonempty
  | cons first others ih =>
      by_cases starts : current <+: first :: others
      · obtain ⟨back, whole⟩ := starts
        rw [← whole, List.append_assoc, replaceFirst_start _ nonempty,
          replaceFirst_start _ nonempty, List.append_assoc]
      · have later := (List.infix_cons_iff.mp occurs).resolve_left starts
        have beyond : ¬ current <+: first :: (others ++ rest) := fun longer =>
          starts (List.prefix_of_prefix_length_le longer ⟨rest, rfl⟩ (by
            simpa using later.length_le.trans (Nat.le_succ _)))
        rw [List.cons_append, replaceFirst_skip beyond, replaceFirst_skip starts, ih later]
        rfl

/-- An occurrence does not reach over a character that it does not hold. -/
theorem prefix_before {marker : Char} {before rest : List Char} (unmarked : marker ∉ current)
    (starts : current <+: before ++ marker :: rest) : current <+: before := by
  rcases List.prefix_or_prefix_of_prefix starts (List.prefix_append before _) with within | ⟨more, whole⟩
  · exact within
  · rw [← whole, List.prefix_append_right_inj] at starts
    cases more with
    | nil => exact ⟨[], by simpa using whole.symm⟩
    | cons next others =>
        obtain ⟨rfl, -⟩ := List.cons_prefix_cons.mp starts
        exact absurd (by simp [← whole]) unmarked

/-- A text that does not occur in front of a character is replaced behind it. -/
theorem replaceFirst_back {marker : Char} {before : List Char} (unmarked : marker ∉ current)
    (nonempty : current ≠ []) (absent : ¬ current <:+: before) (rest : List Char) :
    replaceFirst current suggested (before ++ marker :: rest) =
      before ++ marker :: replaceFirst current suggested rest := by
  induction before with
  | nil =>
      apply replaceFirst_skip
      intro starts
      exact nonempty (List.prefix_nil.mp (@prefix_before current marker [] rest unmarked starts))
  | cons first others ih =>
      rw [List.infix_cons_iff, not_or] at absent
      have beyond : ¬ current <+: first :: (others ++ marker :: rest) := fun starts =>
        absent.1 (@prefix_before current marker (first :: others) rest unmarked starts)
      rw [List.cons_append, replaceFirst_skip beyond, ih absent.2]
      rfl

theorem replaceFirst_length (same : suggested.length = current.length) (nonempty : current ≠ []) :
    (replaceFirst current suggested text).length = text.length := by
  by_cases occurs : current <:+: text
  · obtain ⟨front, back, whole, replaced⟩ := @replaceFirst_occurring current suggested text nonempty occurs
    rw [replaced, whole]
    simp [same]
  · rw [replaceFirst_absent nonempty occurs]

/-- A text differs from the one with a replacement in what was replaced. -/
theorem differences_replaceFirst (same : suggested.length = current.length) (nonempty : current ≠ [])
    (occurs : current <:+: text) :
    differences text (replaceFirst current suggested text) = differences current suggested := by
  obtain ⟨front, back, whole, replaced⟩ := @replaceFirst_occurring current suggested text nonempty occurs
  rw [replaced, whole, differences_append (by simp [same]), differences_append rfl, differences_self,
    differences_self, Nat.zero_add, Nat.add_zero]

theorem differences_replaceFirst_le (same : suggested.length = current.length) (nonempty : current ≠ []) :
    differences text (replaceFirst current suggested text) ≤ differences current suggested := by
  by_cases occurs : current <:+: text
  · exact (differences_replaceFirst same nonempty occurs).le
  · rw [replaceFirst_absent nonempty occurs, differences_self]
    exact Nat.zero_le _

end Replacements
section LetterCase

def kelvinSign : Char := Char.ofNat 0x212A

/-- Outside the ASCII letters only the Kelvin sign has an ASCII letter as its lower case. -/
def lowerCase (char : Char) : Char := if char = kelvinSign then 'k' else char.toLower

def SameUpToCase (first second : String) : Prop :=
  first.toList.map lowerCase = second.toList.map lowerCase

instance (first second : String) : Decidable (SameUpToCase first second) :=
  inferInstanceAs (Decidable (_ = _))

/-- The characters of the names that the schemas give to properties. -/
def keyCharacters : List Char := "abcdefghijklmnopqrstuvwxyz_N".toList

/-- Every name of a schema consists of these characters, and no two names are equal up to case. -/
theorem properties_written : ∀ schema ∈ bodySchemas,
    (∀ name ∈ schema.properties, name ≠ "" ∧ name.toList.Forall (· ∈ keyCharacters)) ∧
    (schema.properties.map fun name => name.toList.map lowerCase).Nodup := by
  decide

/-- A character is kept, or a character of a name replaces it that differs from it in case. -/
def Recased (char original : Char) : Prop :=
  char = original ∨ (lowerCase char = lowerCase original ∧ char ∈ keyCharacters)

theorem Recased.refl (char : Char) : Recased char char := Or.inl rfl

theorem Recased.trans {char between original : Char} (first : Recased char between)
    (second : Recased between original) : Recased char original := by
  rcases first with rfl | ⟨same, written⟩
  · exact second
  · rcases second with rfl | ⟨before, -⟩
    · exact Or.inr ⟨same, written⟩
    · exact Or.inr ⟨same.trans before, written⟩

theorem Recased.lowerCase_eq {char original : Char} (recased : Recased char original) :
    lowerCase char = lowerCase original := by
  rcases recased with rfl | ⟨same, -⟩
  · rfl
  · exact same

/-- A lower case character is kept, except that an n may become a capital. -/
theorem Recased.kept {char original : Char} (recased : Recased char original)
    (lower : lowerCase original = original) (other : original ≠ 'n') : char = original := by
  have capital : ∀ char ∈ keyCharacters, lowerCase char = char ∨ lowerCase char = 'n' :=
    List.forall_iff_forall_mem.mp (by decide)
  rcases recased with same | ⟨same, written⟩
  · exact same
  · rw [lower] at same
    rcases capital char written with lowered | lowered
    · exact lowered.symm.trans same
    · exact absurd (same.symm.trans lowered) other

theorem Recased.n_or_capital {char : Char} (recased : Recased char 'n') : char = 'n' ∨ char = 'N' := by
  have capital : ∀ char ∈ keyCharacters, lowerCase char = 'n' → char = 'n' ∨ char = 'N' :=
    List.forall_iff_forall_mem.mp (by decide)
  rcases recased with same | ⟨same, written⟩
  · exact Or.inl same
  · exact capital char written same

theorem recased_refl (text : List Char) : List.Forall₂ Recased text text :=
  List.forall₂_same.mpr fun char _ => Recased.refl char

theorem recased_trans {text between original : List Char} (first : List.Forall₂ Recased text between)
    (second : List.Forall₂ Recased between original) : List.Forall₂ Recased text original := by
  induction first generalizing original with
  | nil => exact second
  | cons here later ih =>
      cases second with
      | cons before remaining => exact List.Forall₂.cons (here.trans before) (ih remaining)

theorem recased_lowerCase {text original : List Char} (recased : List.Forall₂ Recased text original) :
    text.map lowerCase = original.map lowerCase := by
  induction recased with
  | nil => rfl
  | cons here later ih => rw [List.map_cons, List.map_cons, here.lowerCase_eq, ih]

/-- A name recases every text that is equal to it up to case. -/
theorem recased_of_name {name current : List Char} (written : ∀ char ∈ name, char ∈ keyCharacters)
    (same : current.map lowerCase = name.map lowerCase) : List.Forall₂ Recased name current := by
  induction name generalizing current with
  | nil =>
      rw [List.map_eq_nil_iff.mp same]
      exact List.Forall₂.nil
  | cons char rest ih =>
      obtain ⟨first, others, rfl, here, later⟩ := List.map_eq_cons_iff.mp same
      exact List.Forall₂.cons (Or.inr ⟨here.symm, written char List.mem_cons_self⟩)
        (ih (fun next listed => written next (List.mem_cons_of_mem char listed)) later)

theorem replaceFirst_recased {current suggested : List Char} (nonempty : current ≠ [])
    (recased : List.Forall₂ Recased suggested current) (text : List Char) :
    List.Forall₂ Recased (replaceFirst current suggested text) text := by
  by_cases occurs : current <:+: text
  · obtain ⟨front, back, whole, replaced⟩ := @replaceFirst_occurring current suggested text nonempty occurs
    rw [replaced, whole]
    exact List.rel_append (List.rel_append (recased_refl front) recased) (recased_refl back)
  · rw [replaceFirst_absent nonempty occurs]
    exact recased_refl text

end LetterCase
end Meadowlark.Authorization
