import Meadowlark.Proof.Authorization.Replacements
import Meadowlark.Proof.Core.JsonRoundTrip

namespace Meadowlark.Authorization
open Meadowlark.Core Systems Json

section Strings

/-- The characters of an escape except for the one of a new line are kept. -/
theorem recased_kept {expected rest text : List Char}
    (lower : ∀ char ∈ expected, lowerCase char = char ∧ char ≠ 'n')
    (recased : List.Forall₂ Recased text (expected ++ rest)) :
    ∃ following, text = expected ++ following ∧ List.Forall₂ Recased following rest := by
  induction expected generalizing text with
  | nil => exact ⟨text, rfl, recased⟩
  | cons char others ih =>
      cases recased with
      | cons here later =>
          obtain ⟨settled, other⟩ := lower char List.mem_cons_self
          obtain ⟨following, rfl, remaining⟩ :=
            ih (fun next listed => lower next (List.mem_cons_of_mem char listed)) later
          exact ⟨following, by rw [here.kept settled other]; rfl, remaining⟩

/-- A character that is kept by every change of case. -/
theorem recased_head {char : Char} {rest text : List Char} (lower : lowerCase char = char)
    (other : char ≠ 'n') (recased : List.Forall₂ Recased text (char :: rest)) :
    ∃ following, text = char :: following ∧ List.Forall₂ Recased following rest :=
  recased_kept (fun next listed => by rw [List.mem_singleton.mp listed]; exact ⟨lower, other⟩) recased

theorem quoteChar_plain {char : Char} (unmarked : char ≠ quotationMark) (unescaped : char ≠ reverseSolidus)
    (printable : 32 ≤ char.toNat) : quoteChar char = [char] := by
  unfold quoteChar
  rw [if_neg (by tauto)]
  repeat rw [if_neg (by omega)]

/-- An escape is written in characters that are kept, except for the one of a new line. -/
theorem quoteChar_written (char : Char) :
    (quoteChar char = [char] ∧ char ≠ quotationMark ∧ char ≠ reverseSolidus ∧ 32 ≤ char.toNat) ∨
      quoteChar char = [reverseSolidus, 'n'] ∨
      ∃ escape, quoteChar char = reverseSolidus :: escape ∧
        ∀ written ∈ escape, lowerCase written = written ∧ written ≠ 'n' := by
  have control : ∀ code : Fin 32, quoteChar (Char.ofNat code.val) = [reverseSolidus, 'n'] ∨
      ((quoteChar (Char.ofNat code.val)).head? = some reverseSolidus ∧
        (quoteChar (Char.ofNat code.val)).tail.Forall fun written =>
          lowerCase written = written ∧ written ≠ 'n') := by decide
  by_cases marked : char = quotationMark
  · rw [marked]
    exact Or.inr (Or.inr ⟨[quotationMark], rfl, List.forall_iff_forall_mem.mp (by decide)⟩)
  · by_cases escaped : char = reverseSolidus
    · rw [escaped]
      exact Or.inr (Or.inr ⟨[reverseSolidus], rfl, List.forall_iff_forall_mem.mp (by decide)⟩)
    · by_cases printable : 32 ≤ char.toNat
      · exact Or.inl ⟨quoteChar_plain marked escaped printable, marked, escaped, printable⟩
      · have written := control ⟨char.toNat, by omega⟩
        rw [Char.ofNat_toNat] at written
        rcases written with newline | ⟨first, kept⟩
        · exact Or.inr (Or.inl newline)
        · exact Or.inr (Or.inr ⟨(quoteChar char).tail, (List.cons_head?_tail first).symm,
            List.forall_iff_forall_mem.mp kept⟩)

theorem takeEscape_quoteChar {char : Char} {escape : List Char}
    (written : quoteChar char = reverseSolidus :: escape) (rest : List Char) :
    takeEscape (escape ++ rest) = some (char, rest) := by
  rcases quoteChar_cases char with ⟨plain, -, unescaped, -⟩ | ⟨other, escaped, read⟩
  · rw [plain] at written
    exact absurd (List.cons.inj written).1 unescaped
  · rw [written] at escaped
    rw [(List.cons.inj escaped).2]
    exact read rest

/-- A recased escape that can be read is the escape itself. -/
theorem takeEscape_recased {char : Char} {escape rest text : List Char} {read : Char × List Char}
    (written : quoteChar char = reverseSolidus :: escape)
    (recased : List.Forall₂ Recased text (escape ++ rest)) (taken : takeEscape text = some read) :
    ∃ following, text = escape ++ following ∧ List.Forall₂ Recased following rest := by
  rcases quoteChar_written char with ⟨plain, -, unescaped, -⟩ | newline | ⟨other, escaped, kept⟩
  · rw [plain] at written
    exact absurd (List.cons.inj written).1 unescaped
  · rw [newline] at written
    obtain rfl := (List.cons.inj written).2
    cases recased with
    | @cons first _ following _ here later =>
        rcases here.n_or_capital with rfl | rfl
        · exact ⟨following, rfl, later⟩
        · exact absurd taken (by simp [takeEscape, quotationMark, reverseSolidus])
  · rw [written] at escaped
    obtain rfl := (List.cons.inj escaped).2
    exact recased_kept kept recased

/-- A character of a name is printed as it is. -/
theorem keyCharacters_plain : ∀ char ∈ keyCharacters,
    char ≠ quotationMark ∧ char ≠ reverseSolidus ∧ 32 ≤ char.toNat :=
  List.forall_iff_forall_mem.mp (by decide)

/-- A recased string that can be read has the text of what is read from it. -/
theorem takeString_recased {original : List Char} {rest text after read : List Char} {fuel : Nat}
    (taken : takeString fuel text = some (read, after))
    (recased : List.Forall₂ Recased text (original.flatMap quoteChar ++ quotationMark :: rest)) :
    text = read.flatMap quoteChar ++ quotationMark :: after ∧
      List.Forall₂ Recased after rest ∧ List.Forall₂ Recased read original := by
  induction original generalizing text read fuel with
  | nil =>
      obtain ⟨following, rfl, later⟩ := recased_head (by decide) (by decide) recased
      cases fuel with
      | zero => cases taken
      | succ fuel =>
          rw [takeString, if_pos rfl, Option.some_inj, Prod.mk.injEq] at taken
          obtain ⟨rfl, rfl⟩ := taken
          exact ⟨rfl, later, List.Forall₂.nil⟩
  | cons char others ih =>
      rw [List.flatMap_cons, List.append_assoc] at recased
      cases fuel with
      | zero => cases taken
      | succ fuel =>
      rcases quoteChar_cases char with ⟨plain, unmarked, unescaped, printable⟩ | ⟨escape, escaped, -⟩
      · rw [plain] at recased
        cases recased with
        | @cons first _ following _ here later =>
            have solid : first ≠ quotationMark ∧ first ≠ reverseSolidus ∧ 32 ≤ first.toNat := by
              rcases here with rfl | ⟨-, written⟩
              · exact ⟨unmarked, unescaped, printable⟩
              · exact keyCharacters_plain first written
            rw [takeString_plain solid.1 solid.2.1 solid.2.2, Option.map_eq_some_iff] at taken
            obtain ⟨⟨remaining, behind⟩, shorter, whole⟩ := taken
            rw [Prod.mk.injEq] at whole
            obtain ⟨rfl, rfl⟩ := whole
            obtain ⟨text, outside, inside⟩ := ih shorter later
            refine ⟨?_, outside, List.Forall₂.cons here inside⟩
            rw [List.flatMap_cons, quoteChar_plain solid.1 solid.2.1 solid.2.2, text]
            rfl
      · rw [escaped] at recased
        obtain ⟨marked, rfl, later⟩ := recased_head (by decide) (by decide) recased
        cases unmarked : takeEscape marked with
        | none =>
            rw [takeString, if_neg (by decide), if_pos rfl, unmarked] at taken
            cases taken
        | some unescaped =>
            obtain ⟨following, rfl, behind⟩ := takeEscape_recased escaped later unmarked
            rw [takeString_escape (takeEscape_quoteChar escaped following), Option.map_eq_some_iff] at taken
            obtain ⟨⟨remaining, last⟩, shorter, whole⟩ := taken
            rw [Prod.mk.injEq] at whole
            obtain ⟨rfl, rfl⟩ := whole
            obtain ⟨text, outside, inside⟩ := ih shorter behind
            refine ⟨?_, outside, List.Forall₂.cons (Recased.refl char) inside⟩
            rw [List.flatMap_cons, escaped, text]
            simp

end Strings
section Values

/-- The values that a valid body holds: texts, truth values and lists of texts. -/
def FlatValue : Json → Prop
  | .string _ => True
  | .boolean _ => True
  | .array elements => ∃ texts : List String, elements = texts.map Json.string
  | _ => False

theorem FlatValue.numberless {value : Json} (flat : FlatValue value) : value.Numberless := by
  cases value with
  | string text => trivial
  | boolean value => trivial
  | array elements =>
      obtain ⟨texts, rfl⟩ := flat
      show NumberlessElements _
      induction texts with
      | nil => trivial
      | cons text rest ih => exact ⟨trivial, ih⟩
  | null => exact flat.elim
  | number text => exact flat.elim
  | object fields => exact flat.elim

theorem takeString_quoted_recased {original : String} {rest text after : List Char} {read : List Char}
    {fuel : Nat} (taken : takeString fuel text = some (read, after))
    (recased : List.Forall₂ Recased (quotationMark :: text) (quote original ++ rest)) :
    quotationMark :: text = quote (String.ofList read) ++ after ∧
      List.Forall₂ Recased after rest ∧ List.Forall₂ Recased read original.toList := by
  rw [quote_append] at recased
  obtain ⟨following, same, later⟩ := recased_head (by decide) (by decide) recased
  obtain rfl := (List.cons.inj same).2
  obtain ⟨whole, outside, inside⟩ := takeString_recased taken later
  exact ⟨by rw [whole, quote_append, String.toList_ofList], outside, inside⟩

variable [NodeRuntime]

/-- A recased value that can be read has the text of what is read from it. -/
theorem takeString_value {original : String} {rest text after : List Char} {read : Json} {fuel : Nat}
    (taken : takeValue fuel text = some (read, after))
    (recased : List.Forall₂ Recased text (quote original ++ rest)) :
    text = stringifyChars read ++ after ∧ List.Forall₂ Recased after rest := by
  have first := recased
  rw [quote_append] at first
  obtain ⟨following, rfl, -⟩ := recased_head (by decide) (by decide) first
  cases fuel with
  | zero => cases taken
  | succ fuel =>
      rw [takeValue, skipBlanks_cons (show isBlank quotationMark = false by decide)] at taken
      simp only [if_pos, Option.bind_eq_bind, Option.bind_eq_some_iff, Option.pure_def,
        Option.some.injEq, Prod.exists, Prod.mk.injEq] at taken
      obtain ⟨characters, behind, shorter, rfl, rfl⟩ := taken
      obtain ⟨whole, outside, -⟩ := takeString_quoted_recased shorter recased
      exact ⟨whole, outside⟩

omit [NodeRuntime] in
/-- A mark behind a text is read, since no change of case touches it. -/
theorem takeText_recased {mark : Char} {text rest : List Char} (lower : lowerCase mark = mark)
    (other : mark ≠ 'n') (solid : isBlank mark = false)
    (recased : List.Forall₂ Recased text (mark :: rest)) :
    ∃ following, text = mark :: following ∧ takeText [mark] (skipBlanks text) = some following ∧
      List.Forall₂ Recased following rest := by
  obtain ⟨following, rfl, later⟩ := recased_head lower other recased
  exact ⟨following, rfl, by rw [skipBlanks_cons solid, takeText_head], later⟩

theorem takeElements_recased {original : String} {texts : List String} {rest text after : List Char}
    {read : List Json} {fuel : Nat} (taken : takeElements fuel text = some (read, after))
    (recased : List.Forall₂ Recased text
      (stringifyElements ((original :: texts).map Json.string) ++ rest)) :
    read ≠ [] ∧ text = stringifyElements read ++ after ∧ List.Forall₂ Recased after rest := by
  induction texts generalizing original text read fuel with
  | nil =>
      cases fuel with
      | zero => cases taken
      | succ fuel =>
          obtain ⟨value, behind, valued, cases⟩ := takeElements_cases taken
          have quoted : stringifyElements ([original].map Json.string) ++ rest =
              quote original ++ ']' :: rest := by
            simp [stringifyElements, stringifyChars]
          rw [quoted] at recased
          obtain ⟨whole, outside⟩ := takeString_value valued recased
          obtain ⟨following, rfl, closed, later⟩ := takeText_recased (by decide) (by decide) (by decide) outside
          rcases cases with ⟨next, values, comma, -⟩ | ⟨-, bracket, rfl⟩
          · rw [skipBlanks_cons (by decide), takeText_other (by decide)] at comma
            cases comma
          · rw [closed, Option.some_inj] at bracket
            subst bracket
            refine ⟨List.cons_ne_nil value [], ?_, later⟩
            rw [whole, stringifyElements, List.append_assoc]
            rfl
  | cons next texts ih =>
      cases fuel with
      | zero => cases taken
      | succ fuel =>
          obtain ⟨value, behind, valued, cases⟩ := takeElements_cases taken
          have quoted : stringifyElements ((original :: next :: texts).map Json.string) ++ rest =
              quote original ++ ',' :: (stringifyElements ((next :: texts).map Json.string) ++ rest) := by
            simp [stringifyElements_cons, stringifyChars]
          rw [quoted] at recased
          obtain ⟨whole, outside⟩ := takeString_value valued recased
          obtain ⟨following, rfl, separated, later⟩ :=
            takeText_recased (by decide) (by decide) (by decide) outside
          rcases cases with ⟨opened, values, comma, elements, rfl⟩ | ⟨comma, -⟩
          · rw [separated, Option.some_inj] at comma
            subst comma
            obtain ⟨filled, inside, behind⟩ := ih elements later
            obtain ⟨first, others, rfl⟩ := List.exists_cons_of_ne_nil filled
            refine ⟨List.cons_ne_nil _ _, ?_, behind⟩
            rw [whole, stringifyElements_cons, inside, List.append_assoc]
            rfl
          · rw [separated] at comma
            cases comma

omit [NodeRuntime] in
theorem stringifyElements_quoted (original : String) (texts : List String) :
    ∃ others, stringifyElements ((original :: texts).map Json.string) = quotationMark :: others := by
  cases texts with
  | nil => exact ⟨_, rfl⟩
  | cons next rest => exact ⟨_, rfl⟩

/-- A recased value that can be read has the text of what is read from it. -/
theorem takeValue_recased {value : Json} (flat : FlatValue value) {rest text after : List Char}
    {read : Json} {fuel : Nat} (taken : takeValue fuel text = some (read, after))
    (recased : List.Forall₂ Recased text (stringifyChars value ++ rest)) :
    text = stringifyChars read ++ after ∧ List.Forall₂ Recased after rest := by
  cases value with
  | string original => exact takeString_value taken recased
  | boolean value =>
      have kept : ∀ char ∈ stringifyChars (.boolean value), lowerCase char = char ∧ char ≠ 'n' := by
        cases value <;> exact List.forall_iff_forall_mem.mp (by decide)
      obtain ⟨following, rfl, later⟩ := recased_kept kept recased
      cases fuel with
      | zero => cases taken
      | succ fuel =>
          have literal : takeValue (fuel + 1) (stringifyChars (.boolean value) ++ following) =
              some (.boolean value, following) := by
            cases value <;> rfl
          rw [literal, Option.some_inj, Prod.mk.injEq] at taken
          obtain ⟨rfl, rfl⟩ := taken
          exact ⟨rfl, later⟩
  | array elements =>
      obtain ⟨texts, rfl⟩ := flat
      obtain ⟨following, rfl, later⟩ := recased_head (by decide) (by decide) recased
      cases fuel with
      | zero => cases taken
      | succ fuel =>
      cases texts with
      | nil =>
          obtain ⟨behind, rfl, remaining⟩ := recased_head (by decide) (by decide) later
          have empty : takeValue (fuel + 1) ('[' :: ']' :: behind) = some (.array [], behind) := rfl
          rw [empty, Option.some_inj, Prod.mk.injEq] at taken
          obtain ⟨rfl, rfl⟩ := taken
          exact ⟨rfl, remaining⟩
      | cons original texts =>
          obtain ⟨others, opened⟩ := stringifyElements_quoted original texts
          have first := later
          rw [opened] at first
          obtain ⟨behind, rfl, -⟩ := recased_head (by decide) (by decide) first
          rw [takeValue_elements (by decide) (by decide), Option.map_eq_some_iff] at taken
          obtain ⟨⟨elements, remaining⟩, shorter, whole⟩ := taken
          rw [Prod.mk.injEq] at whole
          obtain ⟨rfl, rfl⟩ := whole
          obtain ⟨filled, inside, outside⟩ := takeElements_recased shorter later
          refine ⟨?_, outside⟩
          rw [inside]
          rfl
  | null => exact flat.elim
  | number text => exact flat.elim
  | object fields => exact flat.elim

end Values
section Fields

def lowered (name : String) : List Char := name.toList.map lowerCase

/-- No two fields have names that are equal up to case. -/
def Caseless (fields : List (String × Json)) : Prop := (fields.map fun field => lowered field.1).Nodup

/-- A name that is told from the earlier ones without case is a new name. -/
theorem assign_recased {earlier : List (String × Json)} {field : String × Json}
    {fields : List (String × Json)} (distinct : Caseless (earlier ++ field :: fields)) {name : String}
    (same : lowered name = lowered field.1) (value : Json) :
    Json.assign earlier name value = earlier ++ [(name, value)] := by
  apply assign_new
  intro repeated
  obtain ⟨other, listed, named⟩ := List.mem_map.mp repeated
  rw [Caseless, List.map_append, List.nodup_append] at distinct
  apply distinct.2.2 (lowered other.1) (List.mem_map_of_mem listed) (lowered field.1) (by simp)
  rw [named, same]

variable [NodeRuntime]

/-- A recased field that can be read has the text of what is read from it. -/
theorem takeField_recased {original : String} {value : Json} (flat : FlatValue value)
    {text opened name colon following behind rest : List Char} {read : Json} {fuel : Nat}
    (recased : List.Forall₂ Recased text (quote original ++ ':' :: (stringifyChars value ++ rest)))
    (marked : takeText [quotationMark] (skipBlanks text) = some opened)
    (named : takeString fuel opened = some (name, colon))
    (separated : takeText [':'] (skipBlanks colon) = some following)
    (valued : takeValue fuel following = some (read, behind)) :
    text = quote (String.ofList name) ++ ':' :: (stringifyChars read ++ behind) ∧
      List.Forall₂ Recased behind rest ∧ lowered (String.ofList name) = lowered original := by
  have first := recased
  rw [quote_append] at first
  obtain ⟨chars, rfl, begins, -⟩ := takeText_recased (by decide) (by decide) (by decide) first
  rw [begins, Option.some_inj] at marked
  subst marked
  obtain ⟨whole, outside, inside⟩ := takeString_quoted_recased named recased
  obtain ⟨remaining, rfl, continues, later⟩ := takeText_recased (by decide) (by decide) (by decide) outside
  rw [continues, Option.some_inj] at separated
  subst separated
  obtain ⟨valueText, beyond⟩ := takeValue_recased flat valued later
  refine ⟨by rw [whole, valueText], beyond, ?_⟩
  rw [lowered, String.toList_ofList]
  exact recased_lowerCase inside

theorem takeFields_recased {field : String × Json} {fields earlier read : List (String × Json)}
    {rest text after : List Char} {fuel : Nat} (flat : ∀ listed ∈ field :: fields, FlatValue listed.2)
    (distinct : Caseless (earlier ++ field :: fields))
    (taken : takeFields fuel earlier text = some (read, after))
    (recased : List.Forall₂ Recased text (stringifyFields (field :: fields) ++ rest)) :
    ∃ new, new ≠ [] ∧ read = earlier ++ new ∧ text = stringifyFields new ++ after ∧
      List.Forall₂ Recased after rest := by
  induction fields generalizing field earlier text fuel with
  | nil =>
      obtain ⟨original, value⟩ := field
      cases fuel with
      | zero => cases taken
      | succ fuel =>
          obtain ⟨opened, name, colon, following, found, behind, marked, named, separated, valued, cases⟩ :=
            takeFields_cases taken
          have printed : stringifyFields [(original, value)] ++ rest =
              quote original ++ ':' :: (stringifyChars value ++ '\x7d' :: rest) := by
            simp [stringifyFields]
          rw [printed] at recased
          obtain ⟨whole, outside, same⟩ := takeField_recased (flat _ List.mem_cons_self) recased
            marked named separated valued
          obtain ⟨ending, rfl, closed, later⟩ := takeText_recased (by decide) (by decide) (by decide) outside
          rcases cases with ⟨next, comma, -⟩ | ⟨-, brace, rfl⟩
          · rw [skipBlanks_cons (by decide), takeText_other (by decide)] at comma
            cases comma
          · rw [closed, Option.some_inj] at brace
            subst brace
            refine ⟨[(String.ofList name, found)], List.cons_ne_nil _ _, assign_recased distinct same found,
              ?_, later⟩
            rw [whole]
            simp [stringifyFields]
  | cons next others ih =>
      obtain ⟨original, value⟩ := field
      cases fuel with
      | zero => cases taken
      | succ fuel =>
          obtain ⟨opened, name, colon, following, found, behind, marked, named, separated, valued, cases⟩ :=
            takeFields_cases taken
          have printed : stringifyFields ((original, value) :: next :: others) ++ rest =
              quote original ++ ':' :: (stringifyChars value ++
                ',' :: (stringifyFields (next :: others) ++ rest)) := by
            simp [stringifyFields_cons]
          rw [printed] at recased
          obtain ⟨whole, outside, same⟩ := takeField_recased (flat _ List.mem_cons_self) recased
            marked named separated valued
          obtain ⟨ending, rfl, comma, later⟩ := takeText_recased (by decide) (by decide) (by decide) outside
          rcases cases with ⟨remaining, separator, taken⟩ | ⟨separator, -⟩
          · rw [comma, Option.some_inj] at separator
            subst separator
            rw [assign_recased distinct same] at taken
            obtain ⟨new, filled, rfl, inside, beyond⟩ := ih
              (fun listed member => flat listed (List.mem_cons_of_mem _ member))
              (by simpa [Caseless, same] using distinct) taken later
            obtain ⟨first, new, rfl⟩ := List.exists_cons_of_ne_nil filled
            refine ⟨(String.ofList name, found) :: first :: new, List.cons_ne_nil _ _, by simp, ?_, beyond⟩
            rw [whole, stringifyFields_cons, inside]
            simp
          · rw [comma] at separator
            cases separator

/-- A recased object of flat values that can be parsed has the text of what is parsed from it. -/
theorem parse_recased {fields : List (String × Json)} (flat : ∀ field ∈ fields, FlatValue field.2)
    (distinct : Caseless fields) {text : List Char} {read : Json}
    (parsed : parse (String.ofList text) = some read)
    (recased : List.Forall₂ Recased text (stringifyChars (.object fields))) :
    text = stringifyChars read := by
  unfold parse at parsed
  rw [String.toList_ofList] at parsed
  cases taken : takeValue ((String.ofList text).length + 1) text with
  | none =>
      rw [taken] at parsed
      cases parsed
  | some result =>
      obtain ⟨value, after⟩ := result
      rw [taken] at parsed
      have ending : value = read := by
        by_cases finished : skipBlanks after = []
        · exact Option.some_inj.mp ((if_pos finished).symm.trans parsed)
        · exact absurd ((if_neg finished).symm.trans parsed) (by simp)
      rw [← ending]
      rw [stringifyChars] at recased
      obtain ⟨following, rfl, later⟩ := recased_head (by decide) (by decide) recased
      cases fields with
      | nil =>
          obtain ⟨behind, rfl, remaining⟩ := recased_head (by decide) (by decide) later
          obtain rfl := List.forall₂_nil_right_iff.mp remaining
          cases taken
          rfl
      | cons field fields =>
          obtain ⟨others, opened⟩ := stringifyFields_head field fields
          have first := later
          rw [opened] at first
          obtain ⟨behind, rfl, -⟩ := recased_head (by decide) (by decide) first
          rw [takeValue_fields, Option.map_eq_some_iff] at taken
          obtain ⟨⟨found, remaining⟩, shorter, whole⟩ := taken
          rw [Prod.mk.injEq] at whole
          obtain ⟨rfl, rfl⟩ := whole
          rw [← List.append_nil (stringifyFields (field :: fields))] at later
          obtain ⟨new, -, rfl, inside, beyond⟩ := takeFields_recased flat distinct shorter later
          obtain rfl := List.forall₂_nil_right_iff.mp beyond
          rw [inside, List.append_nil]
          rfl

end Fields
end Meadowlark.Authorization
