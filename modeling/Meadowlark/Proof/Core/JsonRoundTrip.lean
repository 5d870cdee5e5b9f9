import Meadowlark.Construction.Core.JsonText

namespace Meadowlark.Core.Json

section Strings

theorem hexValue_hexDigits : ∀ value : Fin 16, hexValue (hexDigits.getD value '0') = some value.val := by
  decide

/-- The escape of a control character is read as the character. -/
theorem takeEscape_unicodeEscape {char : Char} (control : char.toNat < 32) (rest : List Char) :
    takeEscape ((unicodeEscape char).tail ++ rest) = some (char, rest) := by
  have high := hexValue_hexDigits ⟨char.toNat / 16, by omega⟩
  have low := hexValue_hexDigits ⟨char.toNat % 16, by omega⟩
  have zero : hexValue '0' = some 0 := by decide
  have unit : ((0 * 16 + 0) * 16 + char.toNat / 16) * 16 + char.toNat % 16 = char.toNat := by omega
  show takeUnicode _ = _
  unfold takeUnicode takeCodeUnit
  simp only [List.append_eq, List.cons_append, List.nil_append]
  rw [zero, high, low]
  simp only [Option.bind_eq_bind, Option.bind_some, Option.pure_def, unit]
  rw [if_neg (by omega), if_neg (by omega), Char.ofNat_toNat]

theorem takeString_plain {char : Char} (unmarked : char ≠ quotationMark)
    (unescaped : char ≠ reverseSolidus) (printable : 32 ≤ char.toNat) (fuel : Nat)
    (chars : List Char) :
    takeString (fuel + 1) (char :: chars) =
      (takeString fuel chars).map fun taken => (char :: taken.1, taken.2) := by
  rw [takeString, if_neg unmarked, if_neg unescaped, if_neg (by omega)]
  cases takeString fuel chars <;> rfl

theorem takeString_escape {chars following : List Char} {escaped : Char}
    (escape : takeEscape chars = some (escaped, following)) (fuel : Nat) :
    takeString (fuel + 1) (reverseSolidus :: chars) =
      (takeString fuel following).map fun taken => (escaped :: taken.1, taken.2) := by
  rw [takeString, if_neg (by decide), if_pos rfl, escape]
  show (takeString fuel following >>= _) = _
  cases takeString fuel following <;> rfl

/-- A character is the one with its code. -/
theorem char_of_toNat {char : Char} {code : Nat} (same : char.toNat = code) :
    char = Char.ofNat code := by
  rw [← same, Char.ofNat_toNat]

/-- A character stands for itself, or it is written as an escape that is read as the character. -/
theorem quoteChar_cases (char : Char) :
    (quoteChar char = [char] ∧ char ≠ quotationMark ∧ char ≠ reverseSolidus ∧ 32 ≤ char.toNat) ∨
      ∃ escape, quoteChar char = reverseSolidus :: escape ∧
        ∀ rest, takeEscape (escape ++ rest) = some (char, rest) := by
  unfold quoteChar
  split_ifs with marked backspace tab newline feed carriage control
  · exact Or.inr ⟨[char], rfl, fun rest => if_pos (by tauto)⟩
  · exact Or.inr ⟨['b'], rfl, fun rest => by rw [char_of_toNat backspace]; rfl⟩
  · exact Or.inr ⟨['t'], rfl, fun rest => by rw [char_of_toNat tab]; rfl⟩
  · exact Or.inr ⟨['n'], rfl, fun rest => by rw [char_of_toNat newline]; rfl⟩
  · exact Or.inr ⟨['f'], rfl, fun rest => by rw [char_of_toNat feed]; rfl⟩
  · exact Or.inr ⟨['r'], rfl, fun rest => by rw [char_of_toNat carriage]; rfl⟩
  · exact Or.inr ⟨(unicodeEscape char).tail, rfl, takeEscape_unicodeEscape control⟩
  · obtain ⟨unmarked, unescaped⟩ := not_or.mp marked
    exact Or.inl ⟨rfl, unmarked, unescaped, by omega⟩

theorem takeString_quoteChar (char : Char) (fuel : Nat) (chars : List Char) :
    takeString (fuel + 1) (quoteChar char ++ chars) =
      (takeString fuel chars).map fun taken => (char :: taken.1, taken.2) := by
  rcases quoteChar_cases char with ⟨plain, unmarked, unescaped, printable⟩ | ⟨escape, escaped, read⟩
  · rw [plain]
    exact takeString_plain unmarked unescaped printable fuel chars
  · rw [escaped]
    exact takeString_escape (read chars) fuel

/-- A quoted text is read back up to its closing mark. -/
theorem takeString_quoted (text rest : List Char) {fuel : Nat} (enough : text.length < fuel) :
    takeString fuel (text.flatMap quoteChar ++ quotationMark :: rest) = some (text, rest) := by
  induction text generalizing fuel with
  | nil =>
      obtain ⟨fuel, rfl⟩ := Nat.exists_eq_succ_of_ne_zero (Nat.pos_iff_ne_zero.mp enough)
      rfl
  | cons char others ih =>
      obtain ⟨fuel, rfl⟩ := Nat.exists_eq_succ_of_ne_zero (Nat.ne_zero_of_lt enough)
      have later := @ih fuel (by simpa using enough)
      rw [List.flatMap_cons, List.append_assoc, takeString_quoteChar, later]
      rfl

end Strings
section Values

mutual
/-- A value without numbers in which no object has a name twice. -/
def Numberless : Json → Prop
  | .number _ => False
  | .array elements => NumberlessElements elements
  | .object fields => (fields.map Prod.fst).Nodup ∧ NumberlessFields fields
  | _ => True

def NumberlessElements : List Json → Prop
  | [] => True
  | element :: rest => element.Numberless ∧ NumberlessElements rest

def NumberlessFields : List (String × Json) → Prop
  | [] => True
  | (_, value) :: rest => value.Numberless ∧ NumberlessFields rest
end

/-- The text of a value starts with a character that is no blank and closes nothing. -/
theorem stringifyChars_head {value : Json} (numberless : value.Numberless) :
    ∃ first others, stringifyChars value = first :: others ∧ isBlank first = false ∧ first ≠ ']' := by
  cases value with
  | null => exact ⟨'n', _, rfl, by decide, by decide⟩
  | boolean value =>
      cases value
      · exact ⟨'f', _, rfl, by decide, by decide⟩
      · exact ⟨'t', _, rfl, by decide, by decide⟩
  | number text => exact absurd numberless id
  | string text => exact ⟨quotationMark, _, rfl, by decide, by decide⟩
  | array elements => exact ⟨'[', _, rfl, by decide, by decide⟩
  | object fields => exact ⟨'\x7b', _, rfl, by decide, by decide⟩

theorem skipBlanks_cons {first : Char} (solid : isBlank first = false) (rest : List Char) :
    skipBlanks (first :: rest) = first :: rest := by
  unfold skipBlanks
  rw [List.dropWhile_cons_of_neg (by simp [solid])]

theorem length_quoted (text : List Char) : text.length ≤ (text.flatMap quoteChar).length := by
  induction text with
  | nil => exact le_refl 0
  | cons char rest ih =>
      have filled : 1 ≤ (quoteChar char).length := by
        rcases quoteChar_cases char with ⟨plain, -⟩ | ⟨escape, escaped, -⟩
        · rw [plain]
          exact le_refl 1
        · rw [escaped]
          exact Nat.succ_le_succ (Nat.zero_le _)
      rw [List.flatMap_cons, List.length_append, List.length_cons]
      omega

theorem quote_append (text : String) (rest : List Char) :
    quote text ++ rest = quotationMark :: (text.toList.flatMap quoteChar ++ quotationMark :: rest) := by
  simp [quote]

theorem length_quote (text : String) : text.toList.length + 2 ≤ (quote text).length := by
  have longer := length_quoted text.toList
  simp only [quote, List.length_cons, List.length_append, List.length_nil]
  omega

theorem takeText_head (char : Char) (rest : List Char) : takeText [char] (char :: rest) = some rest := by
  simp [takeText]

theorem takeText_other {expected first : Char} (other : expected ≠ first) (rest : List Char) :
    takeText [expected] (first :: rest) = none := by
  simp [takeText, other]

/-- A name that no field has yet is put behind the fields. -/
theorem assign_new {fields : List (String × Json)} {name : String} (value : Json)
    (new : name ∉ fields.map Prod.fst) : assign fields name value = fields ++ [(name, value)] :=
  if_neg new

theorem stringifyElements_cons (element next : Json) (rest : List Json) :
    stringifyElements (element :: next :: rest) =
      stringifyChars element ++ ',' :: stringifyElements (next :: rest) := rfl

theorem stringifyElements_head {element : Json} {elements : List Json}
    (numberless : NumberlessElements (element :: elements)) :
    ∃ first others, stringifyElements (element :: elements) = first :: others ∧
      isBlank first = false ∧ first ≠ ']' := by
  obtain ⟨first, others, text, solid, unclosed⟩ := stringifyChars_head numberless.1
  cases elements with
  | nil => exact ⟨first, others ++ [']'], by rw [stringifyElements, text]; rfl, solid, unclosed⟩
  | cons next rest =>
      exact ⟨first, others ++ ',' :: stringifyElements (next :: rest),
        by rw [stringifyElements_cons, text]; rfl, solid, unclosed⟩

theorem stringifyFields_head (field : String × Json) (fields : List (String × Json)) :
    ∃ others, stringifyFields (field :: fields) = quotationMark :: others := by
  cases fields with
  | nil => exact ⟨_, rfl⟩
  | cons next rest => exact ⟨_, rfl⟩

theorem stringifyFields_cons (name : String) (value : Json) (next : String × Json)
    (rest : List (String × Json)) :
    stringifyFields ((name, value) :: next :: rest) =
      quote name ++ ':' :: stringifyChars value ++ ',' :: stringifyFields (next :: rest) := rfl

variable [NodeRuntime]

/-- An array that is not closed at once holds elements. -/
theorem takeValue_elements {first : Char} (solid : isBlank first = false) (unclosed : first ≠ ']')
    (fuel : Nat) (rest : List Char) :
    takeValue (fuel + 1) ('[' :: first :: rest) =
      (takeElements fuel (first :: rest)).map fun taken => (.array taken.1, taken.2) := by
  rw [takeValue, skipBlanks_cons (show isBlank '[' = false by decide)]
  dsimp only
  rw [if_neg (by decide), if_pos rfl, skipBlanks_cons solid, takeText_other unclosed.symm]
  cases takeElements fuel (first :: rest) <;> rfl

/-- An object whose text goes on with a name holds fields. -/
theorem takeValue_fields (fuel : Nat) (rest : List Char) :
    takeValue (fuel + 1) ('\x7b' :: quotationMark :: rest) =
      (takeFields fuel [] (quotationMark :: rest)).map fun taken => (.object taken.1, taken.2) := by
  rw [takeValue, skipBlanks_cons (show isBlank '\x7b' = false by decide)]
  dsimp only
  rw [if_neg (by decide), if_neg (by decide), if_pos rfl,
    skipBlanks_cons (show isBlank quotationMark = false by decide),
    takeText_other (show ('\x7d' : Char) ≠ quotationMark by decide)]
  cases takeFields fuel [] (quotationMark :: rest) <;> rfl

/-- With so much fuel every text of a value is read back as the value. -/
structure ReadsBack (fuel : Nat) : Prop where
  value {value : Json} (numberless : value.Numberless)
    (enough : (stringifyChars value).length ≤ fuel) (rest : List Char) :
    takeValue fuel (stringifyChars value ++ rest) = some (value, rest)
  elements {element : Json} {elements : List Json}
    (numberless : NumberlessElements (element :: elements))
    (enough : (stringifyElements (element :: elements)).length ≤ fuel) (rest : List Char) :
    takeElements fuel (stringifyElements (element :: elements) ++ rest) =
      some (element :: elements, rest)
  fields {field : String × Json} {fields taken : List (String × Json)}
    (numberless : NumberlessFields (field :: fields))
    (distinct : ((taken ++ field :: fields).map Prod.fst).Nodup)
    (enough : (stringifyFields (field :: fields)).length ≤ fuel) (rest : List Char) :
    takeFields fuel taken (stringifyFields (field :: fields) ++ rest) =
      some (taken ++ field :: fields, rest)

theorem takeElements_step {fuel : Nat} (reads : ReadsBack fuel) {element : Json} {elements : List Json}
    (numberless : NumberlessElements (element :: elements))
    (enough : (stringifyElements (element :: elements)).length ≤ fuel + 1) (rest : List Char) :
    takeElements (fuel + 1) (stringifyElements (element :: elements) ++ rest) =
      some (element :: elements, rest) := by
  cases elements with
  | nil =>
      rw [stringifyElements, List.length_append, List.length_singleton] at enough
      rw [stringifyElements, List.append_assoc, takeElements,
        reads.value numberless.1 (by omega)]
      simp [skipBlanks_cons (show isBlank ']' = false by decide), takeText_head,
        takeText_other (show (',' : Char) ≠ ']' by decide)]
  | cons next others =>
      rw [stringifyElements_cons, List.length_append, List.length_cons] at enough
      have later := reads.elements numberless.2 (by omega) rest
      rw [stringifyElements_cons, List.append_assoc, takeElements,
        reads.value numberless.1 (by omega)]
      simp [skipBlanks_cons (show isBlank ',' = false by decide), takeText_head, later]

/-- A field is assigned once its name and its value have been read. -/
theorem takeFields_field {fuel : Nat} {name : String} (enough : name.toList.length < fuel)
    {value : Json} {following afterValue : List Char}
    (read : takeValue fuel following = some (value, afterValue)) (taken : List (String × Json)) :
    takeFields (fuel + 1) taken (quote name ++ ':' :: following) =
      match takeText [','] (skipBlanks afterValue) with
      | some rest => takeFields fuel (assign taken name value) rest
      | none => (takeText ['\x7d'] (skipBlanks afterValue)).map fun remaining =>
          (assign taken name value, remaining) := by
  have named := @takeString_quoted name.toList (':' :: following) fuel enough
  rw [quote_append, takeFields, skipBlanks_cons (show isBlank quotationMark = false by decide),
    takeText_head]
  simp only [Option.bind_eq_bind, Option.bind_some, named]
  rw [skipBlanks_cons (show isBlank ':' = false by decide), takeText_head]
  simp only [Option.bind_some, read, String.ofList_toList]
  cases takeText [','] (skipBlanks afterValue) with
  | some rest => rfl
  | none => cases takeText ['\x7d'] (skipBlanks afterValue) <;> rfl

theorem takeFields_step {fuel : Nat} (reads : ReadsBack fuel) {field : String × Json}
    {fields taken : List (String × Json)} (numberless : NumberlessFields (field :: fields))
    (distinct : ((taken ++ field :: fields).map Prod.fst).Nodup)
    (enough : (stringifyFields (field :: fields)).length ≤ fuel + 1) (rest : List Char) :
    takeFields (fuel + 1) taken (stringifyFields (field :: fields) ++ rest) =
      some (taken ++ field :: fields, rest) := by
  obtain ⟨name, value⟩ := field
  have new : name ∉ taken.map Prod.fst := by
    rw [List.map_append, List.nodup_append] at distinct
    exact fun repeated => distinct.2.2 name repeated name (by simp) rfl
  have named := length_quote name
  cases fields with
  | nil =>
      simp only [stringifyFields, List.length_append, List.length_cons, List.length_nil] at enough
      have read := reads.value numberless.1 (by omega) ('\x7d' :: rest)
      have text : stringifyFields [(name, value)] ++ rest =
          quote name ++ ':' :: (stringifyChars value ++ '\x7d' :: rest) := by
        simp [stringifyFields]
      rw [text, takeFields_field (by omega) read,
        skipBlanks_cons (show isBlank '\x7d' = false by decide), assign_new value new]
      simp [takeText_head, takeText_other (show (',' : Char) ≠ '\x7d' by decide)]
  | cons next others =>
      simp only [stringifyFields_cons, List.length_append, List.length_cons] at enough
      have read := reads.value numberless.1 (by omega) (',' :: (stringifyFields (next :: others) ++ rest))
      have later := @ReadsBack.fields _ _ reads _ _ (taken ++ [(name, value)]) numberless.2
        (by simpa using distinct) (by omega) rest
      have text : stringifyFields ((name, value) :: next :: others) ++ rest =
          quote name ++ ':' :: (stringifyChars value ++ ',' :: (stringifyFields (next :: others) ++ rest)) := by
        simp [stringifyFields_cons]
      rw [text, takeFields_field (by omega) read,
        skipBlanks_cons (show isBlank ',' = false by decide), assign_new value new]
      simp only [takeText_head]
      rw [later, List.append_assoc]
      rfl

theorem takeValue_step {fuel : Nat} (reads : ReadsBack fuel) {value : Json} (numberless : value.Numberless)
    (enough : (stringifyChars value).length ≤ fuel + 1) (rest : List Char) :
    takeValue (fuel + 1) (stringifyChars value ++ rest) = some (value, rest) := by
  cases value with
  | null => rfl
  | boolean value => cases value <;> rfl
  | number text => exact absurd numberless id
  | string text =>
      have longer := length_quote text
      have read := @takeString_quoted text.toList rest fuel
        (by rw [stringifyChars] at enough; omega)
      rw [stringifyChars, quote_append]
      show (takeString fuel _ >>= _) = _
      rw [read]
      simp
  | array elements =>
      cases elements with
      | nil => rfl
      | cons element elements =>
          obtain ⟨first, others, text, solid, unclosed⟩ := stringifyElements_head numberless
          have read := reads.elements numberless (Nat.le_of_succ_le_succ enough) rest
          rw [text, List.cons_append] at read
          rw [stringifyChars, text, List.cons_append, List.cons_append,
            takeValue_elements solid unclosed, read]
          rfl
  | object fields =>
      cases fields with
      | nil => rfl
      | cons field fields =>
          obtain ⟨others, text⟩ := stringifyFields_head field fields
          have read := @ReadsBack.fields _ _ reads field fields [] numberless.2 numberless.1
            (Nat.le_of_succ_le_succ enough) rest
          rw [text, List.cons_append] at read
          rw [stringifyChars, text, List.cons_append, List.cons_append, takeValue_fields, read]
          rfl

/-- No text is read without fuel, and no text is empty. -/
theorem readsBack_zero : ReadsBack 0 where
  value {value} numberless enough _ := by
    obtain ⟨first, others, text, -⟩ := stringifyChars_head numberless
    rw [text] at enough
    cases enough
  elements {element elements} numberless enough _ := by
    obtain ⟨first, others, text, -⟩ := stringifyElements_head numberless
    rw [text] at enough
    cases enough
  fields {field fields _} _ _ enough _ := by
    obtain ⟨others, text⟩ := stringifyFields_head field fields
    rw [text] at enough
    cases enough

theorem readsBack (fuel : Nat) : ReadsBack fuel := by
  induction fuel with
  | zero => exact readsBack_zero
  | succ fuel ih => exact ⟨takeValue_step ih, takeElements_step ih, takeFields_step ih⟩

/-- The text of a value without numbers is parsed as the value. -/
theorem parse_stringify {value : Json} (numberless : value.Numberless) :
    parse (stringify value) = some value := by
  have read := (readsBack ((stringify value).length + 1)).value numberless
    (by simp [stringify]) []
  unfold parse
  rw [show (stringify value).toList = stringifyChars value ++ [] by simp [stringify], read]
  rfl

end Values
section Readings
variable [NodeRuntime] {fuel : Nat} {text after : List Char}

/-- What has been read when elements have been read. -/
theorem takeElements_cases {read : List Json} (taken : takeElements (fuel + 1) text = some (read, after)) :
    ∃ value behind, takeValue fuel text = some (value, behind) ∧
      ((∃ rest values, takeText [','] (skipBlanks behind) = some rest ∧
          takeElements fuel rest = some (values, after) ∧ read = value :: values) ∨
        (takeText [','] (skipBlanks behind) = none ∧ takeText [']'] (skipBlanks behind) = some after ∧
          read = [value])) := by
  rw [takeElements, Option.bind_eq_bind, Option.bind_eq_some_iff] at taken
  obtain ⟨⟨value, behind⟩, valued, taken⟩ := taken
  refine ⟨value, behind, valued, ?_⟩
  cases comma : takeText [','] (skipBlanks behind) with
  | some rest =>
      simp only [comma, Option.bind_eq_bind, Option.bind_eq_some_iff, Option.pure_def,
        Option.some.injEq, Prod.exists, Prod.mk.injEq] at taken
      obtain ⟨values, behind, later, rfl, rfl⟩ := taken
      exact Or.inl ⟨rest, values, rfl, later, rfl⟩
  | none =>
      simp only [comma, Option.bind_eq_bind, Option.bind_eq_some_iff, Option.pure_def,
        Option.some.injEq, Prod.mk.injEq] at taken
      obtain ⟨behind, closed, rfl, rfl⟩ := taken
      exact Or.inr ⟨rfl, closed, rfl⟩

/-- What has been read when fields have been read. -/
theorem takeFields_cases {earlier read : List (String × Json)}
    (taken : takeFields (fuel + 1) earlier text = some (read, after)) :
    ∃ opened name colon following value behind,
      takeText [quotationMark] (skipBlanks text) = some opened ∧
      takeString fuel opened = some (name, colon) ∧
      takeText [':'] (skipBlanks colon) = some following ∧
      takeValue fuel following = some (value, behind) ∧
      ((∃ rest, takeText [','] (skipBlanks behind) = some rest ∧
          takeFields fuel (assign earlier (String.ofList name) value) rest = some (read, after)) ∨
        (takeText [','] (skipBlanks behind) = none ∧ takeText ['\x7d'] (skipBlanks behind) = some after ∧
          read = assign earlier (String.ofList name) value)) := by
  rw [takeFields, Option.bind_eq_bind, Option.bind_eq_some_iff] at taken
  obtain ⟨opened, marked, taken⟩ := taken
  rw [Option.bind_eq_bind, Option.bind_eq_some_iff] at taken
  obtain ⟨⟨name, colon⟩, named, taken⟩ := taken
  simp only [Option.bind_eq_bind, Option.bind_eq_some_iff, Prod.exists] at taken
  obtain ⟨following, separated, value, behind, valued, taken⟩ := taken
  refine ⟨opened, name, colon, following, value, behind, marked, named, separated, valued, ?_⟩
  cases comma : takeText [','] (skipBlanks behind) with
  | some rest =>
      rw [comma] at taken
      exact Or.inl ⟨rest, rfl, taken⟩
  | none =>
      simp only [comma, Option.bind_eq_some_iff, Option.pure_def,
        Option.some.injEq, Prod.mk.injEq] at taken
      obtain ⟨behind, closed, rfl, rfl⟩ := taken
      exact Or.inr ⟨rfl, closed, rfl⟩

end Readings
end Meadowlark.Core.Json
