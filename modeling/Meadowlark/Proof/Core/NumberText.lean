import Meadowlark.Construction.Core.NumberText
import Mathlib.Data.List.TakeWhile

namespace Meadowlark.Core
open Json

section Grammar

def Digits (chars : List Char) : Prop := ∀ char ∈ chars, isDigit char

instance (chars : List Char) : Decidable (Digits chars) :=
  inferInstanceAs (Decidable (∀ char ∈ chars, _))

def Sign (chars : List Char) : Prop := chars = [] ∨ chars = ['+'] ∨ chars = ['-']

inductive ExponentPart : List Char → Prop where
  | absent : ExponentPart []
  | present {letter : Char} {sign digits : List Char} (named : letter = 'e' ∨ letter = 'E')
      (signed : Sign sign) (inhabited : digits ≠ []) (read : Digits digits) :
      ExponentPart (letter :: (sign ++ digits))

inductive DecimalLiteral : List Char → Prop where
  | whole {digits exponent : List Char} (inhabited : digits ≠ []) (read : Digits digits)
      (scaled : ExponentPart exponent) : DecimalLiteral (digits ++ exponent)
  | pointed {whole fraction exponent : List Char} (inhabited : whole ≠ [] ∨ fraction ≠ [])
      (read : Digits whole) (fractional : Digits fraction) (scaled : ExponentPart exponent) :
      DecimalLiteral (whole ++ '.' :: (fraction ++ exponent))

inductive RadixLiteral : List Char → Prop where
  | hexadecimal {letter : Char} {digits : List Char} (named : letter = 'x' ∨ letter = 'X')
      (inhabited : digits ≠ []) (read : ∀ char ∈ digits, isDigitOf 16 char) :
      RadixLiteral ('0' :: letter :: digits)
  | octal {letter : Char} {digits : List Char} (named : letter = 'o' ∨ letter = 'O')
      (inhabited : digits ≠ []) (read : ∀ char ∈ digits, isDigitOf 8 char) :
      RadixLiteral ('0' :: letter :: digits)
  | binary {letter : Char} {digits : List Char} (named : letter = 'b' ∨ letter = 'B')
      (inhabited : digits ≠ []) (read : ∀ char ∈ digits, isDigitOf 2 char) :
      RadixLiteral ('0' :: letter :: digits)

/-- The texts that JavaScript reads as a number, without blanks around them. -/
inductive NumericLiteral : List Char → Prop where
  | empty : NumericLiteral []
  | infinity {sign : List Char} (signed : Sign sign) : NumericLiteral (sign ++ "Infinity".toList)
  | decimal {sign literal : List Char} (signed : Sign sign) (read : DecimalLiteral literal) :
      NumericLiteral (sign ++ literal)
  | radix {literal : List Char} (read : RadixLiteral literal) : NumericLiteral literal

/-- The text has a minus sign and then digits with one that is not zero, whatever comes later. -/
def StartsNegative (chars : List Char) : Prop :=
  ∃ digits rest, chars = '-' :: (digits ++ rest) ∧ Digits digits ∧ ∃ digit ∈ digits, digit ≠ '0'

/-- A non-negative integer in decimal notation. -/
def Decimal (text : String) : Prop := text.toList ≠ [] ∧ Digits text.toList

instance (text : String) : Decidable (Decimal text) := inferInstanceAs (Decidable (_ ∧ _))

/-- A text that is no numeric literal, or that starts like a negative integer. -/
def Refused (text : String) : Prop :=
  ¬ NumericLiteral (trim text.toList) ∨ StartsNegative (trimStart text.toList)

end Grammar

section Digits

theorem isDigit_toNat {char : Char} (digit : isDigit char) :
    48 ≤ char.toNat ∧ char.toNat ≤ 57 := by
  simp only [isDigit, Bool.and_eq_true, decide_eq_true_eq, Char.le_def, UInt32.le_iff_toNat_le]
    at digit
  exact digit

theorem takeWhile_digits {digits rest : List Char} (read : Digits digits)
    (ended : ∀ char ∈ rest.head?, isDigit char = false) :
    (digits ++ rest).takeWhile isDigit = digits := by
  rw [List.takeWhile_append_of_pos read]
  cases rest with
  | nil => simp
  | cons char rest => simp [ended char rfl]

theorem dropWhile_digits {digits rest : List Char} (read : Digits digits)
    (ended : ∀ char ∈ rest.head?, isDigit char = false) :
    (digits ++ rest).dropWhile isDigit = rest := by
  rw [List.dropWhile_append_of_pos read]
  cases rest with
  | nil => rfl
  | cons char rest => simp [ended char rfl]

theorem digits_takeWhile (chars : List Char) : Digits (chars.takeWhile isDigit) :=
  fun _ inside => List.mem_takeWhile_imp inside

theorem isDigits_iff {chars : List Char} : isDigits chars ↔ chars ≠ [] ∧ Digits chars := by
  unfold isDigits Digits
  simp

/-- A reading that no sign starts reads the text after its sign. -/
theorem dropSign_iff (reads : List Char → Bool) (unsigned : ∀ rest, ¬ reads ('+' :: rest) ∧
    ¬ reads ('-' :: rest)) {chars : List Char} :
    reads (dropSign chars) ↔ ∃ sign rest, chars = sign ++ rest ∧ Sign sign ∧ reads rest := by
  constructor
  · intro read
    unfold dropSign at read
    split at read
    · exact ⟨['+'], _, rfl, Or.inr (Or.inl rfl), read⟩
    · exact ⟨['-'], _, rfl, Or.inr (Or.inr rfl), read⟩
    · exact ⟨[], chars, rfl, Or.inl rfl, read⟩
  · rintro ⟨sign, rest, rfl, rfl | rfl | rfl, read⟩
    · rw [List.nil_append]
      unfold dropSign
      split
      · exact absurd read (unsigned _).1
      · exact absurd read (unsigned _).2
      · exact read
    · exact read
    · exact read

theorem digits_unsigned (rest : List Char) :
    ¬ isDigits ('+' :: rest) ∧ ¬ isDigits ('-' :: rest) := by
  constructor
  · intro read
    exact absurd ((isDigits_iff.mp read).2 '+' (by simp)) (by decide)
  · intro read
    exact absurd ((isDigits_iff.mp read).2 '-' (by simp)) (by decide)

end Digits

section Number

theorem isExponentPart_iff {chars : List Char} : isExponentPart chars ↔ ExponentPart chars := by
  constructor
  · intro read
    cases chars with
    | nil => exact .absent
    | cons letter rest =>
        unfold isExponentPart at read
        simp only [Bool.and_eq_true, Bool.or_eq_true, decide_eq_true_eq] at read
        obtain ⟨sign, digits, rfl, signed, digitsRead⟩ := (dropSign_iff _ digits_unsigned).mp read.2
        obtain ⟨inhabited, digitsRead⟩ := isDigits_iff.mp digitsRead
        exact .present read.1 signed inhabited digitsRead
  · intro read
    cases read with
    | absent => rfl
    | present named signed inhabited digitsRead =>
        unfold isExponentPart
        simp only [Bool.and_eq_true, Bool.or_eq_true, decide_eq_true_eq]
        exact ⟨named, (dropSign_iff _ digits_unsigned).mpr
          ⟨_, _, rfl, signed, isDigits_iff.mpr ⟨inhabited, digitsRead⟩⟩⟩

/-- An exponent starts with neither a digit nor a point. -/
theorem ExponentPart.head {exponent : List Char} (scaled : ExponentPart exponent) :
    ∀ char ∈ exponent.head?, isDigit char = false ∧ char ≠ '.' := by
  cases scaled with
  | absent => simp
  | present named signed inhabited read =>
      rintro char ⟨⟩
      rcases named with rfl | rfl <;> decide

theorem isDecimalLiteral_iff {chars : List Char} :
    isDecimalLiteral chars ↔ DecimalLiteral chars := by
  constructor
  · intro read
    have split := List.takeWhile_append_dropWhile (p := isDigit) (l := chars)
    unfold isDecimalLiteral at read
    dsimp only at read
    split at read
    · rename_i rest after
      simp only [Bool.and_eq_true, Bool.or_eq_true, decide_eq_true_eq] at read
      have fractional := List.takeWhile_append_dropWhile (p := isDigit) (l := rest)
      rw [after, ← fractional] at split
      rw [← split]
      exact .pointed read.1 (digits_takeWhile chars) (digits_takeWhile rest)
        (isExponentPart_iff.mp read.2)
    · simp only [Bool.and_eq_true, decide_eq_true_eq] at read
      rw [← split]
      exact .whole read.1 (digits_takeWhile chars) (isExponentPart_iff.mp read.2)
  · intro read
    unfold isDecimalLiteral
    cases read with
    | @whole digits exponent inhabited digitsRead scaled =>
        have ended := fun char inside => (scaled.head char inside).1
        rw [takeWhile_digits digitsRead ended, dropWhile_digits digitsRead ended]
        split
        · exact absurd rfl (scaled.head '.' rfl).2
        · simp [inhabited, isExponentPart_iff.mpr scaled]
    | @pointed whole fraction exponent inhabited digitsRead fractional scaled =>
        have point : ∀ char ∈ ('.' :: (fraction ++ exponent)).head?, isDigit char = false := by
          rintro char ⟨⟩
          decide
        have ended := fun char inside => (scaled.head char inside).1
        rw [takeWhile_digits digitsRead point, dropWhile_digits digitsRead point]
        change ((whole ≠ [] || (fraction ++ exponent).takeWhile isDigit ≠ []) &&
          isExponentPart ((fraction ++ exponent).dropWhile isDigit)) = true
        rw [takeWhile_digits fractional ended, dropWhile_digits fractional ended,
          isExponentPart_iff.mpr scaled]
        simpa using inhabited

theorem isRadixLiteral_iff {chars : List Char} : isRadixLiteral chars ↔ RadixLiteral chars := by
  constructor
  · intro read
    unfold isRadixLiteral at read
    split at read
    · rename_i letter digits
      dsimp only at read
      simp only [Bool.and_eq_true, decide_eq_true_eq, List.all_eq_true] at read
      obtain ⟨inhabited, digitsRead⟩ := read
      split at digitsRead
      · rename_i named
        exact .hexadecimal (by simpa using named) inhabited digitsRead
      · split at digitsRead
        · rename_i named
          exact .octal (by simpa using named) inhabited digitsRead
        · split at digitsRead
          · rename_i named
            exact .binary (by simpa using named) inhabited digitsRead
          · obtain ⟨digit, rest, rfl⟩ := List.exists_cons_of_ne_nil inhabited
            have impossible := digitsRead digit (by simp)
            simp only [isDigitOf, Bool.or_eq_true, Bool.and_eq_true, decide_eq_true_eq] at impossible
            rcases impossible with ⟨isDigit, below⟩ | ⟨sixteen, -⟩
            · have above := (isDigit_toNat isDigit).1
              have zero : '0'.toNat = 48 := rfl
              omega
            · cases sixteen
    · cases read
  · intro read
    unfold isRadixLiteral
    cases read with
    | hexadecimal named inhabited digitsRead =>
        rcases named with rfl | rfl <;> simpa [inhabited] using digitsRead
    | octal named inhabited digitsRead =>
        rcases named with rfl | rfl <;> simpa [inhabited] using digitsRead
    | binary named inhabited digitsRead =>
        rcases named with rfl | rfl <;> simpa [inhabited] using digitsRead

theorem isUnsignedLiteral_iff {chars : List Char} :
    isUnsignedLiteral chars ↔ chars = "Infinity".toList ∨ DecimalLiteral chars := by
  unfold isUnsignedLiteral
  rw [Bool.or_eq_true, decide_eq_true_eq, isDecimalLiteral_iff]

theorem DecimalLiteral.head {literal : List Char} (read : DecimalLiteral literal) :
    ∃ char rest, literal = char :: rest ∧ (isDigit char ∨ char = '.') := by
  have headed {digits rest : List Char} (inhabited : digits ≠ []) (digitsRead : Digits digits) :
      ∃ char after, digits ++ rest = char :: after ∧ (isDigit char ∨ char = '.') := by
    obtain ⟨char, after, rfl⟩ := List.exists_cons_of_ne_nil inhabited
    exact ⟨char, after ++ rest, rfl, Or.inl (digitsRead char (by simp))⟩
  cases read with
  | whole inhabited digitsRead scaled => exact headed inhabited digitsRead
  | @pointed whole fraction exponent inhabited digitsRead fractional scaled =>
      by_cases missing : whole = []
      · subst missing
        exact ⟨'.', _, rfl, Or.inr rfl⟩
      · exact headed missing digitsRead

/-- No unsigned literal starts with a sign. -/
theorem literal_unsigned (rest : List Char) :
    ¬ isUnsignedLiteral ('+' :: rest) ∧ ¬ isUnsignedLiteral ('-' :: rest) := by
  have excluded {sign : Char} (noDigit : isDigit sign = false) (noPoint : sign ≠ '.')
      (noLetter : sign ≠ 'I') : ¬ isUnsignedLiteral (sign :: rest) := by
    intro read
    rcases isUnsignedLiteral_iff.mp read with infinity | decimal
    · exact noLetter (List.head_eq_of_cons_eq infinity)
    · obtain ⟨char, after, same, digit | point⟩ := decimal.head
      · obtain rfl := List.head_eq_of_cons_eq same
        rw [noDigit] at digit
        cases digit
      · exact noPoint ((List.head_eq_of_cons_eq same).trans point)
  exact ⟨excluded (by decide) (by decide) (by decide),
    excluded (by decide) (by decide) (by decide)⟩

/-- The recognizer decides the grammar. -/
theorem numberIsNaN_iff {text : String} :
    numberIsNaN text ↔ ¬ NumericLiteral (trim text.toList) := by
  unfold numberIsNaN
  dsimp only
  rw [Bool.not_eq_true', ← Bool.not_eq_true, Bool.or_eq_true, Bool.or_eq_true, decide_eq_true_eq,
    isRadixLiteral_iff, dropSign_iff _ literal_unsigned]
  generalize trim text.toList = trimmed
  apply not_congr
  constructor
  · rintro ((empty | radix) | ⟨sign, literal, same, signed, read⟩)
    · rw [empty]
      exact .empty
    · exact .radix radix
    · rw [same]
      rcases isUnsignedLiteral_iff.mp read with rfl | decimal
      · exact .infinity signed
      · exact .decimal signed decimal
  · intro read
    cases read with
    | empty => exact Or.inl (Or.inl rfl)
    | radix read => exact Or.inl (Or.inr read)
    | infinity signed =>
        exact Or.inr ⟨_, _, rfl, signed, isUnsignedLiteral_iff.mpr (Or.inl rfl)⟩
    | decimal signed read =>
        exact Or.inr ⟨_, _, rfl, signed, isUnsignedLiteral_iff.mpr (Or.inr read)⟩

end Number

section ParseInt

theorem decimalValue_pos {digits : List Char} (read : Digits digits) :
    0 < decimalValue digits ↔ ∃ digit ∈ digits, digit ≠ '0' := by
  have running (value : Nat) : 0 < digits.foldl
      (fun value digit => 10 * value + (digit.toNat - '0'.toNat)) value ↔
      0 < value ∨ ∃ digit ∈ digits, digit ≠ '0' := by
    induction digits generalizing value with
    | nil => simp
    | cons digit rest ih =>
        have bounds := isDigit_toNat (read digit (by simp))
        have zero : '0'.toNat = 48 := rfl
        have same : digit.toNat = 48 ↔ digit = '0' := by
          rw [← zero]
          exact Char.toNat_inj
        rw [List.foldl_cons, ih (fun char inside => read char (by simp [inside]))]
        constructor
        · rintro (positive | ⟨other, inside, nonzero⟩)
          · by_cases isZero : digit = '0'
            · rw [← same] at isZero
              left
              omega
            · exact Or.inr ⟨digit, by simp, isZero⟩
          · exact Or.inr ⟨other, by simp [inside], nonzero⟩
        · rintro (positive | ⟨other, inside, nonzero⟩)
          · left
            omega
          · rcases List.mem_cons.mp inside with rfl | inside
            · rw [ne_eq, ← same] at nonzero
              left
              omega
            · exact Or.inr ⟨other, inside, nonzero⟩
  unfold decimalValue
  rw [running 0]
  simp

/-- The run of digits at the start holds every digit that stands there. -/
theorem exists_leading_digit {chars : List Char} :
    (∃ digit ∈ chars.takeWhile isDigit, digit ≠ '0') ↔
      ∃ digits rest, chars = digits ++ rest ∧ Digits digits ∧ ∃ digit ∈ digits, digit ≠ '0' := by
  constructor
  · intro leading
    exact ⟨_, _, List.takeWhile_append_dropWhile.symm, digits_takeWhile chars, leading⟩
  · rintro ⟨digits, rest, rfl, read, digit, inside, nonzero⟩
    refine ⟨digit, ?_, nonzero⟩
    rw [List.takeWhile_append_of_pos read]
    exact List.mem_append_left _ inside

theorem parseInt_negative_iff {text : String} :
    (parseInt text).any (· < 0) ↔ StartsNegative (trimStart text.toList) := by
  unfold parseInt StartsNegative
  dsimp only
  generalize trimStart text.toList = trimmed
  by_cases minus : trimmed.head? = some '-'
  · obtain ⟨rest, rfl⟩ : ∃ rest, trimmed = '-' :: rest := by
      cases trimmed with
      | nil => cases minus
      | cons char rest => exact ⟨rest, by rw [Option.some.inj minus]⟩
    have leading := @exists_leading_digit rest
    have valued := decimalValue_pos (digits_takeWhile rest)
    change (if rest.takeWhile isDigit = [] then (none : Option Int)
      else if some '-' = some '-' then some (- decimalValue (rest.takeWhile isDigit) : Int)
      else _).any (· < 0) ↔ _
    rw [if_pos rfl]
    have shape : (∃ digits after, '-' :: rest = '-' :: (digits ++ after) ∧ Digits digits ∧
        ∃ digit ∈ digits, digit ≠ '0') ↔ 0 < decimalValue (rest.takeWhile isDigit) := by
      rw [valued, leading]
      simp only [List.cons.injEq, true_and]
    rw [shape]
    by_cases missing : rest.takeWhile isDigit = []
    · rw [if_pos missing, missing]
      decide
    · rw [if_neg missing]
      simp
  · have positive : ∀ value : Option Int, (∀ number ∈ value, 0 ≤ number) →
        (value.any (· < 0) ↔ False) := by
      intro value bounded
      cases value with
      | none => simp
      | some number => simpa using bounded number rfl
    rw [positive]
    · simp only [false_iff]
      rintro ⟨digits, rest, rfl, -⟩
      exact minus rfl
    · intro number
      split
      · rintro ⟨⟩
      · rintro ⟨⟩
        exact Int.natCast_nonneg _

end ParseInt

/-- What the check refuses, on all texts. -/
theorem isNotPositiveInteger_iff {text : String} : isNotPositiveInteger text ↔ Refused text := by
  unfold isNotPositiveInteger Refused
  rw [Bool.or_eq_true, numberIsNaN_iff, parseInt_negative_iff]

section Decimal

theorem digit_visible {char : Char} (digit : isDigit char) : isWhiteSpace char = false := by
  have bounds := isDigit_toNat digit
  simp only [isWhiteSpace, isLineTerminator, List.mem_cons, List.not_mem_nil, or_false,
    Bool.or_eq_false_iff, Bool.and_eq_false_iff, decide_eq_false_iff_not]
  omega

theorem trimStart_digits {chars : List Char} (read : Digits chars) : trimStart chars = chars := by
  cases chars with
  | nil => rfl
  | cons char rest => exact List.dropWhile_cons_of_neg (by simp [digit_visible (read char (by simp))])

theorem trim_digits {chars : List Char} (read : Digits chars) : trim chars = chars := by
  unfold trim
  rw [trimStart_digits read, trimStart_digits fun char inside => read char (by simpa using inside),
    List.reverse_reverse]

/-- A non-negative integer in decimal notation passes the check. -/
theorem Decimal.accepted {text : String} (decimal : Decimal text) : ¬ Refused text := by
  obtain ⟨inhabited, read⟩ := decimal
  rintro (unread | ⟨digits, rest, same, -⟩)
  · apply unread
    rw [trim_digits read]
    have literal : DecimalLiteral (text.toList ++ []) := .whole inhabited read .absent
    have signed := NumericLiteral.decimal (Or.inl rfl) literal
    rwa [List.append_nil, List.nil_append] at signed
  · rw [trimStart_digits read] at same
    exact absurd (read '-' (by rw [same]; simp)) (by decide)

end Decimal
end Meadowlark.Core
