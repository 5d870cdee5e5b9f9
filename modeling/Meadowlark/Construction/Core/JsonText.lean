import Meadowlark.Construction.Core.Message

namespace Meadowlark.Core.Json

section Stringify

def quotationMark : Char := Char.ofNat 34

def reverseSolidus : Char := Char.ofNat 92

def hexDigits : List Char := "0123456789abcdef".toList

/-- The four digits of a character below the space. -/
def unicodeEscape (char : Char) : List Char :=
  reverseSolidus :: 'u' :: '0' :: '0' ::
    [hexDigits.getD (char.toNat / 16) '0', hexDigits.getD (char.toNat % 16) '0']

/-- The escape of one character inside a string. -/
def quoteChar (char : Char) : List Char :=
  if char = quotationMark ∨ char = reverseSolidus then [reverseSolidus, char]
  else if char.toNat = 8 then [reverseSolidus, 'b']
  else if char.toNat = 9 then [reverseSolidus, 't']
  else if char.toNat = 10 then [reverseSolidus, 'n']
  else if char.toNat = 12 then [reverseSolidus, 'f']
  else if char.toNat = 13 then [reverseSolidus, 'r']
  else if char.toNat < 32 then unicodeEscape char
  else [char]

def quote (text : String) : List Char :=
  quotationMark :: text.toList.flatMap quoteChar ++ [quotationMark]

mutual
/-- The text of a value without blanks. -/
def stringifyChars : Json → List Char
  | .null => "null".toList
  | .boolean value => if value then "true".toList else "false".toList
  | .number text => text.toList
  | .string value => quote value
  | .array elements => '[' :: stringifyElements elements
  | .object fields => '\x7b' :: stringifyFields fields

def stringifyElements : List Json → List Char
  | [] => [']']
  | [element] => stringifyChars element ++ [']']
  | element :: rest => stringifyChars element ++ ',' :: stringifyElements rest

def stringifyFields : List (String × Json) → List Char
  | [] => ['\x7d']
  | [(name, value)] => quote name ++ ':' :: stringifyChars value ++ ['\x7d']
  | (name, value) :: rest =>
      quote name ++ ':' :: stringifyChars value ++ ',' :: stringifyFields rest
end

def stringify (value : Json) : String := String.ofList (stringifyChars value)

end Stringify

section Parse

def isBlank (char : Char) : Bool :=
  char.toNat = 32 || char.toNat = 9 || char.toNat = 10 || char.toNat = 13

def skipBlanks (chars : List Char) : List Char := chars.dropWhile isBlank

def isDigit (char : Char) : Bool := '0' ≤ char && char ≤ '9'

def hexValue (char : Char) : Option Nat :=
  if isDigit char then some (char.toNat - 48)
  else if 'a' ≤ char ∧ char ≤ 'f' then some (char.toNat - 87)
  else if 'A' ≤ char ∧ char ≤ 'F' then some (char.toNat - 55)
  else none

/-- Four hexadecimal digits give one code unit. -/
def takeCodeUnit : List Char → Option (Nat × List Char)
  | first :: second :: third :: fourth :: rest => do
      let first ← hexValue first
      let second ← hexValue second
      let third ← hexValue third
      let fourth ← hexValue fourth
      pure (((first * 16 + second) * 16 + third) * 16 + fourth, rest)
  | _ => none

/-- The text continues after an expected text. -/
def takeText (expected chars : List Char) : Option (List Char) :=
  if expected.isPrefixOf chars then some (chars.drop expected.length) else none

/-- A lone surrogate is no character and becomes the replacement character. -/
def replacementCharacter : Char := Char.ofNat 0xFFFD

/-- Two surrogates give one character. -/
def takeLowSurrogate (high : Nat) (chars : List Char) : Char × List Char :=
  match takeText [reverseSolidus, 'u'] chars >>= takeCodeUnit with
  | none => (replacementCharacter, chars)
  | some (low, rest) =>
      if 0xDC00 ≤ low ∧ low < 0xE000 then
        (Char.ofNat (0x10000 + (high - 0xD800) * 0x400 + (low - 0xDC00)), rest)
      else (replacementCharacter, chars)

def takeUnicode (chars : List Char) : Option (Char × List Char) := do
  let (unit, rest) ← takeCodeUnit chars
  pure (if 0xD800 ≤ unit ∧ unit < 0xDC00 then takeLowSurrogate unit rest
    else if 0xDC00 ≤ unit ∧ unit < 0xE000 then (replacementCharacter, rest)
    else (Char.ofNat unit, rest))

def takeEscape : List Char → Option (Char × List Char)
  | [] => none
  | char :: rest =>
      if char = quotationMark ∨ char = reverseSolidus ∨ char = '/' then some (char, rest)
      else if char = 'b' then some (Char.ofNat 8, rest)
      else if char = 'f' then some (Char.ofNat 12, rest)
      else if char = 'n' then some (Char.ofNat 10, rest)
      else if char = 'r' then some (Char.ofNat 13, rest)
      else if char = 't' then some (Char.ofNat 9, rest)
      else if char = 'u' then takeUnicode rest
      else none

/-- The characters of a string up to its closing mark. -/
def takeString : Nat → List Char → Option (List Char × List Char)
  | 0, _ => none
  | _, [] => none
  | fuel + 1, char :: rest =>
      if char = quotationMark then some ([], rest)
      else if char = reverseSolidus then do
        let (escaped, following) ← takeEscape rest
        let (text, remaining) ← takeString fuel following
        pure (escaped :: text, remaining)
      else if char.toNat < 32 then none
      else do
        let (text, remaining) ← takeString fuel rest
        pure (char :: text, remaining)

/-- An integer, a fraction and an exponent need at least one digit. -/
def takeDigits (chars : List Char) : Option (List Char × List Char) :=
  if (chars.takeWhile isDigit).isEmpty then none
  else some (chars.takeWhile isDigit, chars.dropWhile isDigit)

def takeInteger (chars : List Char) : Option (List Char × List Char) :=
  match takeText ['0'] chars with
  | some rest => some (['0'], rest)
  | none => takeDigits chars

def takeFraction (chars : List Char) : Option (List Char × List Char) :=
  match takeText ['.'] chars with
  | none => some ([], chars)
  | some rest => do
      let (digits, remaining) ← takeDigits rest
      pure ('.' :: digits, remaining)

def takeSign (signs chars : List Char) : List Char × List Char :=
  match chars with
  | [] => ([], [])
  | char :: rest => if char ∈ signs then ([char], rest) else ([], chars)

def takeExponent (chars : List Char) : Option (List Char × List Char) :=
  match takeSign ['e', 'E'] chars with
  | ([], _) => some ([], chars)
  | (_, rest) => do
      let (sign, unsigned) := takeSign ['+', '-'] rest
      let (digits, remaining) ← takeDigits unsigned
      pure ('e' :: sign ++ digits, remaining)

def takeNumeral (chars : List Char) : Option (List Char × List Char) := do
  let (sign, unsigned) := takeSign ['-'] chars
  let (integer, afterInteger) ← takeInteger unsigned
  let (fraction, afterFraction) ← takeFraction afterInteger
  let (exponent, remaining) ← takeExponent afterFraction
  pure (sign ++ integer ++ fraction ++ exponent, remaining)

variable [NodeRuntime]

/-- The literals and the numerals are the values that hold no other value. -/
def takeScalar (chars : List Char) : Option (Json × List Char) :=
  match takeText "null".toList chars with
  | some rest => some (.null, rest)
  | none =>
      match takeText "true".toList chars with
      | some rest => some (.boolean true, rest)
      | none =>
          match takeText "false".toList chars with
          | some rest => some (.boolean false, rest)
          | none => do
              let (numeral, remaining) ← takeNumeral chars
              pure (.number (NodeRuntime.numberToString (String.ofList numeral)), remaining)

mutual
/-- One value at the start of the text; every value takes at least one character. -/
def takeValue : Nat → List Char → Option (Json × List Char)
  | 0, _ => none
  | fuel + 1, chars =>
      match skipBlanks chars with
      | [] => none
      | char :: rest =>
          if char = quotationMark then do
            let (text, remaining) ← takeString fuel rest
            pure (.string (String.ofList text), remaining)
          else if char = '[' then
            match takeText [']'] (skipBlanks rest) with
            | some remaining => some (.array [], remaining)
            | none => do
                let (elements, remaining) ← takeElements fuel rest
                pure (.array elements, remaining)
          else if char = '\x7b' then
            match takeText ['\x7d'] (skipBlanks rest) with
            | some remaining => some (.object [], remaining)
            | none => do
                let (fields, remaining) ← takeFields fuel [] rest
                pure (.object fields, remaining)
          else takeScalar (char :: rest)

def takeElements : Nat → List Char → Option (List Json × List Char)
  | 0, _ => none
  | fuel + 1, chars => do
      let (value, afterValue) ← takeValue fuel chars
      match takeText [','] (skipBlanks afterValue) with
      | some rest => do
          let (values, remaining) ← takeElements fuel rest
          pure (value :: values, remaining)
      | none => do
          let remaining ← takeText [']'] (skipBlanks afterValue)
          pure ([value], remaining)

/-- A repeated name assigns its property again. -/
def takeFields : Nat → List (String × Json) → List Char →
    Option (List (String × Json) × List Char)
  | 0, _, _ => none
  | fuel + 1, fields, chars => do
      let afterMark ← takeText [quotationMark] (skipBlanks chars)
      let (name, afterName) ← takeString fuel afterMark
      let afterColon ← takeText [':'] (skipBlanks afterName)
      let (value, afterValue) ← takeValue fuel afterColon
      let assigned := assign fields (String.ofList name) value
      match takeText [','] (skipBlanks afterValue) with
      | some rest => takeFields fuel assigned rest
      | none => do
          let remaining ← takeText ['\x7d'] (skipBlanks afterValue)
          pure (assigned, remaining)
end

/-- The whole text is one value. -/
def parse (text : String) : Option Json :=
  match takeValue (text.length + 1) text.toList with
  | some (value, remaining) => if skipBlanks remaining = [] then some value else none
  | none => none

end Parse
end Meadowlark.Core.Json
