import Meadowlark.Construction.Core.Middleware
import Meadowlark.Construction.Core.JsonText

namespace Meadowlark.Core
open Json

/-- The white space and the line terminators that JavaScript trims from a text. -/
def isWhiteSpace (char : Char) : Bool :=
  isLineTerminator char || char.toNat ∈ [0x09, 0x0B, 0x0C, 0x20, 0xA0, 0x1680, 0x202F, 0x205F,
    0x3000, 0xFEFF] || (0x2000 ≤ char.toNat && char.toNat ≤ 0x200A)

def trimStart (chars : List Char) : List Char := chars.dropWhile isWhiteSpace

def trim (chars : List Char) : List Char := (trimStart (trimStart chars).reverse).reverse

def dropSign : List Char → List Char
  | '+' :: rest => rest
  | '-' :: rest => rest
  | chars => chars

section Number

def isDigits (chars : List Char) : Bool := chars ≠ [] && chars.all isDigit

def isExponentPart : List Char → Bool
  | [] => true
  | char :: rest => (char = 'e' || char = 'E') && isDigits (dropSign rest)

/-- The digits may stand on either side of the point or on both. -/
def isDecimalLiteral (chars : List Char) : Bool :=
  let whole := chars.takeWhile isDigit
  match chars.dropWhile isDigit with
  | '.' :: rest =>
      (whole ≠ [] || rest.takeWhile isDigit ≠ []) && isExponentPart (rest.dropWhile isDigit)
  | rest => whole ≠ [] && isExponentPart rest

def isUnsignedLiteral (chars : List Char) : Bool :=
  chars = "Infinity".toList || isDecimalLiteral chars

def isDigitOf (radix : Nat) (char : Char) : Bool :=
  (isDigit char && char.toNat < '0'.toNat + radix) ||
    (radix = 16 && ((('a' ≤ char) && (char ≤ 'f')) || (('A' ≤ char) && (char ≤ 'F'))))

/-- A literal with a radix has no sign. -/
def isRadixLiteral : List Char → Bool
  | '0' :: letter :: digits =>
      let radix := if letter = 'x' || letter = 'X' then 16
        else if letter = 'o' || letter = 'O' then 8
        else if letter = 'b' || letter = 'B' then 2
        else 0
      digits ≠ [] && digits.all (isDigitOf radix)
  | _ => false

/-- `Number.isNaN(Number(text))`; the empty text is the number zero. -/
def numberIsNaN (text : String) : Bool :=
  let trimmed := trim text.toList
  ! (trimmed = [] || isRadixLiteral trimmed || isUnsignedLiteral (dropSign trimmed))

/-- `Number(value)` as the text of the number, unless it is not a number.
An array or an object is converted by its text. -/
def toNumber [NodeRuntime] : Json → Option String
  | .null => some "0"
  | .boolean value => some (if value then "1" else "0")
  | .number text => some text
  | value =>
      let text := value.toTemplateText
      if numberIsNaN text then none else some (NodeRuntime.numberToString text)

end Number

section ParseInt

/-- The number that decimal digits denote. -/
def decimalValue (digits : List Char) : Nat :=
  digits.foldl (fun value digit => 10 * value + (digit.toNat - '0'.toNat)) 0

/-- `Number.parseInt(text, 10)` reads the digits at the start and ignores the rest.
Without digits it is not a number. -/
def parseInt (text : String) : Option Int :=
  let trimmed := trimStart text.toList
  let digits := (dropSign trimmed).takeWhile isDigit
  if digits = [] then none
  else if trimmed.head? = some '-' then some (- decimalValue digits)
  else some (decimalValue digits)

end ParseInt

/-- A comparison with what is not a number is false. -/
def isNotPositiveInteger (text : String) : Bool :=
  numberIsNaN text || (parseInt text).any (· < 0)

/-- Document processing that checks the pagination parameters of texts as the validator does. -/
abbrev DocumentProcessing.paginating (processing : DocumentProcessing) : DocumentProcessing :=
  { processing with
    isNotPositiveInteger := fun
      | .string text => Core.isNotPositiveInteger text
      | value => processing.isNotPositiveInteger value }

end Meadowlark.Core
