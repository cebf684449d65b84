import BoxDiagram.Number.Scalar

namespace BoxDiagram

/-!
# Decimal numbers in a text

A decimal number is an optional sign, digits with an optional point among or
around them, and an optional power of ten after the letter e.
-/

/-- A decimal number: its digits without the point, and the power of ten they count. -/
structure Decimal where
  negative : Bool
  digits : Nat
  exponent : Int
  deriving Repr, DecidableEq

namespace Decimal

/-- The number of a sequence of digits. -/
def digitsValue (digits : List Char) : Nat :=
  digits.foldl (fun value digit => 10 * value + (digit.toNat - '0'.toNat)) 0

/-- The number of a text that consists of one or more digits. -/
def wholeNumber? (text : List Char) : Option Nat :=
  if text.isEmpty || !text.all Char.isDigit then none else some (digitsValue text)

/-- The number of a text of digits after an optional plus sign. -/
def unsigned? : List Char → Option Nat
  | '+' :: rest => wholeNumber? rest
  | text => wholeNumber? text

/-- The power of ten of a text that ends a number. -/
def exponent? : List Char → Option Int
  | [] => some 0
  | letter :: rest =>
      if letter = 'e' ∨ letter = 'E' then
        match rest with
        | '-' :: digits => (wholeNumber? digits).map fun value => -(value : Int)
        | text => (unsigned? text).map fun value => (value : Int)
      else none

/-- The number of a text without sign. -/
def magnitude? (text : List Char) : Option (Nat × Int) :=
  let whole := text.takeWhile Char.isDigit
  match text.dropWhile Char.isDigit with
  | '.' :: rest =>
      let fraction := rest.takeWhile Char.isDigit
      if whole.isEmpty && fraction.isEmpty then none
      else
        (exponent? (rest.dropWhile Char.isDigit)).map fun exponent =>
          (digitsValue (whole ++ fraction), exponent - fraction.length)
  | rest =>
      if whole.isEmpty then none
      else (exponent? rest).map fun exponent => (digitsValue whole, exponent)

/-- The decimal number that a text is. -/
def read? (text : List Char) : Option Decimal :=
  match text with
  | '-' :: rest => (magnitude? rest).map fun (digits, exponent) => ⟨true, digits, exponent⟩
  | '+' :: rest => (magnitude? rest).map fun (digits, exponent) => ⟨false, digits, exponent⟩
  | _ => (magnitude? text).map fun (digits, exponent) => ⟨false, digits, exponent⟩

/-- The coordinate that a decimal number stands for. -/
def value {α : Type} [Scalar α] (decimal : Decimal) : α :=
  Scalar.ofDecimal decimal.negative decimal.digits decimal.exponent

/-- The number has no finite double-precision number nearest to it. -/
def exceedsDouble (decimal : Decimal) : Bool :=
  (Float.ofScientific decimal.digits (decimal.exponent < 0) decimal.exponent.natAbs).isInf

/-- The exact decimal text of a whole number times a power of two, without needless zeros. -/
def exactText (mantissa : Nat) (exponent : Int) : String :=
  if 0 ≤ exponent then toString (mantissa * Nat.pow 2 exponent.toNat)
  else
    let places := (-exponent).toNat
    let scaled := mantissa * Nat.pow 5 places
    let digits := (toString (scaled % Nat.pow 10 places)).toList
    let padded := List.replicate (places - digits.length) '0' ++ digits
    let fraction := (padded.reverse.dropWhile (· == '0')).reverse
    let tail := if fraction.isEmpty then "" else "." ++ String.ofList fraction
    toString (scaled / Nat.pow 10 places) ++ tail

end Decimal

end BoxDiagram
