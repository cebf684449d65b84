import BoxDiagram.Number.Single

namespace BoxDiagram

/-!
# The shortest decimal text of a number

A number of limited precision stands for all numbers that round to it. Its
shortest text is that of the decimal number among them with the fewest digits,
and the nearest one where several have that few.
-/

/-- A positive number with the ends of the interval of the numbers that round to it. -/
structure RoundingInterval where
  low : Nat
  value : Nat
  high : Nat
  /-- The power of two that the other three count. -/
  exponent : Int
  /-- The ends of the interval round to the number too. -/
  closed : Bool
  deriving Repr, DecidableEq

/-- A decimal number: digits, and the power of ten that they count. -/
structure DecimalDigits where
  digits : Nat
  exponent : Int
  deriving Repr, DecidableEq

namespace RoundingInterval

/-- The digits of the number nearest to the value on the grid of a power of ten, if inside. -/
def digitsAt? (interval : RoundingInterval) (place : Int) : Option Nat :=
  let unit := Nat.pow 10 place.toNat * Nat.pow 2 (-interval.exponent).toNat
  let scale := Nat.pow 2 interval.exponent.toNat * Nat.pow 10 (-place).toNat
  let inside (digits : Nat) : Bool :=
    if interval.closed then
      interval.low * scale ≤ digits * unit && digits * unit ≤ interval.high * scale
    else interval.low * scale < digits * unit && digits * unit < interval.high * scale
  let value := interval.value * scale
  let below := value / unit
  let above := below + 1
  match inside below, inside above with
  | false, false => none
  | true, false => some below
  | false, true => some above
  | true, true =>
      let underneath := value - below * unit
      let overhead := above * unit - value
      if underneath < overhead then some below
      else if overhead < underneath then some above
      else if below % 2 = 0 then some below
      else some above

/-- The decimal number in the interval on the coarsest of the grids from one place downward. -/
def shortest? (interval : RoundingInterval) (first : Int) (count : Nat) : Option DecimalDigits :=
  (List.range count).findSome? fun (index : Nat) =>
    let place := first - (index : Int)
    (interval.digitsAt? place).map fun digits => ⟨digits, place⟩

end RoundingInterval

/-- How decimal numbers are written: by position from one power of ten up to another one. -/
structure NumberFormat where
  positionalFrom : Int
  positionalBelow : Int
  deriving Repr, DecidableEq

namespace DecimalDigits

/-- Digits with a point between them, some of them before it. -/
def pointed (digits : List Char) (before : Nat) : String :=
  let after := digits.drop before
  String.ofList (digits.take before ++ '.' :: if after.isEmpty then ['0'] else after)

/-- The number by position, with a digit on each side of the point at least. -/
def positional (number : DecimalDigits) (digits : List Char) : String :=
  let padded := digits ++ List.replicate number.exponent.toNat '0'
  let places := (-number.exponent).toNat
  let zeros := List.replicate (places + 1 - padded.length) '0'
  pointed (zeros ++ padded) (zeros.length + padded.length - places)

/-- The number as a digit, a fraction where there is one, and a power of ten with its sign. -/
def scientific (digits : List Char) (power : Int) : String :=
  let mantissa := match digits with
    | [single] => String.ofList [single]
    | _ => pointed digits 1
  let sign := if power < 0 then "-" else "+"
  s!"{mantissa}e{sign}{power.natAbs}"

/-- A number as text: positional where it is neither large nor small, else scientific. -/
def text (format : NumberFormat) (number : DecimalDigits) : String :=
  let digits := (toString number.digits).toList
  let power := number.exponent + digits.length - 1
  if format.positionalFrom ≤ power ∧ power < format.positionalBelow then
    number.positional digits
  else scientific digits power

end DecimalDigits

namespace Single

/-- The interval of the numbers that round to a mantissa times a power of two. -/
def interval (mantissa : Nat) (exponent : Int) : RoundingInterval where
  low :=
    if mantissa = Nat.pow 2 23 ∧ -149 < exponent then 4 * mantissa - 1 else 4 * mantissa - 2
  value := 4 * mantissa
  high := 4 * mantissa + 2
  exponent := exponent - 2
  closed := mantissa % 2 = 0

/-- The shortest text of a finite number. -/
def shortestText? (format : NumberFormat) (number : Float32) : Option String :=
  match parts number with
  | .undefined | .infinite _ => none
  | .finite negative mantissa exponent =>
      let magnitude :=
        if mantissa = 0 then some ⟨0, 0⟩ else (interval mantissa exponent).shortest? 40 100
      magnitude.map fun magnitude => (if negative then "-" else "") ++ magnitude.text format

end Single

end BoxDiagram
