import BoxDiagram.Number.Scalar

namespace BoxDiagram

/-!
# Single-precision coordinates

Numbers of 32 bits: every operation gives the number nearest to the exact
result, a tie going to the even neighbour. The linear order of all bit patterns
puts negative zero before zero and the undefined number after infinity.
-/

namespace Single

/-- A single-precision number as a sign (true for minus), a whole number and a power of two. -/
inductive Parts where
  | undefined
  | infinite (negative : Bool)
  | finite (negative : Bool) (mantissa : Nat) (exponent : Int)
  deriving Repr, DecidableEq

/-- The parts of a number, read off its bits. -/
def parts (number : Float32) : Parts :=
  let bits := number.toBits.toNat
  let negative : Bool := Nat.pow 2 31 ≤ bits
  let fraction : Nat := bits % Nat.pow 2 23
  let field : Nat := bits / Nat.pow 2 23 % Nat.pow 2 8
  if field = 255 then
    if fraction = 0 then .infinite negative else .undefined
  else if field = 0 then
    .finite negative fraction (-149)
  else
    .finite negative (Nat.pow 2 23 + fraction) ((field : Int) - 150)

/-- The largest whole number that is not above a number. -/
def floor (number : Float32) : Float32 :=
  match parts number with
  | .finite negative mantissa exponent =>
      if 0 ≤ exponent ∨ mantissa = 0 then number
      else
        let unit := Nat.pow 2 (-exponent).toNat
        if negative then -(Float32.ofNat ((mantissa + unit - 1) / unit))
        else Float32.ofNat (mantissa / unit)
  | _ => number

/-- The place of a number in the linear order of all bit patterns. -/
def place (number : Float32) : Int :=
  let bits := number.toBits.toNat
  if bits < Nat.pow 2 31 then bits else (Nat.pow 2 31 : Int) - 1 - bits

/-- The number nearest to a decimal one. -/
def ofDecimal
    (negative : Bool)
    (digits : Nat)
    (exponent : Int) : Float32 :=
  let magnitude := Float32.ofScientific digits (exponent < 0) exponent.natAbs
  if negative then -magnitude else magnitude

instance : Scalar Float32 where
  ofNat := Float32.ofNat
  ofDecimal := ofDecimal
  abs := Float32.abs
  floor := floor
  isFinite number := !number.isNaN && !number.isInf
  less first second := decide (first < second)
  equal first second := first == second
  rank first second := compare (place first) (place second)

end Single

end BoxDiagram
