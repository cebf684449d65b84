import BoxDiagram.Number.Scalar

namespace BoxDiagram

/-!
# Exact coordinates

The rational numbers as coordinates: no operation rounds, and every number is
finite.
-/

/-- The rational number with the given sign, decimal digits and power of ten. -/
def decimalValue
    (negative : Bool)
    (digits : Nat)
    (exponent : Int) : Rat :=
  let magnitude : Rat :=
    if 0 ≤ exponent then (digits * Nat.pow 10 exponent.toNat : Nat)
    else mkRat digits (Nat.pow 10 (-exponent).toNat)
  if negative then -magnitude else magnitude

instance : Scalar Rat where
  ofNat count := (count : Rat)
  ofDecimal := decimalValue
  abs number := if number < 0 then -number else number
  floor number := (number.floor : Rat)
  isFinite _ := true
  less first second := decide (first < second)
  equal first second := decide (first = second)
  rank first second :=
    if first < second then .lt else if first = second then .eq else .gt

end BoxDiagram
