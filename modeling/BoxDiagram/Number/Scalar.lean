namespace BoxDiagram

/-!
# Coordinate numbers

Sizes, positions and distances of a diagram are numbers of a type that offers
the operations below. Layouts are computed in single precision, where every
operation rounds; the same definitions over the rational numbers describe the
layout in exact arithmetic.
-/

/-- The arithmetic that laying out a diagram needs. -/
class Scalar (α : Type) extends Add α, Sub α, Mul α, Div α where
  /-- A count as a number. -/
  ofNat : Nat → α
  /-- The number with a sign (true for minus), decimal digits and a power of ten. -/
  ofDecimal : Bool → Nat → Int → α
  /-- The distance from zero. -/
  abs : α → α
  /-- The largest whole number that is not above. -/
  floor : α → α
  /-- The number is not infinite and is a number at all. -/
  isFinite : α → Bool
  /-- The first number lies below the second. -/
  less : α → α → Bool
  /-- Both numbers have one value. -/
  equal : α → α → Bool
  /-- A linear order that refines the comparison of values. -/
  rank : α → α → Ordering

namespace Scalar

variable {α : Type} [Scalar α]

/-- The number zero. -/
def zero : α := ofNat 0

/-- A half of a number. -/
def half (number : α) : α := number / ofNat 2

/-- The first number is not above the second. -/
def atMost (first second : α) : Bool :=
  less first second || equal first second

/--
The larger number, the second one of two with one value; where one is undefined,
the other.
-/
def larger (first second : α) : α :=
  if less second first then first
  else if equal second second then second
  else first

/--
The smaller number, the second one of two with one value; where one is undefined,
the other.
-/
def smaller (first second : α) : α :=
  if less first second then first
  else if equal second second then second
  else first

/-- The part of a number above zero. -/
def positivePart (number : α) : α :=
  larger number zero

/-- A finite number that is not below zero. -/
def isMeasure (number : α) : Bool :=
  isFinite number && atMost zero number

/-- The sum of a list, from the left. -/
def sum (numbers : List α) : α :=
  numbers.foldl (· + ·) zero

end Scalar

end BoxDiagram
