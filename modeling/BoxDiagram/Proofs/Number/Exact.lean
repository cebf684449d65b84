import BoxDiagram.Number.Exact
import Mathlib.Algebra.Order.Floor.Defs
import Mathlib.Data.Rat.Floor
import Mathlib.Tactic.Linarith

namespace BoxDiagram

/-!
# Exact arithmetic

Over the rational numbers the operations on coordinates are those of an ordered
field: the larger of two numbers is their maximum, and a sum does not depend on
the order of its terms.
-/

namespace Scalar

@[simp] theorem zero_rat :
    (zero : Rat) = 0 :=
  rfl

@[simp] theorem ofNat_rat
    (count : Nat) :
    (ofNat count : Rat) = count :=
  rfl

@[simp] theorem half_rat
    (number : Rat) :
    half number = number / 2 :=
  rfl

@[simp] theorem less_rat
    {first second : Rat} :
    less first second = true ↔ first < second :=
  decide_eq_true_iff

@[simp] theorem equal_rat
    {first second : Rat} :
    equal first second = true ↔ first = second :=
  decide_eq_true_iff

@[simp] theorem atMost_rat
    {first second : Rat} :
    atMost first second = true ↔ first ≤ second := by
  rw [atMost, Bool.or_eq_true, less_rat, equal_rat, le_iff_lt_or_eq]

/-- A measure is a number that is not negative. -/
@[simp] theorem isMeasure_rat
    {number : Rat} :
    isMeasure number = true ↔ 0 ≤ number := by
  rw [isMeasure, Bool.and_eq_true, atMost_rat]
  exact and_iff_right rfl

/-- The larger of two numbers is their maximum. -/
@[simp] theorem larger_rat
    (first second : Rat) :
    larger first second = max first second := by
  rw [larger]
  by_cases isLarger : second < first
  · rw [if_pos (less_rat.mpr isLarger), max_eq_left isLarger.le]
  · rw [if_neg (mt less_rat.mp isLarger), if_pos (equal_rat.mpr rfl),
      max_eq_right (not_lt.mp isLarger)]

@[simp] theorem positivePart_rat
    (number : Rat) :
    positivePart number = max number 0 :=
  larger_rat number 0

@[simp] theorem abs_rat
    (number : Rat) :
    abs number = |number| := by
  change (if number < 0 then -number else number) = |number|
  split
  · rename_i negative
    rw [abs_of_neg negative]
  · rename_i notNegative
    rw [abs_of_nonneg (not_lt.mp notNegative)]

theorem rank_eq_lt_rat
    {first second : Rat} :
    rank first second = .lt ↔ first < second := by
  change (if first < second then Ordering.lt else if first = second then .eq else .gt) = .lt ↔ _
  split
  · rename_i isLess
    exact iff_of_true rfl isLess
  · rename_i notLess
    split <;> exact iff_of_false (by decide) notLess

@[simp] theorem floor_rat
    (number : Rat) :
    floor number = (⌊number⌋ : Rat) :=
  rfl

/-- Terms that are added one by one are added as one sum. -/
theorem foldl_add_rat
    (start : Rat)
    (numbers : List Rat) :
    numbers.foldl (· + ·) start = start + numbers.sum := by
  induction numbers generalizing start with
  | nil =>
      simp
  | cons number rest inductionHypothesis =>
      rw [List.foldl_cons, inductionHypothesis, List.sum_cons, add_assoc]

@[simp] theorem sum_rat
    (numbers : List Rat) :
    sum numbers = numbers.sum := by
  rw [sum, foldl_add_rat, zero_rat, zero_add]

/-- The largest number of a list is not below any of them, nor below the start. -/
theorem le_foldl_larger
    {start number : Rat}
    {numbers : List Rat}
    (member : number = start ∨ number ∈ numbers) :
    number ≤ numbers.foldl larger start := by
  induction numbers generalizing start number with
  | nil =>
      rcases member with rfl | isNone
      · exact le_rfl
      · cases isNone
  | cons head rest inductionHypothesis =>
      rw [List.foldl_cons, larger_rat]
      have headBelow : max start head ≤ rest.foldl larger (max start head) :=
        inductionHypothesis (.inl rfl)
      rcases member with rfl | isListed
      · exact (le_max_left _ _).trans headBelow
      · rcases List.mem_cons.mp isListed with rfl | later
        · exact (le_max_right _ _).trans headBelow
        · exact inductionHypothesis (.inr later)

end Scalar

end BoxDiagram
