import BoxDiagram.Proofs.Number.Compared
import Mathlib.Order.WithBot

namespace BoxDiagram

/-!
# Sums of distances

A distance is not negative.  It is infinite where it is too large, and it may be no number
at all where infinite coordinates are subtracted.  Rounding to the nearest number keeps the
order of numbers, so that adding a distance never makes a sum of distances less.
-/

namespace Single

open Float.Model (UnpackedFloat)
open Float.Model.UnpackedFloat (Sign)

/-- The number is not negative, unless it is no number at all. -/
inductive IsDistance (number : Float32) : Prop where
  | extent (isExtent : IsExtent number)
  | undefined (isUndefined : unpacked number = .notANumber)

/-- How far a distance reaches: to a value, to infinity, or beyond if it is no number. -/
def reachOf (number : Float32) : WithTop (WithTop Rat) :=
  match unpacked number with
  | .notANumber => ⊤
  | .infinity _ => ((⊤ : WithTop Rat) : WithTop (WithTop Rat))
  | _ => ((value number : WithTop Rat) : WithTop (WithTop Rat))

section Reach

variable {first second number : Float32}

/-- A finite number reaches as far as its value. -/
theorem reachOf_of_isFinite
    (isFinite : Scalar.isFinite number = true) :
    reachOf number = ((value number : WithTop Rat) : WithTop (WithTop Rat)) := by
  have canonical := isCanonical_of_isFinite isFinite
  rw [reachOf]
  cases isUnpacked : unpacked number with
  | infinity sign => exact (isUnpacked ▸ canonical).elim
  | notANumber => exact (isUnpacked ▸ canonical).elim
  | _ => rfl

/-- An infinite number reaches further than all finite ones. -/
theorem reachOf_of_infinite
    {sign : Sign}
    (infinite : unpacked number = .infinity sign) :
    reachOf number = ((⊤ : WithTop Rat) : WithTop (WithTop Rat)) := by
  rw [reachOf, infinite]

/-- What is undefined reaches further than infinity. -/
theorem reachOf_of_undefined
    (isUndefined : unpacked number = .notANumber) :
    reachOf number = ⊤ := by
  rw [reachOf, isUndefined]

/-- An extent is never undefined. -/
theorem IsExtent.reachOf_le_infinity
    (extent : IsExtent number) :
    reachOf number ≤ ((⊤ : WithTop Rat) : WithTop (WithTop Rat)) := by
  cases extent with
  | finite isFinite _ =>
      rw [reachOf_of_isFinite isFinite]
      exact WithTop.coe_le_coe.mpr le_top
  | infinite infinite => exact (reachOf_of_infinite infinite).le

/-- Extents are in the order of how far they reach. -/
theorem IsExtent.atMost_iff
    (firstExtent : IsExtent first)
    (secondExtent : IsExtent second) :
    Scalar.atMost first second = true ↔ reachOf first ≤ reachOf second := by
  cases secondExtent with
  | infinite secondInfinite =>
      rw [reachOf_of_infinite secondInfinite, Scalar.atMost]
      refine iff_of_true ?_ firstExtent.reachOf_le_infinity
      cases firstExtent with
      | finite firstFinite _ =>
          rw [(less_infinity firstFinite secondInfinite).1]
          rfl
      | infinite firstInfinite =>
          rw [Bool.or_eq_true]
          refine .inr ?_
          change ((unpacked first).compare (unpacked second) == some .eq) = true
          rw [firstInfinite, secondInfinite]
          rfl
  | finite secondFinite _ =>
      cases firstExtent with
      | finite firstFinite _ =>
          rw [Scalar.atMost, Bool.or_eq_true, less_iff firstFinite secondFinite,
            equal_iff firstFinite secondFinite, ← le_iff_lt_or_eq,
            reachOf_of_isFinite firstFinite, reachOf_of_isFinite secondFinite,
            WithTop.coe_le_coe, WithTop.coe_le_coe]
      | infinite firstInfinite =>
          refine iff_of_false (IsBeyond.not_atMost (.inl firstInfinite) secondFinite) ?_
          rw [reachOf_of_infinite firstInfinite, reachOf_of_isFinite secondFinite,
            WithTop.coe_le_coe]
          exact not_le.mpr (WithTop.coe_lt_top _)

/-- What is undefined is less than nothing. -/
theorem less_of_undefined
    (isUndefined : unpacked first = .notANumber) :
    Scalar.less first second = false := by
  change decide (decide (((unpacked first).compare (unpacked second) == some .lt) = true) = true)
    = false
  rw [isUndefined]
  rfl

/-- A distance that reaches as far as another one is not less. -/
theorem IsDistance.not_less_of_le
    (firstDistance : IsDistance first)
    (secondDistance : IsDistance second)
    (further : reachOf first ≤ reachOf second) :
    Scalar.less second first = false := by
  cases secondDistance with
  | undefined isUndefined => exact less_of_undefined isUndefined
  | extent secondExtent =>
      cases firstDistance with
      | undefined isUndefined =>
          rw [reachOf_of_undefined isUndefined] at further
          have beyond := further.trans secondExtent.reachOf_le_infinity
          exact absurd beyond (not_le.mpr (WithTop.coe_lt_top _))
      | extent firstExtent =>
          cases secondExtent with
          | finite secondFinite _ =>
              cases firstExtent with
              | finite firstFinite _ =>
                  rw [reachOf_of_isFinite firstFinite, reachOf_of_isFinite secondFinite,
                    WithTop.coe_le_coe, WithTop.coe_le_coe] at further
                  exact Bool.eq_false_iff.mpr
                    (mt (less_iff secondFinite firstFinite).mp further.not_gt)
              | infinite firstInfinite =>
                  rw [reachOf_of_infinite firstInfinite, reachOf_of_isFinite secondFinite,
                    WithTop.coe_le_coe] at further
                  exact absurd further (not_le.mpr (WithTop.coe_lt_top _))
          | infinite secondInfinite =>
              cases firstExtent with
              | finite firstFinite _ => exact (less_infinity firstFinite secondInfinite).2
              | infinite firstInfinite =>
                  change decide
                    (decide (((unpacked second).compare (unpacked first) == some .lt) = true) =
                      true) = false
                  rw [firstInfinite, secondInfinite]
                  rfl

end Reach

section Sums

variable {first second number : Float32}

/-- A sum with something undefined is undefined. -/
theorem unpacked_add_of_undefined
    (isUndefined : unpacked first = .notANumber ∨ unpacked second = .notANumber) :
    unpacked (first + second) = .notANumber := by
  have isPacked :
      unpacked (first + second) =
        UnpackedFloat.unpack .binary32
          (UnpackedFloat.pack .binary32
            (UnpackedFloat.add .binary32 (unpacked first) (unpacked second))) :=
    rfl
  suffices sum :
      UnpackedFloat.add .binary32 (unpacked first) (unpacked second) = .notANumber by
    rw [isPacked, sum, unpack_pack_notANumber]
  rcases isUndefined with isUndefined | isUndefined
  · rw [isUndefined]
    cases unpacked second <;> rfl
  · rw [isUndefined]
    cases unpacked first <;> rfl

/-- Sums of distances are distances. -/
theorem IsDistance.add
    (firstDistance : IsDistance first)
    (secondDistance : IsDistance second) :
    IsDistance (first + second) := by
  cases firstDistance with
  | undefined isUndefined => exact .undefined (unpacked_add_of_undefined (.inl isUndefined))
  | extent firstExtent =>
      cases secondDistance with
      | undefined isUndefined => exact .undefined (unpacked_add_of_undefined (.inr isUndefined))
      | extent secondExtent => exact .extent (firstExtent.add secondExtent)

/-- Adding a distance never makes a distance less, whatever is rounded. -/
theorem IsDistance.reachOf_le_add
    (firstDistance : IsDistance first)
    (secondDistance : IsDistance second) :
    reachOf first ≤ reachOf (first + second) := by
  cases firstDistance with
  | undefined isUndefined =>
      rw [reachOf_of_undefined (unpacked_add_of_undefined (.inl isUndefined))]
      exact le_top
  | extent firstExtent =>
      cases secondDistance with
      | undefined isUndefined =>
          rw [reachOf_of_undefined (unpacked_add_of_undefined (.inr isUndefined))]
          exact le_top
      | extent secondExtent =>
          cases firstExtent.add secondExtent with
          | infinite infinite =>
              rw [reachOf_of_infinite infinite]
              exact firstExtent.reachOf_le_infinity
          | finite isFinite _ =>
              obtain ⟨firstFinite, secondFinite⟩ :=
                firstExtent.isFinite_of_add secondExtent isFinite
              have nearest := (rounds_add firstFinite secondFinite).nearest isFinite
              rw [reachOf_of_isFinite firstFinite, reachOf_of_isFinite isFinite,
                WithTop.coe_le_coe, WithTop.coe_le_coe]
              exact nearest.ge (isRepresentable_value firstFinite)
                (le_add_of_nonneg_right (secondExtent.nonneg secondFinite))

theorem IsCanonical.abs
    {form : UnpackedFloat}
    (canonical : IsCanonical form) :
    IsCanonical form.abs := by
  cases form <;> exact canonical

/-- What is a number has a size. -/
theorem isExtent_abs
    (isNumber : unpacked number ≠ .notANumber) :
    IsExtent (Scalar.abs number) := by
  have isPacked :
      unpacked (Scalar.abs number) =
        UnpackedFloat.unpack .binary32
          (UnpackedFloat.pack .binary32 (unpacked number).abs) :=
    rfl
  have of_canonical :
      IsCanonical (unpacked number) → IsExtent (Scalar.abs number) := by
    intro canonical
    refine (Rounds.of_isRounding canonical.abs.isRounding isPacked).isExtent ?_
    cases unpacked number with
    | finite sign mantissa exponent positive =>
        exact mul_nonneg (Nat.cast_nonneg _) (zpow_nonneg (by norm_num) _)
    | _ => exact le_rfl
  cases isUnpacked : unpacked number with
  | notANumber => exact absurd isUnpacked isNumber
  | infinity sign =>
      rw [isUnpacked] at isPacked
      exact .infinite (isPacked.trans (unpack_pack_infinity _))
  | zero sign => exact of_canonical (isUnpacked ▸ trivial)
  | finite sign mantissa exponent positive =>
      refine of_canonical (isCanonical_of_isFinite ?_)
      rw [isFinite_eq, isUnpacked]
      rfl

/-- An absolute value is a distance. -/
theorem isDistance_abs
    (number : Float32) :
    IsDistance (Scalar.abs number) := by
  by_cases isUndefined : unpacked number = .notANumber
  · refine .undefined ?_
    change UnpackedFloat.unpack .binary32
      (UnpackedFloat.pack .binary32 (unpacked number).abs) = .notANumber
    rw [isUndefined]
    rfl
  · exact .extent (isExtent_abs isUndefined)

/-- The difference of finite numbers is a number, though it may be infinite. -/
theorem isExtent_abs_sub
    (firstFinite : Scalar.isFinite first = true)
    (secondFinite : Scalar.isFinite second = true) :
    IsExtent (Scalar.abs (first - second)) := by
  refine isExtent_abs fun isUndefined => ?_
  cases rounds_sub firstFinite secondFinite with
  | finite isFinite _ =>
      rw [isFinite_eq, isUndefined] at isFinite
      cases isFinite
  | overflow _ infinite =>
      rw [isUndefined] at infinite
      cases infinite

end Sums

end Single

end BoxDiagram
