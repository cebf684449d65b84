import BoxDiagram.Number.Single
import BoxDiagram.Proofs.Number.Packed
import Mathlib.Data.Nat.Cast.Order.Field

namespace BoxDiagram

/-!
# Numbers of single precision

A finite number has a rational value.  The result of an operation on finite numbers is the
nearest number to the exact result, or infinite if the exact result is too large.
-/

namespace Single

open Float.Model (Format UnpackedFloat)
open Float.Model.UnpackedFloat (Sign)

/-- The sign, mantissa and exponent of a number. -/
def unpacked (number : Float32) : UnpackedFloat :=
  number.toModel.unpack

/-- The value of a number; zero for one that is not finite. -/
def value (number : Float32) : Rat :=
  unpackedValue (unpacked number)

/-- The number is the rounding of an exact one, or infinite where that is too large. -/
inductive Rounds (exact : Rat) (number : Float32) : Prop where
  | finite
      (isFinite : Scalar.isFinite number = true)
      (nearest : IsNearest exact (value number))
  | overflow
      (large : 2 ^ 128 - 2 ^ 104 < |exact|)
      (infinite : unpacked number = .infinity (if 0 < exact then .positive else .negative))

/-- The check for a finite number looks at its unpacked form. -/
theorem isFinite_eq
    (number : Float32) :
    Scalar.isFinite number = (unpacked number).isFinite := by
  change (!(unpacked number).isNaN && !(unpacked number).isInf) = (unpacked number).isFinite
  cases unpacked number <;> rfl

/-- A finite number is as single precision holds it. -/
theorem isCanonical_of_isFinite
    {number : Float32}
    (isFinite : Scalar.isFinite number = true) :
    IsCanonical (unpacked number) :=
  isCanonical_unpack (isFinite_eq number ▸ isFinite)

theorem isFinite_of_isCanonical
    {number : Float32}
    (canonical : IsCanonical (unpacked number)) :
    Scalar.isFinite number = true := by
  rw [isFinite_eq]
  cases isUnpacked : unpacked number with
  | infinity sign => exact (isUnpacked ▸ canonical).elim
  | notANumber => exact (isUnpacked ▸ canonical).elim
  | zero sign => rfl
  | finite sign mantissa exponent positive => rfl

/-- The value of a finite number is one of single precision. -/
theorem isRepresentable_value
    {number : Float32}
    (isFinite : Scalar.isFinite number = true) :
    IsRepresentable (value number) :=
  (isCanonical_of_isFinite isFinite).representable

theorem Fits.pow_le
    {mantissa : Nat}
    {exponent : Int}
    (fits : Fits mantissa exponent)
    (large : 105 ≤ exponent) :
    (2 : Rat) ^ (128 : Int) ≤ mantissa * 2 ^ exponent := by
  have full : 2 ^ 23 ≤ mantissa := fits.full.resolve_right (by omega)
  calc
    (2 : Rat) ^ (128 : Int)
      = (2 ^ 23 : Nat) * 2 ^ (105 : Int) := by norm_num
    _ ≤ (mantissa : Rat) * 2 ^ exponent :=
      mul_le_mul (by exact_mod_cast full) (zpow_le_zpow_right₀ (by norm_num) large)
        (by positivity) (Nat.cast_nonneg mantissa)

/-- A rounding that is not zero has the sign of the exact number. -/
theorem IsNearest.sign_eq
    {exact magnitude : Rat}
    {sign : Sign}
    (nearest : IsNearest exact (Single.signed sign magnitude))
    (positive : 0 < magnitude) :
    sign = if 0 < exact then .positive else .negative := by
  split
  · rename_i above
    have nonneg := nearest.ge isRepresentable_zero above.le
    cases sign
    · exact absurd (neg_nonneg.mp nonneg) (not_le.mpr positive)
    · rfl
  · rename_i notAbove
    have nonpos := nearest.le isRepresentable_zero (not_lt.mp notAbove)
    cases sign
    · rfl
    · exact absurd nonpos (not_le.mpr positive)

/-- The largest finite number. -/
theorem isRepresentable_largest :
    IsRepresentable (2 ^ 128 - 2 ^ 104) :=
  ⟨2 ^ 24 - 1, 104, by norm_num, by norm_num, by norm_num⟩

/-- Every finite number lies between the largest one and its negative. -/
theorem abs_value_le
    (number : Float32) :
    |value number| ≤ 2 ^ 128 - 2 ^ 104 := by
  have bound_nonneg : (0 : Rat) ≤ 2 ^ 128 - 2 ^ 104 := by norm_num
  rw [value]
  cases isUnpacked : unpacked number with
  | infinity sign => exact abs_zero.trans_le bound_nonneg
  | notANumber => exact abs_zero.trans_le bound_nonneg
  | zero sign => exact abs_zero.trans_le bound_nonneg
  | finite sign mantissa exponent positive =>
      have isFinite : Scalar.isFinite number = true := by
        rw [isFinite_eq, isUnpacked]
        rfl
      have canonical := isCanonical_of_isFinite isFinite
      rw [isUnpacked] at canonical
      have small : exponent ≤ 104 := exponent_le_of_unpack isUnpacked
      rw [unpackedValue, abs_signed, abs_of_pos (mul_pos (by exact_mod_cast positive)
        (zpow_pos (by norm_num) _))]
      calc
        (mantissa : Rat) * 2 ^ exponent
          ≤ (2 ^ 24 - 1 : Nat) * 2 ^ (104 : Int) :=
            mul_le_mul (Nat.cast_le.mpr (Nat.le_pred_of_lt canonical.short))
              (zpow_le_zpow_right₀ (by norm_num) small) (by positivity) (by positivity)
        _ = 2 ^ 128 - 2 ^ 104 := by norm_num

/-- Packing the rounding of an exact number keeps it or makes it infinite. -/
theorem Rounds.of_isRounding
    {exact : Rat}
    {unrounded : UnpackedFloat}
    {number : Float32}
    (rounding : IsRounding exact unrounded)
    (isPacked :
      unpacked number = UnpackedFloat.unpack .binary32 (UnpackedFloat.pack .binary32 unrounded)) :
    Rounds exact number := by
  obtain ⟨canonical, nearest⟩ := rounding
  have kept : unpacked number = unrounded → Rounds exact number := by
    intro same
    refine .finite (isFinite_of_isCanonical (same ▸ canonical)) ?_
    rw [value, same]
    exact nearest
  cases unrounded with
  | infinity sign => exact canonical.elim
  | notANumber => exact canonical.elim
  | zero sign => exact kept (isPacked.trans (unpack_pack_zero sign))
  | finite sign mantissa exponent positive =>
      by_cases small : exponent ≤ 104
      · exact kept (isPacked.trans (unpack_pack_of_fits positive canonical small))
      · have large : 105 ≤ exponent := by omega
        have magnitude := canonical.pow_le large
        have magnitudePositive : (0 : Rat) < mantissa * 2 ^ exponent :=
          (zpow_pos (by norm_num) _).trans_le magnitude
        refine .overflow ?_ ?_
        · by_contra notLarge
          have bounded := nearest.abs_le_of_abs_le isRepresentable_largest (not_lt.mp notLarge)
          rw [unpackedValue, abs_signed, abs_of_pos magnitudePositive] at bounded
          exact absurd (magnitude.trans bounded) (by norm_num)
        · rw [isPacked, unpack_pack_of_large positive large, nearest.sign_eq magnitudePositive]

section Operations

variable {first second : Float32}

/-- A sum is rounded once. -/
theorem rounds_add
    (firstFinite : Scalar.isFinite first = true)
    (secondFinite : Scalar.isFinite second = true) :
    Rounds (value first + value second) (first + second) :=
  .of_isRounding (isRounding_add (isCanonical_of_isFinite firstFinite)
    (isCanonical_of_isFinite secondFinite)) rfl

/-- A difference is rounded once. -/
theorem rounds_sub
    (firstFinite : Scalar.isFinite first = true)
    (secondFinite : Scalar.isFinite second = true) :
    Rounds (value first - value second) (first - second) :=
  .of_isRounding (isRounding_sub (isCanonical_of_isFinite firstFinite)
    (isCanonical_of_isFinite secondFinite)) rfl

/-- A product is rounded once. -/
theorem rounds_mul
    (firstFinite : Scalar.isFinite first = true)
    (secondFinite : Scalar.isFinite second = true) :
    Rounds (value first * value second) (first * second) :=
  .of_isRounding (isRounding_mul (isCanonical_of_isFinite firstFinite)
    (isCanonical_of_isFinite secondFinite)) rfl

/-- A quotient is rounded once. -/
theorem rounds_div
    (firstFinite : Scalar.isFinite first = true)
    (secondFinite : Scalar.isFinite second = true)
    (notZero : value second ≠ 0) :
    Rounds (value first / value second) (first / second) :=
  .of_isRounding (isRounding_div (isCanonical_of_isFinite firstFinite)
    (isCanonical_of_isFinite secondFinite) notZero) rfl

end Operations

/-- What is rounded to a finite number is rounded to the nearest one. -/
theorem Rounds.nearest
    {exact : Rat}
    {number : Float32}
    (rounds : Rounds exact number)
    (isFinite : Scalar.isFinite number = true) :
    IsNearest exact (value number) := by
  cases rounds with
  | finite _ nearest => exact nearest
  | overflow _ infinite =>
      rw [isFinite_eq, infinite] at isFinite
      cases isFinite

/-- What is in range is rounded to a finite number. -/
theorem Rounds.isFinite
    {exact : Rat}
    {number : Float32}
    (rounds : Rounds exact number)
    (small : |exact| ≤ 2 ^ 128 - 2 ^ 104) :
    Scalar.isFinite number = true := by
  cases rounds with
  | finite isFinite _ => exact isFinite
  | overflow large _ => exact absurd small (not_le.mpr large)

/-- Half of the distance of the largest numbers of single precision. -/
def grain : Rat :=
  2 ^ 103

theorem grain_pos :
    0 < grain := by
  norm_num [grain]

/-- No rounding that stays finite leads further than half of the distance of the largest numbers. -/
theorem Rounds.near
    {exact : Rat}
    {number : Float32}
    (rounds : Rounds exact number)
    (small : |exact| ≤ 2 ^ 128 - 2 * grain) :
    Scalar.isFinite number = true ∧ |value number - exact| ≤ grain := by
  have isFinite := rounds.isFinite (small.trans (by norm_num [grain]))
  refine ⟨isFinite, ?_⟩
  have near := (rounds.nearest isFinite).abs_error_le (show -149 ≤ (104 : Int) by decide)
    (small.trans (by norm_num [grain]))
  exact near.trans (by norm_num [grain])

/-- The number is not negative, but may be infinite. -/
inductive IsExtent (number : Float32) : Prop where
  | finite (isFinite : Scalar.isFinite number = true) (nonneg : 0 ≤ value number)
  | infinite (isInfinite : unpacked number = .infinity .positive)

/-- The rounding of a number that is not negative is not negative. -/
theorem Rounds.isExtent
    {exact : Rat}
    {number : Float32}
    (rounds : Rounds exact number)
    (nonneg : 0 ≤ exact) :
    IsExtent number := by
  cases rounds with
  | finite isFinite nearest => exact .finite isFinite (nearest.ge isRepresentable_zero nonneg)
  | overflow large infinite =>
      rw [if_pos] at infinite
      · exact .infinite infinite
      · rw [abs_of_nonneg nonneg] at large
        exact (by norm_num : (0 : Rat) < 2 ^ 128 - 2 ^ 104).trans large

namespace IsExtent

variable {first second : Float32}

theorem not_isFinite_of_infinite
    {number : Float32}
    {sign : Sign}
    (infinite : unpacked number = .infinity sign) :
    ¬Scalar.isFinite number = true := by
  rw [isFinite_eq, infinite]
  exact Bool.false_ne_true

/-- A finite extent is not negative. -/
theorem nonneg
    (extent : IsExtent first)
    (isFinite : Scalar.isFinite first = true) :
    0 ≤ value first := by
  cases extent with
  | finite _ nonneg => exact nonneg
  | infinite infinite => exact absurd isFinite (not_isFinite_of_infinite infinite)

/-- A sum of extents is infinite if one of them is. -/
theorem add_eq_infinity
    (firstExtent : IsExtent first)
    (secondExtent : IsExtent second)
    (infinite : unpacked first = .infinity .positive ∨ unpacked second = .infinity .positive) :
    unpacked (first + second) = .infinity .positive := by
  have isPacked :
      unpacked (first + second) =
        UnpackedFloat.unpack .binary32
          (UnpackedFloat.pack .binary32
            (UnpackedFloat.add .binary32 (unpacked first) (unpacked second))) :=
    rfl
  have of_canonical :
      ∀ {number : UnpackedFloat}, IsCanonical number →
        UnpackedFloat.add .binary32 number (.infinity .positive) = .infinity .positive ∧
          UnpackedFloat.add .binary32 (.infinity .positive) number = .infinity .positive := by
    intro number canonical
    cases number with
    | infinity sign => exact canonical.elim
    | notANumber => exact canonical.elim
    | _ => exact ⟨rfl, rfl⟩
  suffices sum :
      UnpackedFloat.add .binary32 (unpacked first) (unpacked second) = .infinity .positive by
    rw [isPacked, sum, unpack_pack_infinity]
  cases firstExtent with
  | infinite firstInfinite =>
      rw [firstInfinite]
      cases secondExtent with
      | infinite secondInfinite =>
          rw [secondInfinite]
          rfl
      | finite isFinite _ => exact (of_canonical (isCanonical_of_isFinite isFinite)).2
  | finite firstFinite _ =>
      have secondInfinite := infinite.resolve_left fun firstInfinite =>
        not_isFinite_of_infinite firstInfinite firstFinite
      rw [secondInfinite]
      exact (of_canonical (isCanonical_of_isFinite firstFinite)).1

/-- Sums of extents are extents. -/
theorem add
    (firstExtent : IsExtent first)
    (secondExtent : IsExtent second) :
    IsExtent (first + second) := by
  cases firstExtent with
  | infinite infinite =>
      exact .infinite (add_eq_infinity (.infinite infinite) secondExtent (.inl infinite))
  | finite firstFinite firstNonneg =>
      cases secondExtent with
      | infinite infinite =>
          exact .infinite
            (add_eq_infinity (.finite firstFinite firstNonneg) (.infinite infinite) (.inr infinite))
      | finite secondFinite secondNonneg =>
          exact (rounds_add firstFinite secondFinite).isExtent (add_nonneg firstNonneg secondNonneg)

/-- Extents with a finite sum are finite. -/
theorem isFinite_of_add
    (firstExtent : IsExtent first)
    (secondExtent : IsExtent second)
    (isFinite : Scalar.isFinite (first + second) = true) :
    Scalar.isFinite first = true ∧ Scalar.isFinite second = true := by
  have notInfinite := fun infinite =>
    not_isFinite_of_infinite (add_eq_infinity firstExtent secondExtent infinite) isFinite
  constructor
  · cases firstExtent with
    | finite isFinite _ => exact isFinite
    | infinite infinite => exact (notInfinite (.inl infinite)).elim
  · cases secondExtent with
    | finite isFinite _ => exact isFinite
    | infinite infinite => exact (notInfinite (.inr infinite)).elim

end IsExtent

section Count

/-- A count of 64 bits is rounded once. -/
theorem rounds_toFloat32
    (count : UInt64) :
    Rounds count.toNat count.toFloat32 := by
  have rounding := isRounding_normalize count.toNat 0 .positive
  rw [zpow_zero, mul_one] at rounding
  exact .of_isRounding rounding rfl

theorem unpacked_one :
    unpacked (Float32.ofBits 0x3F800000) = .finite .positive (2 ^ 23) (-23) (by decide) := by
  rfl

/-- A count of few bits is converted and multiplied by one. -/
theorem rounds_ofNat_of_small
    {count : Nat}
    (small : count < 2 ^ 23) :
    Rounds count (count.toUInt64.toFloat32 * Float32.ofBits 0x3F800000) := by
  have toNat_eq : count.toUInt64.toNat = count :=
    UInt64.toNat_ofNat_of_lt' (small.trans (by decide))
  have rounds := rounds_toFloat32 count.toUInt64
  rw [toNat_eq] at rounds
  have inRange : |(count : Rat)| ≤ 2 ^ 128 - 2 ^ 104 := by
    rw [Nat.abs_cast]
    exact (Nat.cast_le.mpr small.le).trans (by norm_num)
  have isFinite := rounds.isFinite inRange
  have value_eq := (rounds.nearest isFinite).eq_of_representable
    (isRepresentable_natCast (small.le.trans (by decide)))
  have oneFinite : Scalar.isFinite (Float32.ofBits 0x3F800000) = true := by
    rw [isFinite_eq, unpacked_one]
    rfl
  have one_eq : value (Float32.ofBits 0x3F800000) = 1 := by
    rw [value, unpacked_one, unpackedValue, signed]
    norm_num
  have product := rounds_mul isFinite oneFinite
  rwa [value_eq, one_eq, mul_one] at product

/-- A count of many bits is rounded by its digits. -/
theorem rounds_ofNat_of_positive
    {count : Nat}
    (positive : count ≠ 0) :
    Rounds count (Float32.ofModel (Float32.Model.ofScientific count 0)) := by
  have scaled :
      UnpackedFloat.ofScientific .binary32 count 0 =
        UnpackedFloat.roundWithAccuracy .binary32 .positive (count <<< 24) (-24) .exact := by
    rw [UnpackedFloat.ofScientific, dif_neg positive, if_neg (by decide), if_neg, if_pos le_rfl]
    · change UnpackedFloat.roundWithAccuracy .binary32 .positive (count <<< 24 * 1) (-24) .exact = _
      rw [Nat.mul_one]
    · change ¬(0 < -((2 ^ 8 : Int) + count.log2))
      omega
  have bits := log2_shiftLeft positive 24
  have rounding :
      IsRounding (signed .positive ((count <<< 24 : Nat) * 2 ^ (-24 : Int)))
        (UnpackedFloat.roundWithAccuracy .binary32 .positive (count <<< 24) (-24) .exact) :=
    isRounding_roundWithAccuracy (Represents.of_exact _) (.inl (by omega)) .positive
  have exact_eq := value_shiftLeft count 24 0
  rw [zpow_zero, mul_one] at exact_eq
  rw [← scaled, signed] at rounding
  exact .of_isRounding (exact_eq ▸ rounding) rfl

/-- A count becomes the nearest number. -/
theorem rounds_ofNat
    (count : Nat) :
    Rounds count (Scalar.ofNat count : Float32) := by
  change Rounds count (Float32.ofScientific count false 0)
  rw [Float32.ofScientific]
  split
  · rename_i small
    exact rounds_ofNat_of_small small.1
  · rename_i large
    refine rounds_ofNat_of_positive ?_
    rintro rfl
    exact large ⟨by decide, by decide⟩

end Count

end Single

end BoxDiagram
