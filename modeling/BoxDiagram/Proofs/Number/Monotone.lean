import BoxDiagram.Proofs.Number.Bounded
import BoxDiagram.Proofs.Number.Distance

namespace BoxDiagram

/-!
# Larger extents of larger parts

Rounding keeps the order of exact numbers, and so does the bound from which on a number
becomes infinite.  Where two exact numbers are the same, their roundings are, if there is
nothing to round or the operands are the same.  So sums, products and maxima of larger
extents are no smaller, whatever is rounded and whatever is infinite.
-/

namespace Single

open Float.Model (UnpackedFloat)
open Float.Model.UnpackedFloat (Sign)

/-- How far a rounded number reaches: to infinity from `2 ^ 128` on. -/
def limited (value : Rat) : WithTop (WithTop Rat) :=
  if value < 2 ^ 128 then ((value : WithTop Rat) : WithTop (WithTop Rat))
  else ((⊤ : WithTop Rat) : WithTop (WithTop Rat))

/-- Limiting keeps the order. -/
theorem limited_mono
    {first second : Rat}
    (below : first ≤ second) :
    limited first ≤ limited second := by
  rw [limited, limited]
  split
  · split
    · exact WithTop.coe_le_coe.mpr (WithTop.coe_le_coe.mpr below)
    · exact WithTop.coe_le_coe.mpr le_top
  · rename_i large
    rw [if_neg fun small => large (below.trans_lt small)]

theorem Fits.lt_pow
    {mantissa : Nat}
    {exponent : Int}
    (fits : Fits mantissa exponent)
    (small : exponent ≤ 104) :
    (mantissa * 2 ^ exponent : Rat) < 2 ^ 128 :=
  calc
    (mantissa * 2 ^ exponent : Rat)
      < (2 ^ 24 : Nat) * 2 ^ exponent :=
        mul_lt_mul_of_pos_right (by exact_mod_cast fits.short) (zpow_pos (by norm_num) _)
    _ ≤ (2 ^ 24 : Nat) * 2 ^ (104 : Int) :=
        mul_le_mul_of_nonneg_left (zpow_le_zpow_right₀ (by norm_num) small) (by positivity)
    _ = 2 ^ 128 := by norm_num

/-- The number reaches as far as the rounding of an exact one. -/
def Reaches (exact : Rat) (number : Float32) : Prop :=
  ∃ rounded, IsNearest exact rounded ∧ reachOf number = limited rounded

section Reach

variable {exact other : Rat} {number first second : Float32}

/-- The rounding of an exact number is infinite only where the rounded one is too large. -/
theorem Reaches.of_isRounding
    {unrounded : UnpackedFloat}
    (rounding : IsRounding exact unrounded)
    (nonneg : 0 ≤ exact)
    (isPacked :
      unpacked number = UnpackedFloat.unpack .binary32 (UnpackedFloat.pack .binary32 unrounded)) :
    Reaches exact number := by
  obtain ⟨canonical, nearest⟩ := rounding
  have rounded_nonneg := nearest.ge isRepresentable_zero nonneg
  refine ⟨unpackedValue unrounded, nearest, ?_⟩
  have kept :
      unpacked number = unrounded → unpackedValue unrounded < 2 ^ 128 →
        reachOf number = limited (unpackedValue unrounded) := by
    intro same small
    rw [reachOf_of_isFinite (isFinite_of_isCanonical (same ▸ canonical)), value, same, limited,
      if_pos small]
  cases unrounded with
  | infinity sign => exact canonical.elim
  | notANumber => exact canonical.elim
  | zero sign =>
      exact kept (isPacked.trans (unpack_pack_zero sign)) (show (0 : Rat) < 2 ^ 128 by norm_num)
  | finite sign mantissa exponent positive =>
      have magnitudePositive : (0 : Rat) < mantissa * 2 ^ exponent :=
        mul_pos (by exact_mod_cast positive) (zpow_pos (by norm_num) _)
      cases sign with
      | negative => exact absurd rounded_nonneg (not_le.mpr (neg_lt_zero.mpr magnitudePositive))
      | positive =>
          by_cases small : exponent ≤ 104
          · exact kept (isPacked.trans (unpack_pack_of_fits positive canonical small))
              (canonical.lt_pow small)
          · have large : 105 ≤ exponent := by omega
            have magnitude :
                (2 : Rat) ^ 128 ≤ unpackedValue (.finite .positive mantissa exponent positive) :=
              canonical.pow_le large
            rw [reachOf_of_infinite (isPacked.trans (unpack_pack_of_large positive large)),
              limited, if_neg (not_lt.mpr magnitude)]

/-- How far a number reaches depends on its unpacked form alone. -/
theorem reachOf_congr
    (same : unpacked first = unpacked second) :
    reachOf first = reachOf second := by
  rw [reachOf, reachOf, value, value, same]

/-- Roundings are in the order of the exact numbers, if the same number is rounded alike. -/
theorem Reaches.le
    (reaches : Reaches exact first)
    (otherReaches : Reaches other second)
    (le : exact ≤ other)
    (alike : exact = other → IsRepresentable exact ∨ unpacked first = unpacked second) :
    reachOf first ≤ reachOf second := by
  rcases le.lt_or_eq with below | same
  · obtain ⟨value, nearest, reach⟩ := reaches
    obtain ⟨rounded, otherNearest, otherReach⟩ := otherReaches
    rw [reach, otherReach]
    exact limited_mono (nearest.le_of_lt otherNearest below)
  · rcases alike same with representable | sameForm
    · obtain ⟨value, nearest, reach⟩ := reaches
      obtain ⟨rounded, otherNearest, otherReach⟩ := otherReaches
      rw [reach, otherReach, nearest.eq_of_representable representable,
        otherNearest.eq_of_representable (same ▸ representable), same]
    · exact (reachOf_congr sameForm).le

/-- Positive numbers of one value have one form. -/
theorem unpacked_eq_of_value_eq
    (firstFinite : Scalar.isFinite first = true)
    (secondFinite : Scalar.isFinite second = true)
    (positive : 0 < value first)
    (same : value first = value second) :
    unpacked first = unpacked second := by
  have canonical := isCanonical_of_isFinite firstFinite
  have otherCanonical := isCanonical_of_isFinite secondFinite
  have otherPositive := positive.trans_eq same
  rw [value] at positive same otherPositive
  rw [value] at same
  have of_finite :
      ∀ {form : UnpackedFloat}, IsCanonical form → 0 < unpackedValue form →
        ∃ mantissa exponent inside,
          form = .finite .positive mantissa exponent inside ∧ Fits mantissa exponent := by
    intro form formCanonical formPositive
    cases form with
    | finite sign mantissa exponent inside =>
        cases sign with
        | positive => exact ⟨mantissa, exponent, inside, rfl, formCanonical⟩
        | negative =>
            have magnitude : (0 : Rat) ≤ mantissa * 2 ^ exponent :=
              mul_nonneg (Nat.cast_nonneg _) (zpow_nonneg (by norm_num) _)
            exact absurd formPositive (not_lt.mpr (neg_nonpos.mpr magnitude))
    | _ => exact absurd formPositive (lt_irrefl 0)
  obtain ⟨mantissa, exponent, inside, isForm, fits⟩ := of_finite canonical positive
  obtain ⟨digits, scale, otherInside, isOther, otherFits⟩ :=
    of_finite otherCanonical otherPositive
  rw [isForm, isOther] at same ⊢
  have compared := fits.compare_eq otherFits
  rw [compare_eq_iff_eq.mpr (show (mantissa * 2 ^ exponent : Rat) = digits * 2 ^ scale from same),
    Ordering.then_eq_eq, compare_eq_iff_eq, compare_eq_iff_eq] at compared
  obtain ⟨rfl, rfl⟩ := compared
  rfl

end Reach

section Operations

variable {first second : Float32}

/-- A sum of measures reaches as far as its exact value rounds. -/
theorem reaches_add
    (firstMeasure : IsMeasure first)
    (secondMeasure : IsMeasure second) :
    Reaches (value first + value second) (first + second) :=
  .of_isRounding (isRounding_add (isCanonical_of_isFinite firstMeasure.isFinite)
    (isCanonical_of_isFinite secondMeasure.isFinite))
    (add_nonneg firstMeasure.nonneg secondMeasure.nonneg) rfl

/-- A product of measures reaches as far as its exact value rounds. -/
theorem reaches_mul
    (firstMeasure : IsMeasure first)
    (secondMeasure : IsMeasure second) :
    Reaches (value first * value second) (first * second) :=
  .of_isRounding (isRounding_mul (isCanonical_of_isFinite firstMeasure.isFinite)
    (isCanonical_of_isFinite secondMeasure.isFinite))
    (mul_nonneg firstMeasure.nonneg secondMeasure.nonneg) rfl

theorem unpacked_add_congr
    {number other : Float32}
    (sameFirst : unpacked first = unpacked second)
    (sameNumber : unpacked number = unpacked other) :
    unpacked (first + number) = unpacked (second + other) := by
  change UnpackedFloat.unpack .binary32 (UnpackedFloat.pack .binary32
    (UnpackedFloat.add .binary32 (unpacked first) (unpacked number))) = _
  rw [sameFirst, sameNumber]
  rfl

theorem unpacked_mul_congr
    (sameForm : unpacked first = unpacked second)
    (factor : Float32) :
    unpacked (first * factor) = unpacked (second * factor) := by
  change UnpackedFloat.unpack .binary32 (UnpackedFloat.pack .binary32
    (UnpackedFloat.mul .binary32 (unpacked first) (unpacked factor))) = _
  rw [sameForm]
  rfl

/-- Of two measures of one value, either both are zero or they have one form. -/
theorem IsMeasure.zero_or_unpacked_eq
    (firstMeasure : IsMeasure first)
    (secondMeasure : IsMeasure second)
    (same : value first = value second) :
    value first = 0 ∨ unpacked first = unpacked second := by
  rcases firstMeasure.nonneg.eq_or_lt with isZero | positive
  · exact .inl isZero.symm
  · exact .inr
      (unpacked_eq_of_value_eq firstMeasure.isFinite secondMeasure.isFinite positive same)

/-- The larger of two extents reaches as far as the one that reaches further. -/
theorem IsExtent.reachOf_larger
    (firstExtent : IsExtent first)
    (secondExtent : IsExtent second) :
    reachOf (Scalar.larger first second) = max (reachOf first) (reachOf second) := by
  cases firstExtent.larger secondExtent with
  | finite isFinite _ =>
      obtain ⟨firstFinite, secondFinite⟩ := firstExtent.isFinite_of_larger secondExtent isFinite
      rw [reachOf_of_isFinite isFinite, reachOf_of_isFinite firstFinite,
        reachOf_of_isFinite secondFinite, value_larger firstFinite secondFinite, WithTop.coe_max,
        WithTop.coe_max]
  | infinite infinite =>
      have isTop := reachOf_of_infinite infinite
      rcases larger_eq_or_eq first second with same | same
      · rw [same] at isTop ⊢
        exact (max_eq_left (secondExtent.reachOf_le_infinity.trans_eq isTop.symm)).symm
      · rw [same] at isTop ⊢
        exact (max_eq_right (firstExtent.reachOf_le_infinity.trans_eq isTop.symm)).symm

end Operations

/-- The second extent reaches at least as far as the first one. -/
structure Widens (first second : Float32) : Prop where
  narrow : IsExtent first
  wide : IsExtent second
  le : reachOf first ≤ reachOf second

namespace Widens

variable {first second number other : Float32}

/-- Each extent widens itself. -/
theorem refl
    (extent : IsExtent number) :
    Widens number number :=
  ⟨extent, extent, le_rfl⟩

/-- What is widened is at most what widens it. -/
theorem atMost
    (widens : Widens first second) :
    Scalar.atMost first second = true :=
  (widens.narrow.atMost_iff widens.wide).mpr widens.le

/-- What is at most a measure is a measure, and its value is not larger. -/
theorem isMeasure
    (widens : Widens first second)
    (isFinite : Scalar.isFinite second = true) :
    IsMeasure first ∧ IsMeasure second ∧ value first ≤ value second := by
  have upTo := IsUpTo.of_atMost widens.narrow isFinite widens.atMost
  exact ⟨⟨upTo.isFinite, upTo.nonneg⟩, ⟨isFinite, widens.wide.nonneg isFinite⟩, upTo.le⟩

/-- The sum of larger extents is no smaller. -/
theorem add
    (widens : Widens first second)
    (otherWidens : Widens number other) :
    Widens (first + number) (second + other) := by
  have narrow := widens.narrow.add otherWidens.narrow
  have wide := widens.wide.add otherWidens.wide
  refine ⟨narrow, wide, ?_⟩
  cases wide with
  | infinite infinite =>
      exact narrow.reachOf_le_infinity.trans_eq (reachOf_of_infinite infinite).symm
  | finite isFinite _ =>
      obtain ⟨secondFinite, otherFinite⟩ := widens.wide.isFinite_of_add otherWidens.wide isFinite
      obtain ⟨firstMeasure, secondMeasure, first_le⟩ := widens.isMeasure secondFinite
      obtain ⟨numberMeasure, otherMeasure, number_le⟩ := otherWidens.isMeasure otherFinite
      refine (reaches_add firstMeasure numberMeasure).le (reaches_add secondMeasure otherMeasure)
        (add_le_add first_le number_le) fun same => ?_
      -- A sum of a number and zero needs no rounding; otherwise the same numbers are added.
      rcases firstMeasure.zero_or_unpacked_eq secondMeasure (by linarith) with isZero | sameFirst
      · rw [isZero, zero_add]
        exact .inl (isRepresentable_value numberMeasure.isFinite)
      · rcases numberMeasure.zero_or_unpacked_eq otherMeasure (by linarith) with isZero | sameNumber
        · rw [isZero, add_zero]
          exact .inl (isRepresentable_value firstMeasure.isFinite)
        · exact .inr (unpacked_add_congr sameFirst sameNumber)

/-- The larger of two numbers widens with both of them. -/
theorem larger
    (widens : Widens first second)
    (otherWidens : Widens number other) :
    Widens (Scalar.larger first number) (Scalar.larger second other) := by
  refine ⟨widens.narrow.larger otherWidens.narrow, widens.wide.larger otherWidens.wide, ?_⟩
  rw [widens.narrow.reachOf_larger otherWidens.narrow, widens.wide.reachOf_larger otherWidens.wide]
  exact max_le_max widens.le otherWidens.le

/-- More of a measure are no smaller, as long as they can be counted. -/
theorem ofNat_mul
    {count more : Nat}
    (le : count ≤ more)
    (few : more ≤ 2 ^ 65)
    (measure : IsMeasure number) :
    Widens (Scalar.ofNat count * number) (Scalar.ofNat more * number) := by
  have counted : ∀ {lanes : Nat}, lanes ≤ more → IsMeasure (Scalar.ofNat lanes : Float32) := by
    intro lanes lanes_le
    have upTo := isUpTo_ofNat (lanes_le.trans few) (by decide)
    exact ⟨upTo.isFinite, upTo.nonneg⟩
  have countMeasure := counted le
  have moreMeasure := counted le_rfl
  have product : ∀ {factor : Float32}, IsMeasure factor → IsExtent (factor * number) :=
    fun factorMeasure => (rounds_mul factorMeasure.isFinite measure.isFinite).isExtent
      (mul_nonneg factorMeasure.nonneg measure.nonneg)
  refine ⟨product countMeasure, product moreMeasure, ?_⟩
  rcases le.eq_or_lt with rfl | less
  · exact le_rfl
  · have count_le : value (Scalar.ofNat count : Float32) ≤ value (Scalar.ofNat more : Float32) :=
      ((rounds_ofNat count).nearest countMeasure.isFinite).le_of_lt
        ((rounds_ofNat more).nearest moreMeasure.isFinite) (by exact_mod_cast less)
    refine (reaches_mul countMeasure measure).le (reaches_mul moreMeasure measure)
      (mul_le_mul_of_nonneg_right count_le measure.nonneg) fun same => ?_
    -- A multiple of zero needs no rounding; otherwise both counts are rounded to one number.
    rcases mul_eq_mul_right_iff.mp same with sameCount | isZero
    · rcases countMeasure.zero_or_unpacked_eq moreMeasure sameCount with isZero | sameForm
      · rw [isZero, zero_mul]
        exact .inl isRepresentable_zero
      · exact .inr (unpacked_mul_congr sameForm number)
    · rw [isZero, mul_zero]
      exact .inl isRepresentable_zero

/-- Larger extents are combined to an extent that is no smaller, step by step. -/
theorem foldl
    {combine : Float32 → Float32 → Float32}
    {numbers others : List Float32}
    (keeps : ∀ {first second number other : Float32}, Widens first second → Widens number other →
      Widens (combine first number) (combine second other))
    (startWidens : Widens first second)
    (eachWidens : List.Forall₂ Widens numbers others) :
    Widens (numbers.foldl combine first) (others.foldl combine second) := by
  induction eachWidens generalizing first second with
  | nil => exact startWidens
  | cons widens _ inductionHypothesis => exact inductionHypothesis (keeps startWidens widens)

end Widens

end Single

end BoxDiagram
