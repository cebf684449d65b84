import BoxDiagram.Proofs.Number.Rounding
import Mathlib

namespace BoxDiagram

/-!
# Arithmetic of unpacked numbers

An unpacked number has a sign, a mantissa and an exponent.  The operations compute the
exact mantissa of a result, or enough bits of it, and round once.
-/

namespace Single

open Float.Model (Format UnpackedFloat totalExponent)
open Float.Model.UnpackedFloat

/-- The number with a sign. -/
def signed (sign : Sign) (magnitude : Rat) : Rat :=
  match sign with
  | .negative => -magnitude
  | .positive => magnitude

@[simp] theorem abs_signed
    (sign : Sign)
    (magnitude : Rat) :
    |signed sign magnitude| = |magnitude| := by
  cases sign
  · exact abs_neg magnitude
  · rfl

/-- The value of an unpacked number; zero for one that is not finite. -/
def unpackedValue : UnpackedFloat → Rat
  | .finite sign mantissa exponent _ => signed sign (mantissa * 2 ^ exponent)
  | _ => 0

/-- A mantissa with its exponent is as single precision holds it. -/
structure Fits (mantissa : Nat) (exponent : Int) : Prop where
  short : mantissa < 2 ^ 24
  low : -149 ≤ exponent
  full : 2 ^ 23 ≤ mantissa ∨ exponent = -149

/-- The number is finite, and as single precision holds it if the exponent is not too large. -/
def IsCanonical : UnpackedFloat → Prop
  | .zero _ => True
  | .finite _ mantissa exponent _ => Fits mantissa exponent
  | _ => False

/-- An unpacked number is the rounding of an exact one. -/
structure IsRounding (exact : Rat) (number : UnpackedFloat) : Prop where
  canonical : IsCanonical number
  nearest : IsNearest exact (unpackedValue number)

/-- Signs do not matter for what is nearest. -/
theorem IsNearest.signed
    {exact value : Rat}
    (nearest : IsNearest exact value)
    (sign : Sign) :
    IsNearest (signed sign exact) (Single.signed sign value) := by
  cases sign
  · exact nearest.neg
  · exact nearest

/-- What is unpacked as it is packed is a number of single precision. -/
theorem IsCanonical.representable
    {number : UnpackedFloat}
    (canonical : IsCanonical number) :
    IsRepresentable (unpackedValue number) := by
  cases number with
  | finite sign mantissa exponent positive =>
      have whole : IsRepresentable (mantissa * 2 ^ exponent) :=
        ⟨mantissa, exponent, by rw [Nat.abs_cast]; exact_mod_cast canonical.short.le,
          canonical.low, by norm_num⟩
      cases sign
      · exact whole.neg
      · exact whole
  | _ => exact isRepresentable_zero

/-- A finite number rounds to itself. -/
theorem IsCanonical.isRounding
    {number : UnpackedFloat}
    (canonical : IsCanonical number) :
    IsRounding (unpackedValue number) number :=
  ⟨canonical, .of_representable canonical.representable⟩

theorem isRounding_zero
    (sign : Sign) :
    IsRounding 0 (.zero sign) :=
  ⟨trivial, .of_representable isRepresentable_zero⟩

/-- The exponent is such that 24 bits are left, but not below the least one. -/
theorem targetExponent_eq
    (mantissa : Nat)
    (exponent : Int) :
    Format.binary32.targetExponent (totalExponent mantissa exponent) =
      max (mantissa.log2 + exponent - 23) (-149) := by
  simp only [Format.targetExponent, totalExponent, Format.mantissaBits, Format.minExponent]
  norm_num
  omega

/-- A mantissa of 24 bits is not shifted any more. -/
theorem shiftToTargetExponent_of_short
    {mantissa : Nat}
    {exponent : Int}
    (short : mantissa < 2 ^ 24)
    (low : -149 ≤ exponent) :
    shiftToTargetExponent .binary32 mantissa exponent .exact =
      (⟨mantissa, false, false⟩, exponent) := by
  have fewBits : mantissa.log2 ≤ 23 := by
    by_cases isZero : mantissa = 0
    · simp [isZero]
    · exact Nat.lt_succ_iff.mp ((Nat.log2_lt isZero).mpr short)
  have noShift : (max ((mantissa.log2 : Int) + exponent - 23) (-149) - exponent).toNat = 0 := by
    omega
  rw [shiftToTargetExponent, targetExponent_eq, shiftToExponent, noShift]
  exact Prod.ext rfl (Int.add_zero exponent)

/-- A mantissa that rounding has carried to 25 bits is shifted once. -/
theorem shiftToTargetExponent_of_carry
    {exponent : Int}
    (low : -149 ≤ exponent) :
    shiftToTargetExponent .binary32 (2 ^ 24) exponent .exact =
      (⟨2 ^ 23, false, false⟩, exponent + 1) := by
  have oneShift :
      (max ((24 : Nat) + exponent - 23) (-149) - exponent).toNat = 1 := by
    omega
  rw [shiftToTargetExponent, targetExponent_eq, Nat.log2_two_pow, shiftToExponent, oneShift]
  rfl

/-- The result of rounding, from the mantissa after the first shift. -/
theorem roundWithAccuracy_eq
    {sign : Sign}
    {mantissa : Nat}
    {exponent : Int}
    {accuracy : Accuracy}
    {shifted : ExtendedMantissa}
    {target : Int}
    (first : shiftToTargetExponent .binary32 mantissa exponent accuracy = (shifted, target))
    (short : shifted.roundedMantissa ≤ 2 ^ 24)
    (low : -149 ≤ target) :
    roundWithAccuracy .binary32 sign mantissa exponent accuracy =
      if isZero : shifted.roundedMantissa = 0 then .zero sign
      else if shifted.roundedMantissa < 2 ^ 24 then
        .finite sign shifted.roundedMantissa target (Nat.pos_of_ne_zero isZero)
      else .finite sign (2 ^ 23) (target + 1) (by decide) := by
  rw [roundWithAccuracy, first]
  dsimp only
  generalize shifted.roundedMantissa = rounded at *
  rcases short.lt_or_eq with isShort | carried
  · rw [shiftToTargetExponent_of_short isShort low]
    simp only [isShort, if_true]
  · subst carried
    rw [shiftToTargetExponent_of_carry low]
    rfl

/--
A mantissa with bits enough is shifted to the exponent at which it has 24 bits, or to the
least exponent.
-/
theorem exists_shift
    {mantissa : Nat}
    {exponent : Int}
    (enough : 23 ≤ mantissa.log2 ∨ exponent ≤ -149)
    (accuracy : Accuracy) :
    ∃ (count : Nat) (target : Int),
      shiftToTargetExponent .binary32 mantissa exponent accuracy =
          (ExtendedMantissa.ofMantissaAndAccuracy mantissa accuracy >>> count, target) ∧
        target = exponent + count ∧ -149 ≤ target ∧ mantissa.log2 ≤ 23 + count ∧
          (target = -149 ∨ mantissa.log2 = 23 + count) := by
  let target := max ((mantissa.log2 : Int) + exponent - 23) (-149)
  have reached : target = exponent + (target - exponent).toNat := by omega
  refine ⟨(target - exponent).toNat, target, ?_, reached, le_max_right _ _, by omega, by omega⟩
  unfold shiftToTargetExponent
  rw [targetExponent_eq, shiftToExponent]
  exact Prod.ext rfl reached.symm

/-- Shifting by the excess bits leaves no more than 24. -/
theorem div_lt_of_log2_le
    {mantissa count : Nat}
    {exact : Rat}
    (below : exact < mantissa + 1)
    (fewBits : mantissa.log2 ≤ 23 + count) :
    exact / 2 ^ count < 2 ^ 24 := by
  rw [div_lt_iff₀ (by positivity), ← pow_add]
  have bits : mantissa + 1 ≤ 2 ^ (24 + count) :=
    Nat.lt_log2_self.trans_le (Nat.pow_le_pow_right (by decide) (by omega))
  exact below.trans_le (by exact_mod_cast bits)

/-- Shifting by the excess bits leaves no fewer than 24. -/
theorem le_div_of_log2_eq
    {mantissa count : Nat}
    {exact : Rat}
    (atLeast : mantissa ≤ exact)
    (allBits : mantissa.log2 = 23 + count) :
    2 ^ 23 ≤ exact / 2 ^ count := by
  rw [le_div_iff₀ (by positivity), ← pow_add, ← allBits]
  have isPositive : mantissa ≠ 0 := by
    rintro rfl
    rw [Nat.log2_zero] at allBits
    omega
  have bits := Nat.log2_self_le isPositive
  exact le_trans (by exact_mod_cast bits) atLeast

/-- A rounded mantissa gives the number it stands for, also when it is carried to 25 bits. -/
theorem isRounding_of_rounded
    {sign : Sign}
    {mantissa : Nat}
    {target : Int}
    {exact : Rat}
    (nearest : IsNearest exact (signed sign (mantissa * 2 ^ target)))
    (short : mantissa ≤ 2 ^ 24)
    (full : 2 ^ 23 ≤ mantissa ∨ target = -149)
    (low : -149 ≤ target) :
    IsRounding exact
      (if isZero : mantissa = 0 then .zero sign
      else if mantissa < 2 ^ 24 then .finite sign mantissa target (Nat.pos_of_ne_zero isZero)
      else .finite sign (2 ^ 23) (target + 1) (by decide)) := by
  split
  · rename_i isZero
    refine ⟨trivial, ?_⟩
    have nothing : signed sign (mantissa * 2 ^ target) = 0 := by
      cases sign <;> simp [signed, isZero]
    rwa [nothing] at nearest
  · split
    · rename_i isShort
      exact ⟨⟨isShort, low, full⟩, nearest⟩
    · rename_i notShort
      have carried : mantissa = 2 ^ 24 := le_antisymm short (not_lt.mp notShort)
      refine ⟨⟨by decide, by omega, .inl le_rfl⟩, ?_⟩
      have same : (mantissa : Rat) * 2 ^ target = (2 ^ 23 : Nat) * 2 ^ (target + 1) := by
        rw [carried, zpow_add_one₀ (by norm_num)]
        push_cast
        ring
      rwa [same] at nearest

@[simp] theorem mantissa_ofMantissaAndAccuracy
    (mantissa : Nat)
    (accuracy : Accuracy) :
    (ExtendedMantissa.ofMantissaAndAccuracy mantissa accuracy).mantissa = mantissa := by
  cases accuracy with
  | exact => rfl
  | inexact order => cases order <;> rfl

/-- Rounding a mantissa that has all bits that count gives the nearest number. -/
theorem isRounding_roundWithAccuracy
    {mantissa : Nat}
    {exponent : Int}
    {accuracy : Accuracy}
    {exact : Rat}
    (represents : Represents (.ofMantissaAndAccuracy mantissa accuracy) exact)
    (enough : 23 ≤ mantissa.log2 ∨ exponent ≤ -149)
    (sign : Sign) :
    IsRounding (signed sign (exact * 2 ^ exponent))
      (roundWithAccuracy .binary32 sign mantissa exponent accuracy) := by
  obtain ⟨count, target, first, reached, low, fewBits, allBits⟩ := exists_shift enough accuracy
  obtain ⟨atLeast, below⟩ := represents.bounds
  rw [mantissa_ofMantissaAndAccuracy] at atLeast below
  have close := (represents.shiftRight count).close
  generalize ExtendedMantissa.ofMantissaAndAccuracy mantissa accuracy >>> count = shifted at *
  obtain ⟨closeBelow, closeAbove⟩ := abs_le.mp close
  have scaled_lt := div_lt_of_log2_le below fewBits
  have scaled_ge := allBits.imp_right (le_div_of_log2_eq atLeast)
  have nonneg : 0 ≤ exact / 2 ^ count :=
    div_nonneg ((Nat.cast_nonneg mantissa).trans atLeast) (by positivity)
  have short : shifted.roundedMantissa ≤ 2 ^ 24 := by
    have nearly : (shifted.roundedMantissa : Rat) < (2 ^ 24 + 1 : Nat) := by
      push_cast
      linarith
    exact Nat.lt_succ_iff.mp (by exact_mod_cast nearly)
  have full : 2 ^ 23 ≤ shifted.roundedMantissa ∨ target = -149 := by
    refine scaled_ge.symm.imp_left fun many => ?_
    have nearly : ((2 ^ 23 : Nat) : Rat) < (shifted.roundedMantissa + 1 : Nat) := by
      push_cast
      linarith
    exact Nat.lt_succ_iff.mp (by exact_mod_cast nearly)
  have nearest :
      IsNearest (exact * 2 ^ exponent)
        (((shifted.roundedMantissa : Int) : Rat) * 2 ^ target) := by
    have exact_eq : exact * 2 ^ exponent = exact / 2 ^ count * 2 ^ target := by
      rw [reached, zpow_add₀ (by norm_num), zpow_natCast]
      field_simp
    rw [exact_eq]
    refine isNearest_of_close low ?_ close (by rwa [abs_of_nonneg nonneg])
    rw [Nat.abs_cast]
    exact_mod_cast short
  replace nearest := nearest.signed sign
  rw [Int.cast_natCast] at nearest
  rw [roundWithAccuracy_eq first short low]
  exact isRounding_of_rounded nearest short full low

theorem log2_shiftLeft
    {mantissa : Nat}
    (positive : mantissa ≠ 0)
    (count : Nat) :
    (mantissa <<< count).log2 = mantissa.log2 + count := by
  rw [Nat.shiftLeft_eq, Nat.log2_eq_iff (by positivity)]
  constructor
  · rw [pow_add]
    exact Nat.mul_le_mul_right _ (Nat.log2_self_le positive)
  · rw [Nat.add_right_comm, pow_add _ _ count]
    exact Nat.mul_lt_mul_of_pos_right Nat.lt_log2_self (by positivity)

/-- A lower exponent is made up for by the mantissa. -/
theorem value_shiftLeft
    (mantissa count : Nat)
    (exponent : Int) :
    ((mantissa <<< count : Nat) : Rat) * 2 ^ (exponent - count) = mantissa * 2 ^ exponent := by
  rw [Nat.shiftLeft_eq, Nat.cast_mul, mul_assoc, Nat.cast_pow, Nat.cast_ofNat, ← zpow_natCast,
    ← zpow_add₀ (by norm_num), add_sub_cancel]

/-- Rounding a mantissa with an exponent leads to the nearest number. -/
theorem isRounding_round
    {mantissa : Nat}
    (positive : mantissa ≠ 0)
    (exponent : Int)
    (sign : Sign) :
    IsRounding (signed sign (mantissa * 2 ^ exponent))
      (Float.Model.UnpackedFloat.round .binary32 sign mantissa exponent) := by
  rw [Float.Model.UnpackedFloat.round, targetExponent_eq, decreaseExponent]
  generalize isCount : (exponent - max (mantissa.log2 + exponent - 23) (-149)).toNat = count
  have bits := log2_shiftLeft positive count
  rw [← value_shiftLeft mantissa count exponent]
  exact isRounding_roundWithAccuracy (Represents.of_exact _) (by omega) sign

/-- Normalizing a mantissa with an exponent rounds it once. -/
theorem isRounding_normalize
    (mantissa exponent : Int)
    (zeroSign : Sign) :
    IsRounding (mantissa * 2 ^ exponent)
      (UnpackedFloat.normalize .binary32 mantissa exponent zeroSign) := by
  rw [Float.Model.UnpackedFloat.normalize]
  rcases lt_trichotomy mantissa 0 with negative | rfl | positive
  · rw [Int.compare_eq_lt.mpr negative]
    have rounding :=
      isRounding_round (show (-mantissa).toNat ≠ 0 by omega) exponent .negative
    have magnitude : (((-mantissa).toNat : Nat) : Rat) = -mantissa := by
      exact_mod_cast Int.toNat_of_nonneg (show 0 ≤ -mantissa by omega)
    rwa [signed, magnitude, neg_mul, neg_neg] at rounding
  · rw [Int.cast_zero, zero_mul]
    exact isRounding_zero zeroSign
  · rw [Int.compare_eq_gt.mpr positive]
    have rounding := isRounding_round (show mantissa.toNat ≠ 0 by omega) exponent .positive
    have magnitude : ((mantissa.toNat : Nat) : Rat) = mantissa := by
      exact_mod_cast Int.toNat_of_nonneg positive.le
    rwa [signed, magnitude] at rounding

theorem cast_apply
    (sign : Sign)
    (mantissa : Nat) :
    ((sign.apply mantissa : Int) : Rat) = signed sign mantissa := by
  cases sign
  · exact Int.cast_neg _
  · rfl

theorem signed_mul
    (sign : Sign)
    (magnitude factor : Rat) :
    signed sign (magnitude * factor) = signed sign magnitude * factor := by
  cases sign
  · exact (neg_mul _ _).symm
  · rfl

/-- A sum is the rounding of the exact sum. -/
theorem isRounding_add
    {first second : UnpackedFloat}
    (firstCanonical : IsCanonical first)
    (secondCanonical : IsCanonical second) :
    IsRounding (unpackedValue first + unpackedValue second) (add .binary32 first second) := by
  cases first with
  | infinity sign => exact firstCanonical.elim
  | notANumber => exact firstCanonical.elim
  | zero sign =>
      cases second with
      | infinity other => exact secondCanonical.elim
      | notANumber => exact secondCanonical.elim
      | zero other =>
          rw [show unpackedValue (.zero sign) + unpackedValue (.zero other) = 0 from add_zero 0]
          cases sign <;> cases other <;> exact isRounding_zero _
      | finite other mantissa exponent positive =>
          rw [show unpackedValue (.zero sign) = 0 from rfl, zero_add]
          exact secondCanonical.isRounding
  | finite sign mantissa exponent positive =>
      cases second with
      | infinity other => exact secondCanonical.elim
      | notANumber => exact secondCanonical.elim
      | zero other =>
          rw [show unpackedValue (.zero other) = 0 from rfl, add_zero]
          exact firstCanonical.isRounding
      | finite other digits scale digitsPositive =>
          let least := min exponent scale
          have firstScaled :
              unpackedValue (.finite sign mantissa exponent positive) =
                (sign.apply ((mantissa <<< (exponent - least).toNat : Nat) : Int) : Int) *
                  2 ^ least := by
            rw [cast_apply, ← signed_mul, unpackedValue, ← value_shiftLeft mantissa,
              show exponent - ((exponent - least).toNat : Int) = least by omega]
          have secondScaled :
              unpackedValue (.finite other digits scale digitsPositive) =
                (other.apply ((digits <<< (scale - least).toNat : Nat) : Int) : Int) *
                  2 ^ least := by
            rw [cast_apply, ← signed_mul, unpackedValue, ← value_shiftLeft digits,
              show scale - ((scale - least).toNat : Int) = least by omega]
          rw [firstScaled, secondScaled, ← add_mul, ← Int.cast_add]
          exact isRounding_normalize _ _ _

/-- Negation changes the sign of the value. -/
theorem unpackedValue_neg
    (number : UnpackedFloat) :
    unpackedValue number.neg = -unpackedValue number := by
  cases number with
  | finite sign mantissa exponent positive =>
      cases sign
      · exact (neg_neg _).symm
      · rfl
  | _ => exact neg_zero.symm

theorem IsCanonical.neg
    {number : UnpackedFloat}
    (canonical : IsCanonical number) :
    IsCanonical number.neg := by
  cases number with
  | infinity sign => exact canonical.elim
  | notANumber => exact canonical.elim
  | zero sign => trivial
  | finite sign mantissa exponent positive => exact canonical

theorem apply_neg
    (sign : Sign)
    (mantissa : Int) :
    (-sign).apply mantissa = -sign.apply mantissa := by
  cases sign
  · exact (Int.neg_neg mantissa).symm
  · rfl

/-- A difference is a sum with the negative. -/
theorem sub_eq_add
    (format : Format)
    (first second : UnpackedFloat) :
    sub format first second = add format first second.neg := by
  cases first with
  | finite sign mantissa exponent positive =>
      cases second with
      | finite other digits scale digitsPositive =>
          simp only [sub, add, neg, apply_neg, Int.sub_eq_add_neg]
      | _ => rfl
  | _ => cases second <;> rfl

/-- A difference is the rounding of the exact difference. -/
theorem isRounding_sub
    {first second : UnpackedFloat}
    (firstCanonical : IsCanonical first)
    (secondCanonical : IsCanonical second) :
    IsRounding (unpackedValue first - unpackedValue second) (sub .binary32 first second) := by
  rw [sub_eq_add, sub_eq_add_neg, ← unpackedValue_neg]
  exact isRounding_add firstCanonical secondCanonical.neg

theorem signed_mul_signed
    (first second : Sign)
    (magnitude factor : Rat) :
    signed first magnitude * signed second factor =
      signed (first * second) (magnitude * factor) := by
  cases first <;> cases second
  · exact neg_mul_neg magnitude factor
  · exact neg_mul magnitude factor
  · exact mul_neg magnitude factor
  · rfl

/-- A product is the rounding of the exact product. -/
theorem isRounding_mul
    {first second : UnpackedFloat}
    (firstCanonical : IsCanonical first)
    (secondCanonical : IsCanonical second) :
    IsRounding (unpackedValue first * unpackedValue second) (mul .binary32 first second) := by
  cases first with
  | infinity sign => exact firstCanonical.elim
  | notANumber => exact firstCanonical.elim
  | zero sign =>
      rw [show unpackedValue (.zero sign) = 0 from rfl, zero_mul]
      cases second with
      | infinity other => exact secondCanonical.elim
      | notANumber => exact secondCanonical.elim
      | _ => exact isRounding_zero _
  | finite sign mantissa exponent positive =>
      cases second with
      | infinity other => exact secondCanonical.elim
      | notANumber => exact secondCanonical.elim
      | zero other =>
          rw [show unpackedValue (.zero other) = 0 from rfl, mul_zero]
          exact isRounding_zero _
      | finite other digits scale digitsPositive =>
          have product :
              unpackedValue (.finite sign mantissa exponent positive) *
                  unpackedValue (.finite other digits scale digitsPositive) =
                signed (sign * other) ((mantissa * digits : Nat) * 2 ^ (exponent + scale)) := by
            rw [unpackedValue, unpackedValue, signed_mul_signed, zpow_add₀ (by norm_num),
              Nat.cast_mul]
            congr 1
            ring
          rw [product]
          refine isRounding_roundWithAccuracy (Represents.of_exact _) ?_ _
          have notZero : mantissa * digits ≠ 0 := (Nat.mul_pos positive digitsPositive).ne'
          rw [Nat.le_log2 notZero]
          rcases firstCanonical.full with full | least
          · exact .inl (full.trans (Nat.le_mul_of_pos_right _ digitsPositive))
          · rcases secondCanonical.full with full | leastScale
            · exact .inl (full.trans (Nat.le_mul_of_pos_left _ positive))
            · exact .inr (by omega)

theorem signed_div_signed
    (first second : Sign)
    (magnitude divisor : Rat) :
    signed first magnitude / signed second divisor =
      signed (first / second) (magnitude / divisor) := by
  cases first <;> cases second
  · exact neg_div_neg_eq magnitude divisor
  · exact neg_div divisor magnitude
  · exact div_neg magnitude
  · rfl

/-- A quotient is computed to all bits that count. -/
theorem exists_divCore
    {mantissa digits : Nat}
    (positive : 0 < mantissa)
    (digitsPositive : 0 < digits)
    (exponent scale : Int) :
    ∃ (count : Nat) (target : Int),
      divCore .binary32 mantissa exponent digits scale =
          ((mantissa <<< count) / digits, target,
            accuracyOfFraction ((mantissa <<< count) % digits) digits) ∧
        target = exponent - scale - count ∧
          (23 ≤ ((mantissa <<< count) / digits).log2 ∨ target ≤ -149) := by
  have format :
      Format.binary32.targetExponent
          (totalExponent mantissa exponent - totalExponent digits scale) =
        max (mantissa.log2 + exponent - (digits.log2 + scale) - 24) (-149) := by
    simp only [Format.targetExponent, totalExponent, Format.mantissaBits, Format.minExponent]
    norm_num
    omega
  let target := min (exponent - scale)
    (max (mantissa.log2 + exponent - (digits.log2 + scale) - 24) (-149))
  refine ⟨(exponent - scale - target).toNat, target, ?_, by omega, ?_⟩
  · unfold divCore
    rw [format]
  · have bits := log2_shiftLeft positive.ne' (exponent - scale - target).toNat
    have numerator : 0 < mantissa <<< (exponent - scale - target).toNat :=
      Nat.shiftLeft_pos_iff.mpr positive
    by_cases least : target ≤ -149
    · exact .inr least
    · left
      have many : 24 + digits.log2 ≤ (mantissa <<< (exponent - scale - target).toNat).log2 := by
        omega
      generalize mantissa <<< (exponent - scale - target).toNat = shifted at *
      have quotient : 2 ^ 23 ≤ shifted / digits := by
        rw [Nat.le_div_iff_mul_le digitsPositive]
        calc
          2 ^ 23 * digits
            ≤ 2 ^ 23 * 2 ^ (digits.log2 + 1) := Nat.mul_le_mul_left _ Nat.lt_log2_self.le
          _ = 2 ^ (24 + digits.log2) := by rw [← pow_add]; congr 1; omega
          _ ≤ 2 ^ shifted.log2 := Nat.pow_le_pow_right (by decide) many
          _ ≤ shifted := Nat.log2_self_le numerator.ne'
      exact (Nat.le_log2 (by omega)).mpr quotient

/-- A quotient is the rounding of the exact quotient. -/
theorem isRounding_div
    {first second : UnpackedFloat}
    (firstCanonical : IsCanonical first)
    (secondCanonical : IsCanonical second)
    (notZero : unpackedValue second ≠ 0) :
    IsRounding (unpackedValue first / unpackedValue second) (div .binary32 first second) := by
  cases second with
  | infinity other => exact secondCanonical.elim
  | notANumber => exact secondCanonical.elim
  | zero other => exact (notZero rfl).elim
  | finite other digits scale digitsPositive =>
      cases first with
      | infinity sign => exact firstCanonical.elim
      | notANumber => exact firstCanonical.elim
      | zero sign =>
          rw [show unpackedValue (.zero sign) = 0 from rfl, zero_div]
          exact isRounding_zero _
      | finite sign mantissa exponent positive =>
          obtain ⟨count, target, isCore, target_eq, enough⟩ :=
            exists_divCore positive digitsPositive exponent scale
          have quotient :
              unpackedValue (.finite sign mantissa exponent positive) /
                  unpackedValue (.finite other digits scale digitsPositive) =
                signed (sign / other)
                  ((mantissa <<< count : Nat) / (digits : Rat) * 2 ^ target) := by
            have digitsNonzero : (digits : Rat) ≠ 0 := by exact_mod_cast digitsPositive.ne'
            rw [unpackedValue, unpackedValue, signed_div_signed, ← value_shiftLeft mantissa count,
              target_eq]
            congr 1
            have scaleNonzero : (2 : Rat) ^ scale ≠ 0 := zpow_ne_zero _ (by norm_num)
            rw [show exponent - count = exponent - scale - count + scale by ring,
              zpow_add₀ (by norm_num)]
            field_simp
          rw [quotient]
          simp only [div, isCore]
          exact isRounding_roundWithAccuracy (Represents.of_fraction digitsPositive) enough _

end Single

end BoxDiagram
