import BoxDiagram.Proofs.Number.Single

namespace BoxDiagram

/-!
# Comparing numbers of single precision

Finite numbers are compared by their values, infinity is above all of them, and what is
no number compares with none.  So the larger of two finite numbers is the one of larger
value, and the whole number below a number is not above it.
-/

namespace Single

open Float.Model (Format UnpackedFloat)
open Float.Model.UnpackedFloat (Sign)

section Comparison

/-- Of two numbers that fit, the one with the larger exponent is larger. -/
theorem Fits.lt_of_exponent_lt
    {mantissa digits : Nat}
    {exponent scale : Int}
    (fits : Fits mantissa exponent)
    (digitsFit : Fits digits scale)
    (below : exponent < scale) :
    (mantissa * 2 ^ exponent : Rat) < digits * 2 ^ scale := by
  have low := fits.low
  have full : 2 ^ 23 ≤ digits := digitsFit.full.resolve_right (by omega)
  calc
    (mantissa * 2 ^ exponent : Rat)
      < (2 ^ 24 : Nat) * 2 ^ exponent :=
        mul_lt_mul_of_pos_right (by exact_mod_cast fits.short) (zpow_pos (by norm_num) _)
    _ = (2 ^ 23 : Nat) * 2 ^ (exponent + 1) := by
        rw [zpow_add_one₀ (by norm_num)]
        push_cast
        ring
    _ ≤ digits * 2 ^ scale :=
        mul_le_mul (by exact_mod_cast full) (zpow_le_zpow_right₀ (by norm_num) (by omega))
          (zpow_nonneg (by norm_num) _) (Nat.cast_nonneg digits)

/-- Numbers that are packed alike compare by their exponents first. -/
theorem Fits.compare_eq
    {mantissa digits : Nat}
    {exponent scale : Int}
    (fits : Fits mantissa exponent)
    (digitsFit : Fits digits scale) :
    (compare exponent scale).then (compare mantissa digits) =
      compare (mantissa * 2 ^ exponent : Rat) (digits * 2 ^ scale) := by
  rcases lt_trichotomy exponent scale with below | rfl | above
  · rw [compare_lt_iff_lt.mpr below,
      compare_lt_iff_lt.mpr (fits.lt_of_exponent_lt digitsFit below)]
    rfl
  · have scale_pos : (0 : Rat) < 2 ^ exponent := zpow_pos (by norm_num) _
    rw [compare_eq_iff_eq.mpr rfl, Ordering.eq_then]
    rcases lt_trichotomy mantissa digits with less | rfl | more
    · rw [compare_lt_iff_lt.mpr less, compare_lt_iff_lt.mpr
        (mul_lt_mul_of_pos_right (by exact_mod_cast less) scale_pos)]
    · rw [compare_eq_iff_eq.mpr rfl, compare_eq_iff_eq.mpr rfl]
    · rw [compare_gt_iff_gt.mpr more, compare_gt_iff_gt.mpr
        (mul_lt_mul_of_pos_right (by exact_mod_cast more) scale_pos)]
  · rw [compare_gt_iff_gt.mpr above,
      compare_gt_iff_gt.mpr (digitsFit.lt_of_exponent_lt fits above)]
    rfl

/-- Negation reverses the order. -/
theorem compare_neg
    (first second : Rat) :
    (compare first second).swap = compare (-first) (-second) := by
  rcases lt_trichotomy first second with below | rfl | above
  · rw [compare_lt_iff_lt.mpr below, compare_gt_iff_gt.mpr (neg_lt_neg below)]
    rfl
  · rw [compare_eq_iff_eq.mpr rfl, compare_eq_iff_eq.mpr rfl]
    rfl
  · rw [compare_gt_iff_gt.mpr above, compare_lt_iff_lt.mpr (neg_lt_neg above)]
    rfl

/-- Finite numbers are compared by their values. -/
theorem compare_eq
    {first second : UnpackedFloat}
    (firstCanonical : IsCanonical first)
    (secondCanonical : IsCanonical second) :
    first.compare second = some (compare (unpackedValue first) (unpackedValue second)) := by
  have product_pos :
      ∀ {mantissa : Nat} (exponent : Int), 0 < mantissa → (0 : Rat) < mantissa * 2 ^ exponent :=
    fun exponent positive => mul_pos (by exact_mod_cast positive) (zpow_pos (by norm_num) _)
  cases first with
  | infinity sign => exact firstCanonical.elim
  | notANumber => exact firstCanonical.elim
  | zero sign =>
      cases second with
      | infinity other => exact secondCanonical.elim
      | notANumber => exact secondCanonical.elim
      | zero other => exact congrArg some (compare_eq_iff_eq.mpr rfl).symm
      | finite other digits scale digitsPositive =>
          have positive := product_pos scale digitsPositive
          cases other
          · exact congrArg some (compare_gt_iff_gt.mpr (neg_lt_zero.mpr positive)).symm
          · exact congrArg some (compare_lt_iff_lt.mpr positive).symm
  | finite sign mantissa exponent mantissaPositive =>
      have positive := product_pos exponent mantissaPositive
      cases second with
      | infinity other => exact secondCanonical.elim
      | notANumber => exact secondCanonical.elim
      | zero other =>
          cases sign
          · exact congrArg some (compare_lt_iff_lt.mpr (neg_lt_zero.mpr positive)).symm
          · exact congrArg some (compare_gt_iff_gt.mpr positive).symm
      | finite other digits scale digitsPositive =>
          have otherPositive := product_pos scale digitsPositive
          cases sign <;> cases other
          · exact congrArg some
              ((congrArg Ordering.swap (firstCanonical.compare_eq secondCanonical)).trans
                (compare_neg _ _))
          · exact congrArg some (compare_lt_iff_lt.mpr
              ((neg_lt_zero.mpr positive).trans otherPositive)).symm
          · exact congrArg some (compare_gt_iff_gt.mpr
              ((neg_lt_zero.mpr otherPositive).trans positive)).symm
          · exact congrArg some (firstCanonical.compare_eq secondCanonical)

variable {first second : Float32}

/-- Finite numbers are compared as exact ones. -/
theorem less_iff
    (firstFinite : Scalar.isFinite first = true)
    (secondFinite : Scalar.isFinite second = true) :
    Scalar.less first second = true ↔ value first < value second := by
  have compared := compare_eq (isCanonical_of_isFinite firstFinite)
    (isCanonical_of_isFinite secondFinite)
  change decide (first < second) = true ↔ _
  rw [decide_eq_true_iff]
  change decide (((unpacked first).compare (unpacked second) == some .lt) = true) = true ↔ _
  rw [decide_eq_true_iff]
  rw [compared, beq_iff_eq, Option.some_inj]
  exact compare_lt_iff_lt

/-- Nothing is less than itself, whether it is a number or not. -/
theorem not_less_self
    (number : Float32) :
    Scalar.less number number = false := by
  change decide (decide (((unpacked number).compare (unpacked number) == some .lt) = true) = true)
    = false
  generalize unpacked number = form
  cases form with
  | infinity sign => cases sign <;> rfl
  | notANumber => rfl
  | zero sign => cases sign <;> rfl
  | finite sign mantissa exponent positive =>
      cases sign <;> simp [UnpackedFloat.compare, Ordering.then]

/-- Finite numbers are equal if their values are. -/
theorem equal_iff
    (firstFinite : Scalar.isFinite first = true)
    (secondFinite : Scalar.isFinite second = true) :
    Scalar.equal first second = true ↔ value first = value second := by
  have compared := compare_eq (isCanonical_of_isFinite firstFinite)
    (isCanonical_of_isFinite secondFinite)
  change ((unpacked first).compare (unpacked second) == some .eq) = true ↔ _
  rw [compared, beq_iff_eq, Option.some_inj]
  exact compare_eq_iff_eq

/-- The larger of two numbers is one of them. -/
theorem larger_eq_or_eq
    (first second : Float32) :
    Scalar.larger first second = first ∨ Scalar.larger first second = second := by
  rw [Scalar.larger]
  split
  · exact .inl rfl
  · split
    · exact .inr rfl
    · exact .inl rfl

/-- The larger of finite numbers is finite, and has the larger value. -/
theorem value_larger
    (firstFinite : Scalar.isFinite first = true)
    (secondFinite : Scalar.isFinite second = true) :
    value (Scalar.larger first second) = max (value first) (value second) := by
  rw [Scalar.larger]
  split
  · rename_i isLess
    exact (max_eq_left ((less_iff secondFinite firstFinite).mp isLess).le).symm
  · rename_i notLess
    rw [if_pos ((equal_iff secondFinite secondFinite).mpr rfl)]
    exact (max_eq_right
      (not_lt.mp (mt (less_iff secondFinite firstFinite).mpr notLess))).symm

end Comparison

section Infinity

variable {first second : Float32}

theorem equal_infinity
    (infinite : unpacked first = .infinity .positive) :
    Scalar.equal first first = true := by
  change ((unpacked first).compare (unpacked first) == some .eq) = true
  rw [infinite]
  rfl

/-- Infinity is above every finite number. -/
theorem less_infinity
    (isFinite : Scalar.isFinite first = true)
    (infinite : unpacked second = .infinity .positive) :
    Scalar.less first second = true ∧ Scalar.less second first = false := by
  change decide (decide (((unpacked first).compare (unpacked second) == some .lt) = true) = true)
      = true ∧
    decide (decide (((unpacked second).compare (unpacked first) == some .lt) = true) = true) = false
  have canonical := isCanonical_of_isFinite isFinite
  rw [infinite]
  generalize unpacked first = number at *
  cases number with
  | infinity sign => exact canonical.elim
  | notANumber => exact canonical.elim
  | zero sign => exact ⟨rfl, rfl⟩
  | finite sign mantissa exponent positive => cases sign <;> exact ⟨rfl, rfl⟩

namespace IsExtent

/-- The larger of two extents is an extent. -/
theorem larger
    (firstExtent : IsExtent first)
    (secondExtent : IsExtent second) :
    IsExtent (Scalar.larger first second) := by
  rcases larger_eq_or_eq first second with same | same
  · exact same.symm ▸ firstExtent
  · exact same.symm ▸ secondExtent

/-- Extents of which the larger is finite are finite. -/
theorem isFinite_of_larger
    (firstExtent : IsExtent first)
    (secondExtent : IsExtent second)
    (isFinite : Scalar.isFinite (Scalar.larger first second) = true) :
    Scalar.isFinite first = true ∧ Scalar.isFinite second = true := by
  rw [Scalar.larger] at isFinite
  cases firstExtent with
  | finite firstFinite _ =>
      cases secondExtent with
      | finite secondFinite _ => exact ⟨firstFinite, secondFinite⟩
      | infinite infinite =>
          rw [(less_infinity firstFinite infinite).2, if_neg Bool.false_ne_true,
            if_pos (equal_infinity infinite)] at isFinite
          exact absurd isFinite (not_isFinite_of_infinite infinite)
  | infinite infinite =>
      cases secondExtent with
      | finite secondFinite _ =>
          rw [(less_infinity secondFinite infinite).1, if_pos rfl] at isFinite
          exact absurd isFinite (not_isFinite_of_infinite infinite)
      | infinite secondInfinite =>
          split at isFinite
          · exact absurd isFinite (not_isFinite_of_infinite infinite)
          · split at isFinite
            · exact absurd isFinite (not_isFinite_of_infinite secondInfinite)
            · exact absurd isFinite (not_isFinite_of_infinite infinite)

/-- An extent below a finite number is finite. -/
theorem isFinite_of_less
    (extent : IsExtent first)
    (secondFinite : Scalar.isFinite second = true)
    (isLess : Scalar.less first second = true) :
    Scalar.isFinite first = true := by
  cases extent with
  | finite isFinite _ => exact isFinite
  | infinite infinite =>
      rw [(less_infinity secondFinite infinite).2] at isLess
      cases isLess

end IsExtent

/-- The number is above all finite ones, or is none. -/
def IsBeyond (number : Float32) : Prop :=
  unpacked number = .infinity .positive ∨ unpacked number = .notANumber

/-- What is beyond all finite numbers is not finite. -/
theorem IsBeyond.not_isFinite
    {number : Float32}
    (beyond : IsBeyond number) :
    ¬ Scalar.isFinite number = true := by
  rw [isFinite_eq]
  rcases beyond with infinite | undefined
  · rw [infinite]
    exact Bool.false_ne_true
  · rw [undefined]
    exact Bool.false_ne_true

/-- What is beyond all finite numbers is not at most one of them. -/
theorem IsBeyond.not_atMost
    {number bound : Float32}
    (beyond : IsBeyond number)
    (isFinite : Scalar.isFinite bound = true) :
    ¬ Scalar.atMost number bound = true := by
  change ¬ ((decide
        (decide (((unpacked number).compare (unpacked bound) == some .lt) = true) = true) ||
      ((unpacked number).compare (unpacked bound) == some .eq)) = true)
  have canonical := isCanonical_of_isFinite isFinite
  generalize unpacked bound = other at *
  rcases beyond with infinite | undefined
  · rw [infinite]
    cases other with
    | infinity sign => exact canonical.elim
    | notANumber => exact canonical.elim
    | zero sign => exact Bool.false_ne_true
    | finite sign mantissa exponent positive => cases sign <;> exact Bool.false_ne_true
  · rw [undefined]
    cases other with
    | infinity sign => exact canonical.elim
    | notANumber => exact canonical.elim
    | zero sign => exact Bool.false_ne_true
    | finite sign mantissa exponent positive => cases sign <;> exact Bool.false_ne_true

/-- Infinity times a number that is not negative is infinity, or undefined. -/
theorem IsBeyond.mul
    {first second : Float32}
    (infinite : unpacked first = .infinity .positive)
    (isFinite : Scalar.isFinite second = true)
    (nonneg : 0 ≤ value second) :
    IsBeyond (first * second) := by
  have isPacked :
      unpacked (first * second) =
        UnpackedFloat.unpack .binary32
          (UnpackedFloat.pack .binary32
            (UnpackedFloat.mul .binary32 (unpacked first) (unpacked second))) :=
    rfl
  have canonical := isCanonical_of_isFinite isFinite
  rw [value] at nonneg
  rw [IsBeyond, isPacked, infinite]
  generalize unpacked second = other at *
  cases other with
  | infinity sign => exact canonical.elim
  | notANumber => exact canonical.elim
  | zero sign => exact .inr unpack_pack_notANumber
  | finite sign mantissa exponent positive =>
      cases sign with
      | positive => exact .inl (unpack_pack_infinity _)
      | negative =>
          have negative : unpackedValue (.finite .negative mantissa exponent positive) < 0 :=
            neg_neg_of_pos (mul_pos (Nat.cast_pos.mpr positive) (by positivity))
          exact absurd nonneg (not_le.mpr negative)

end Infinity

section Floor

variable {number : Float32}

/-- The last 23 bits are the mantissa. -/
theorem toNat_unpackMantissa
    (bits : BitVec Format.binary32.numBits) :
    (UnpackedFloat.unpackMantissa bits).toNat = bits.toNat % 2 ^ 23 := by
  rw [UnpackedFloat.unpackMantissa, BitVec.toNat_cast, BitVec.extractLsb_toNat]
  rfl

/-- The 8 bits before the mantissa are the exponent. -/
theorem toNat_unpackExponent
    (bits : BitVec Format.binary32.numBits) :
    (UnpackedFloat.unpackExponent bits).toNat = bits.toNat / 2 ^ 23 % 2 ^ 8 := by
  rw [UnpackedFloat.unpackExponent, BitVec.toNat_cast, BitVec.extractLsb_toNat,
    Nat.shiftRight_eq_div_pow]
  rfl

/-- The first bit is the sign. -/
theorem ofBitVec_unpackSign
    (bits : BitVec Format.binary32.numBits) :
    Sign.ofBitVec (UnpackedFloat.unpackSign bits) =
      if 2 ^ 31 ≤ bits.toNat then .negative else .positive := by
  have last : (UnpackedFloat.unpackSign bits).toNat = bits.toNat / 2 ^ 31 % 2 ^ 1 := by
    rw [UnpackedFloat.unpackSign, BitVec.toNat_cast, BitVec.extractLsb_toNat,
      Nat.shiftRight_eq_div_pow]
    rfl
  have isShort : bits.toNat < 2 ^ 32 := bits.isLt
  rw [Sign.ofBitVec]
  by_cases negative : 2 ^ 31 ≤ bits.toNat
  · rw [if_pos negative, if_neg]
    intro isZero
    rw [isZero] at last
    change 0 = _ at last
    omega
  · rw [if_neg negative, if_pos]
    apply BitVec.eq_of_toNat_eq
    rw [last]
    change _ = 0
    omega

/-- What the bits of a finite number stand for. -/
theorem unpackedValue_unpack
    {bits : BitVec Format.binary32.numBits}
    (isFinite : (UnpackedFloat.unpack .binary32 bits).isFinite = true) :
    bits.toNat / 2 ^ 23 % 2 ^ 8 ≠ 255 ∧
      unpackedValue (UnpackedFloat.unpack .binary32 bits) =
        signed (if 2 ^ 31 ≤ bits.toNat then .negative else .positive)
          (if bits.toNat / 2 ^ 23 % 2 ^ 8 = 0 then (bits.toNat % 2 ^ 23 : Nat) * 2 ^ (-149 : Int)
          else (2 ^ 23 + bits.toNat % 2 ^ 23 : Nat) *
            2 ^ (((bits.toNat / 2 ^ 23 % 2 ^ 8 : Nat) : Int) - 150)) := by
  have mantissaBits := toNat_unpackMantissa bits
  have exponentBits := toNat_unpackExponent bits
  rw [← mantissaBits, ← exponentBits, ← ofBitVec_unpackSign]
  rw [UnpackedFloat.unpack] at isFinite ⊢
  dsimp only at isFinite ⊢
  by_cases ones : UnpackedFloat.unpackExponent bits = -1#8
  · rw [if_pos ones] at isFinite
    split at isFinite <;> exact absurd isFinite Bool.false_ne_true
  · refine ⟨fun same => ones (BitVec.eq_of_toNat_eq same), ?_⟩
    rw [if_neg ones]
    by_cases isZero : UnpackedFloat.unpackExponent bits = 0#8
    · have noBits : (UnpackedFloat.unpackExponent bits).toNat = 0 := congrArg BitVec.toNat isZero
      rw [if_pos isZero, if_pos noBits]
      split
      · rename_i noFraction
        rw [noFraction, show (0#23).toNat = 0 from rfl, Nat.cast_zero, zero_mul]
        cases Sign.ofBitVec (UnpackedFloat.unpackSign bits)
        · exact neg_zero.symm
        · rfl
      · rw [noBits]
        rfl
    · have notZero : (UnpackedFloat.unpackExponent bits).toNat ≠ 0 :=
        fun same => isZero (BitVec.eq_of_toNat_eq same)
      rw [if_neg isZero, if_neg notZero, ← toNat_one_append]
      rfl

/-- The parts of a finite number make up its value. -/
theorem exists_parts
    (isFinite : Scalar.isFinite number = true) :
    ∃ negative mantissa exponent,
      parts number = .finite negative mantissa exponent ∧ mantissa < 2 ^ 24 ∧
        value number =
          signed (if negative then .negative else .positive) (mantissa * 2 ^ exponent) := by
  rw [isFinite_eq] at isFinite
  obtain ⟨notOnes, value_eq⟩ := unpackedValue_unpack isFinite
  rw [show number.toModel.toBits.toBitVec.toNat = number.toBits.toNat from rfl]
    at notOnes value_eq
  have fraction_lt : number.toBits.toNat % 2 ^ 23 < 2 ^ 23 := Nat.mod_lt _ (by decide)
  rw [parts]
  dsimp only [Nat.pow_eq]
  rw [if_neg notOnes]
  split
  · rename_i isZero
    refine ⟨_, _, _, rfl, by omega, value_eq.trans ?_⟩
    rw [if_pos isZero]
    simp only [decide_eq_true_eq]
  · rename_i notZero
    refine ⟨_, _, _, rfl, by omega, value_eq.trans ?_⟩
    rw [if_neg notZero]
    simp only [decide_eq_true_eq]

/-- The whole number below a number that is not negative is not larger. -/
theorem floor_bounds
    (isFinite : Scalar.isFinite number = true)
    (nonneg : 0 ≤ value number) :
    Scalar.isFinite (Scalar.floor number) = true ∧ 0 ≤ value (Scalar.floor number) ∧
      value (Scalar.floor number) ≤ value number := by
  obtain ⟨negative, mantissa, exponent, isParts, short, value_eq⟩ := exists_parts isFinite
  change Scalar.isFinite (floor number) = true ∧ 0 ≤ value (floor number) ∧
      value (floor number) ≤ value number
  rw [floor, isParts]
  dsimp only
  split
  · exact ⟨isFinite, nonneg, le_rfl⟩
  · rename_i hasFraction
    obtain ⟨negativeExponent, notZero⟩ := not_or.mp hasFraction
    have positive : (0 : Rat) < mantissa * 2 ^ exponent :=
      mul_pos (by exact_mod_cast Nat.pos_of_ne_zero notZero) (zpow_pos (by norm_num) _)
    cases negative with
    | true =>
        rw [value_eq] at nonneg
        exact absurd nonneg (not_le.mpr (neg_lt_zero.mpr positive))
    | false =>
        have below : ((mantissa / Nat.pow 2 (-exponent).toNat : Nat) : Rat) ≤ value number := by
          have exponent_eq : exponent = -((-exponent).toNat : Int) := by omega
          calc
            ((mantissa / Nat.pow 2 (-exponent).toNat : Nat) : Rat)
              ≤ mantissa / (2 ^ (-exponent).toNat : Nat) := Nat.cast_div_le
            _ = mantissa * 2 ^ exponent := by
                conv_rhs => rw [exponent_eq, zpow_neg, zpow_natCast]
                rw [div_eq_mul_inv, Nat.cast_pow, Nat.cast_ofNat]
            _ = value number := value_eq.symm
        have rounds := rounds_ofNat (mantissa / Nat.pow 2 (-exponent).toNat)
        have small : |((mantissa / Nat.pow 2 (-exponent).toNat : Nat) : Rat)| ≤
            2 ^ 128 - 2 ^ 104 := by
          rw [Nat.abs_cast]
          exact (Nat.cast_le.mpr ((Nat.div_le_self _ _).trans short.le)).trans (by norm_num)
        have floorFinite := rounds.isFinite small
        have nearest := rounds.nearest floorFinite
        exact ⟨floorFinite, nearest.ge isRepresentable_zero (Nat.cast_nonneg _),
          nearest.le (isRepresentable_value isFinite) below⟩

end Floor

end Single

end BoxDiagram
