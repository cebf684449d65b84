import BoxDiagram.Proofs.Number.Unpacked

namespace BoxDiagram

/-!
# Bits of numbers

The bits of a number hold its sign, its exponent and the digits of its mantissa.  A number
with an exponent that is too large is held as infinity, and any other one without loss.
-/

namespace Single

open Float.Model (Format UnpackedFloat)
open Float.Model.UnpackedFloat (Sign packComponents unpackSign unpackExponent unpackMantissa)

@[simp] theorem unpackSign_packComponents
    {format : Format}
    (sign : Sign)
    (exponent : BitVec format.exponentBits)
    (mantissa : BitVec format.mantissaBitsWithoutImplicit) :
    unpackSign (packComponents format sign exponent mantissa) = sign.toBitVec := by
  ext index isOne
  obtain rfl : index = 0 := by omega
  simp [unpackSign, packComponents, BitVec.getLsbD_append, BitVec.getElem_append]

@[simp] theorem ofBitVec_toBitVec
    (sign : Sign) :
    Sign.ofBitVec sign.toBitVec = sign := by
  cases sign <;> rfl

@[simp] theorem unpack_pack_zero
    (sign : Sign) :
    UnpackedFloat.unpack .binary32 (UnpackedFloat.pack .binary32 (.zero sign)) = .zero sign := by
  cases sign <;> rfl

@[simp] theorem unpack_pack_infinity
    (sign : Sign) :
    UnpackedFloat.unpack .binary32 (UnpackedFloat.pack .binary32 (.infinity sign)) =
      .infinity sign := by
  cases sign <;> rfl

@[simp] theorem unpack_pack_notANumber :
    UnpackedFloat.unpack .binary32 (UnpackedFloat.pack .binary32 .notANumber) = .notANumber :=
  rfl

/-- A number whose exponent is too large is packed as infinity. -/
theorem unpack_pack_of_large
    {sign : Sign}
    {mantissa : Nat}
    {exponent : Int}
    (positive : 0 < mantissa)
    (large : 105 ≤ exponent) :
    UnpackedFloat.unpack .binary32
        (UnpackedFloat.pack .binary32 (.finite sign mantissa exponent positive)) =
      .infinity sign := by
  have overflow : 2 ^ 8 ≤ (exponent + (127 : Nat) + (23 : Nat)).toNat + 1 := by omega
  rw [UnpackedFloat.pack]
  exact (congrArg _ (if_pos overflow)).trans (unpack_pack_infinity sign)

theorem toNat_one_append
    (fraction : BitVec 23) :
    (1#1 ++ fraction).toNat = 2 ^ 23 + fraction.toNat := by
  rw [BitVec.toNat_append, ← Nat.shiftLeft_add_eq_or_of_lt fraction.isLt]
  rfl

section Fits

variable {sign : Sign} {mantissa : Nat} {exponent : Int}

/-- The bits of a number whose exponent is small enough. -/
theorem pack_eq_of_small
    (positive : 0 < mantissa)
    {biased : Nat}
    (isBiased : exponent = biased - 150)
    (small : biased ≤ 254) :
    UnpackedFloat.pack .binary32 (.finite sign mantissa exponent positive) =
      if mantissa.log2 + 1 = 24 then
        packComponents .binary32 sign (BitVec.ofNat 8 biased) (BitVec.ofNat 23 mantissa)
      else packComponents .binary32 sign 0#8 (BitVec.ofNat 23 mantissa) := by
  have biased_eq : (exponent + (127 : Nat) + (23 : Nat)).toNat = biased := by omega
  rw [UnpackedFloat.pack]
  change (if 2 ^ 8 ≤ (exponent + (127 : Nat) + (23 : Nat)).toNat + 1 then _ else
    if mantissa.log2 + 1 = 24 then
      packComponents .binary32 sign
        (BitVec.ofNat 8 (exponent + (127 : Nat) + (23 : Nat)).toNat) _
    else _) = _
  rw [biased_eq, if_neg (by omega)]

/-- A number with a full mantissa is unpacked as it was packed. -/
theorem unpack_pack_of_normal
    (positive : 0 < mantissa)
    (short : mantissa < 2 ^ 24)
    (full : 2 ^ 23 ≤ mantissa)
    (low : -149 ≤ exponent)
    (small : exponent ≤ 104) :
    UnpackedFloat.unpack .binary32
        (UnpackedFloat.pack .binary32 (.finite sign mantissa exponent positive)) =
      .finite sign mantissa exponent positive := by
  obtain ⟨biased, isBiased⟩ : ∃ biased : Nat, exponent = biased - 150 :=
    ⟨(exponent + 150).toNat, by omega⟩
  have bits : mantissa.log2 + 1 = 24 := by
    rw [(Nat.log2_eq_iff positive.ne').mpr ⟨full, short⟩]
  have biasedBits : (BitVec.ofNat 8 biased).toNat = biased := by
    rw [BitVec.toNat_ofNat, Nat.mod_eq_of_lt (by omega)]
  have ne_of_toNat : ∀ other : BitVec 8, biased ≠ other.toNat → BitVec.ofNat 8 biased ≠ other := by
    rintro other apart rfl
    exact apart biasedBits.symm
  have whole : (1#1 ++ BitVec.ofNat 23 mantissa).toNat = mantissa := by
    rw [toNat_one_append, BitVec.toNat_ofNat]
    omega
  rw [pack_eq_of_small positive isBiased (by omega), if_pos bits, UnpackedFloat.unpack]
  simp only [UnpackedFloat.unpackMantissa_packComponents,
    UnpackedFloat.unpackExponent_packComponents, unpackSign_packComponents, ofBitVec_toBitVec]
  rw [if_neg (ne_of_toNat (-1#8) (show biased ≠ 255 by omega)),
    if_neg (ne_of_toNat 0#8 (show biased ≠ 0 by omega))]
  congr 1
  rw [biasedBits, isBiased]
  rfl

/-- A number of the least exponent is unpacked as it was packed. -/
theorem unpack_pack_of_subnormal
    (positive : 0 < mantissa)
    (short : mantissa < 2 ^ 23) :
    UnpackedFloat.unpack .binary32
        (UnpackedFloat.pack .binary32 (.finite sign mantissa (-149) positive)) =
      .finite sign mantissa (-149) positive := by
  have bits : mantissa.log2 + 1 ≠ 24 := by
    have fewBits := (Nat.log2_lt positive.ne').mpr short
    omega
  have whole : (BitVec.ofNat 23 mantissa).toNat = mantissa := by
    rw [BitVec.toNat_ofNat, Nat.mod_eq_of_lt short]
  have notZero : BitVec.ofNat 23 mantissa ≠ 0#23 := by
    intro same
    rw [same] at whole
    exact positive.ne whole
  have isBiased : (-149 : Int) = (1 : Nat) - 150 := by norm_num
  rw [pack_eq_of_small positive isBiased (by omega), if_neg bits, UnpackedFloat.unpack]
  simp only [UnpackedFloat.unpackMantissa_packComponents,
    UnpackedFloat.unpackExponent_packComponents, unpackSign_packComponents, ofBitVec_toBitVec]
  rw [if_neg (by decide), if_pos trivial, dif_neg notZero]
  congr 1

/-- Packing loses nothing of a number that fits. -/
theorem unpack_pack_of_fits
    (positive : 0 < mantissa)
    (fits : Fits mantissa exponent)
    (small : exponent ≤ 104) :
    UnpackedFloat.unpack .binary32
        (UnpackedFloat.pack .binary32 (.finite sign mantissa exponent positive)) =
      .finite sign mantissa exponent positive := by
  obtain ⟨short, low, full⟩ := fits
  by_cases isNormal : 2 ^ 23 ≤ mantissa
  · exact unpack_pack_of_normal positive short isNormal low small
  · obtain rfl := full.resolve_left isNormal
    exact unpack_pack_of_subnormal positive (not_le.mp isNormal)

end Fits

/-- What is unpacked is infinite, no number, or as single precision holds it. -/
theorem isCanonical_unpack
    {bits : BitVec Format.binary32.numBits}
    (isFinite : (UnpackedFloat.unpack .binary32 bits).isFinite = true) :
    IsCanonical (UnpackedFloat.unpack .binary32 bits) := by
  have short : (unpackMantissa bits).toNat < 2 ^ 23 := (unpackMantissa bits).isLt
  rw [UnpackedFloat.unpack] at isFinite ⊢
  dsimp only at isFinite ⊢
  by_cases ones : unpackExponent bits = -1#8
  · rw [if_pos ones] at isFinite
    split at isFinite <;> exact absurd isFinite Bool.false_ne_true
  · rw [if_neg ones]
    by_cases isZero : unpackExponent bits = 0#8
    · rw [if_pos isZero]
      split
      · trivial
      · exact ⟨by omega, by rw [isZero]; decide, .inr (by rw [isZero]; decide)⟩
    · rw [if_neg isZero]
      have biased : (unpackExponent bits).toNat ≠ 0 :=
        fun same => isZero (BitVec.eq_of_toNat_eq same)
      have whole := toNat_one_append (unpackMantissa bits)
      refine ⟨by omega, ?_, .inl (by omega)⟩
      change -149 ≤ ((unpackExponent bits).toNat : Int) - 150
      omega

/-- The exponent of what is unpacked has eight bits, and the largest is that of infinity. -/
theorem exponent_le_of_unpack
    {bits : BitVec Format.binary32.numBits}
    {sign : Sign}
    {mantissa : Nat}
    {exponent : Int}
    {positive : 0 < mantissa}
    (isUnpacked :
      UnpackedFloat.unpack .binary32 bits = .finite sign mantissa exponent positive) :
    exponent ≤ 104 := by
  rw [UnpackedFloat.unpack] at isUnpacked
  dsimp only at isUnpacked
  by_cases ones : unpackExponent bits = -1#8
  · rw [if_pos ones] at isUnpacked
    split at isUnpacked <;> cases isUnpacked
  · rw [if_neg ones] at isUnpacked
    by_cases isZero : unpackExponent bits = 0#8
    · rw [if_pos isZero] at isUnpacked
      split at isUnpacked
      · cases isUnpacked
      · cases isUnpacked
        rw [isZero]
        decide
    · rw [if_neg isZero] at isUnpacked
      cases isUnpacked
      have notAll : (unpackExponent bits).toNat ≠ 255 :=
        fun same => ones (BitVec.eq_of_toNat_eq same)
      have short : (unpackExponent bits).toNat < 2 ^ 8 := (unpackExponent bits).isLt
      change ((unpackExponent bits).toNat : Int) - 150 ≤ 104
      omega

end Single

end BoxDiagram
