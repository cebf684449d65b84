import BoxDiagram.Layout.Gate
import BoxDiagram.Proofs.Number.Sum
import BoxDiagram.Proofs.Number.Span

namespace BoxDiagram

/-!
# Places that are counted off

Lanes and gates lie at multiples of a distance.  Counts up to `2 ^ 23` and their halves are
exact, and larger ones are off by a small part of them.  So the last lane ends with its
road and the outermost gate lies inside of its side, but for a few grains.
-/

namespace Single

theorem value_one :
    value (Scalar.ofNat 1 : Float32) = 1 := by
  decide +kernel

theorem isFinite_one :
    Scalar.isFinite (Scalar.ofNat 1 : Float32) = true := by
  decide +kernel

theorem value_half_one :
    value (Scalar.half (Scalar.ofNat 1) : Float32) = 1 / 2 := by
  decide +kernel

theorem isFinite_half_one :
    Scalar.isFinite (Scalar.half (Scalar.ofNat 1) : Float32) = true := by
  decide +kernel

/-- Halves of whole numbers of few bits are numbers of single precision. -/
theorem isRepresentable_half
    {whole : Int}
    (small : |whole| ≤ 2 ^ 24) :
    IsRepresentable (whole / 2) :=
  ⟨whole, -1, small, by decide, by rw [zpow_neg_one, div_eq_mul_inv]⟩

section Counts

variable {count place : Nat} {laneWidth : Float32}

/-- Counts of up to 66 bits are measures. -/
theorem isMeasure_ofNat
    (few : count ≤ 2 ^ 66) :
    IsMeasure (Scalar.ofNat count : Float32) :=
  have upTo := isUpTo_ofNat few (by decide)
  ⟨upTo.isFinite, upTo.nonneg⟩

/-- Counts of few bits are exact. -/
theorem value_ofNat
    (few : count ≤ 2 ^ 24) :
    value (Scalar.ofNat count : Float32) = count :=
  have isFinite := (isMeasure_ofNat (few.trans (by decide))).isFinite
  ((rounds_ofNat count).nearest isFinite).eq_of_representable (isRepresentable_natCast few)

/-- A smaller count is not larger as a number. -/
theorem value_ofNat_le
    (inside : place < count)
    (few : count ≤ 2 ^ 66) :
    value (Scalar.ofNat place : Float32) ≤ value (Scalar.ofNat count : Float32) :=
  ((rounds_ofNat place).nearest (isMeasure_ofNat (inside.le.trans few)).isFinite).le_of_lt
    ((rounds_ofNat count).nearest (isMeasure_ofNat few).isFinite) (by exact_mod_cast inside)

/-- A count that is not zero is at least one as a number, too. -/
theorem one_le_value_ofNat
    (positive : 0 < count)
    (few : count ≤ 2 ^ 66) :
    1 ≤ value (Scalar.ofNat count : Float32) := by
  simpa using pow_le_value_ofNat (show 2 ^ 0 ≤ count from positive)
    (isMeasure_ofNat few).isFinite (by decide)

/-- The middle of a lane is half a lane after its start and before the end of the last one. -/
theorem lane_middle
    (few : count ≤ 2 ^ 66)
    (inside : place < count) :
    IsMeasure (Scalar.ofNat place + Scalar.half (Scalar.ofNat 1) : Float32) ∧
      1 / 2 ≤ value (Scalar.ofNat place + Scalar.half (Scalar.ofNat 1) : Float32) ∧
        value (Scalar.ofNat place + Scalar.half (Scalar.ofNat 1) : Float32) + 1 / 2 ≤
          value (Scalar.ofNat count : Float32) * (1 + 1 / 2 ^ 20) := by
  have placeUpTo := isUpTo_ofNat (inside.le.trans few) (by decide)
  have halfMeasure : IsMeasure (Scalar.half (Scalar.ofNat 1) : Float32) :=
    ⟨isFinite_half_one, by rw [value_half_one]; norm_num⟩
  have placeMeasure : IsMeasure (Scalar.ofNat place : Float32) :=
    ⟨placeUpTo.isFinite, placeUpTo.nonneg⟩
  obtain ⟨measure, rounded_le⟩ := placeMeasure.add halfMeasure (by
    have := placeUpTo.le
    rw [value_half_one]
    linarith)
  have nearest := (rounds_add placeMeasure.isFinite isFinite_half_one).nearest measure.isFinite
  rw [value_half_one] at rounded_le nearest
  have representable_half : IsRepresentable (1 / 2) :=
    value_half_one ▸ isRepresentable_value isFinite_half_one
  refine ⟨measure, nearest.ge representable_half (le_add_of_nonneg_left placeUpTo.nonneg), ?_⟩
  rcases le_or_gt count (2 ^ 23) with small | large
  · have place_eq : value (Scalar.ofNat place : Float32) = place := value_ofNat (by omega)
    rw [place_eq] at nearest
    have representable : IsRepresentable (place + 1 / 2) := by
      rw [show (place + 1 / 2 : Rat) = ((2 * place + 1 : Int) : Rat) / 2 by push_cast; ring]
      exact isRepresentable_half (by rw [abs_of_nonneg (by positivity)]; omega)
    rw [nearest.eq_of_representable representable, value_ofNat (by omega)]
    have place_le : (place : Rat) + 1 ≤ count := by exact_mod_cast inside
    linarith
  · have enough := pow_le_value_ofNat large.le (isMeasure_ofNat few).isFinite (by decide)
    have place_le := value_ofNat_le inside few
    linarith

/-- A lane ends where its road ends, or before, and starts where it starts, or later. -/
theorem lane_le
    (few : count ≤ 2 ^ 66)
    (inside : place < count)
    (measure : IsMeasure laneWidth)
    (upTo : IsUpTo (2 ^ 127) (Scalar.ofNat count * laneWidth)) :
    IsMeasure ((Scalar.ofNat place + Scalar.half (Scalar.ofNat 1)) * laneWidth) ∧
      IsMeasure (Scalar.half laneWidth) ∧
        value (Scalar.half laneWidth) ≤
            value ((Scalar.ofNat place + Scalar.half (Scalar.ofNat 1)) * laneWidth) +
              2 * grain ∧
          value ((Scalar.ofNat place + Scalar.half (Scalar.ofNat 1)) * laneWidth) +
              value (Scalar.half laneWidth) ≤
            value (Scalar.ofNat count * laneWidth) + 20 * grain := by
  have widthNonneg := measure.nonneg
  have countMeasure := isMeasure_ofNat few
  obtain ⟨middleMeasure, half_le, middle_le⟩ := lane_middle few inside
  obtain ⟨roadBelow, roadAbove⟩ := abs_le.mp
    ((rounds_mul countMeasure.isFinite measure.isFinite).near_of_isUpTo
      (mul_nonneg countMeasure.nonneg widthNonneg) upTo)
  have road_le := upTo.le
  have after_half := mul_le_mul_of_nonneg_right half_le widthNonneg
  have before_end := mul_le_mul_of_nonneg_right middle_le widthNonneg
  rw [add_mul, mul_right_comm] at before_end
  have middle_nonneg := mul_nonneg middleMeasure.nonneg widthNonneg
  have unit : grain = 2 ^ 103 := rfl
  have middleRounds := rounds_mul middleMeasure.isFinite measure.isFinite
  obtain ⟨stepFinite, stepClose⟩ := middleRounds.near (abs_le.mpr ⟨by linarith, by linarith⟩)
  have halfRounds := rounds_half measure.isFinite
  obtain ⟨halfFinite, halfClose⟩ := halfRounds.near (abs_le.mpr ⟨by linarith, by linarith⟩)
  obtain ⟨stepBelow, stepAbove⟩ := abs_le.mp stepClose
  obtain ⟨halfBelow, halfAbove⟩ := abs_le.mp halfClose
  refine ⟨⟨stepFinite, ?_⟩, ⟨halfFinite, ?_⟩, by linarith, by linarith⟩
  · exact (middleRounds.nearest stepFinite).ge isRepresentable_zero middle_nonneg
  · exact (halfRounds.nearest halfFinite).ge isRepresentable_zero (by linarith)

end Counts

section Slots

variable {count slot : Nat} {length gap : Float32}

/-- The steps from the first slot to the last one. -/
theorem isMeasure_steps
    (few : count ≤ 2 ^ 66)
    (positive : 0 < count) :
    IsMeasure (Scalar.ofNat count - Scalar.ofNat 1 : Float32) ∧
      value (Scalar.ofNat count - Scalar.ofNat 1 : Float32) ≤
        value (Scalar.ofNat count : Float32) := by
  have countMeasure := isMeasure_ofNat few
  have one_le := one_le_value_ofNat positive few
  have rounds := rounds_sub countMeasure.isFinite isFinite_one
  rw [value_one] at rounds
  have upTo := rounds.isUpTo
    ⟨isRepresentable_value countMeasure.isFinite, (le_abs_self _).trans (abs_value_le _)⟩
    (sub_nonneg.mpr one_le) (sub_le_self _ zero_le_one)
  exact ⟨⟨upTo.isFinite, upTo.nonneg⟩, upTo.le⟩

/-- The steps from the middle slot to any other are finite. -/
theorem isFinite_slot
    (few : count ≤ 2 ^ 66)
    (inside : slot < count) :
    IsMeasure (Scalar.half (Scalar.ofNat count - Scalar.ofNat 1) : Float32) ∧
      Scalar.isFinite
          (Scalar.ofNat slot - Scalar.half (Scalar.ofNat count - Scalar.ofNat 1) : Float32) =
        true := by
  obtain ⟨stepsMeasure, steps_le⟩ := isMeasure_steps few (Nat.zero_lt_of_lt inside)
  have half : IsUpTo _ (Scalar.half (Scalar.ofNat count - Scalar.ofNat 1) : Float32) :=
    IsUpTo.half ⟨stepsMeasure.isFinite, stepsMeasure.nonneg, steps_le⟩
  have slotMeasure := isMeasure_ofNat (inside.le.trans few)
  have count_le := (isUpTo_ofNat few (by decide)).le
  have slot_le := value_ofNat_le inside few
  refine ⟨⟨half.isFinite, half.nonneg⟩,
    (rounds_sub slotMeasure.isFinite half.isFinite).isFinite (abs_le.mpr ⟨?_, ?_⟩)⟩
  · linarith [half.le, slotMeasure.nonneg]
  · linarith [half.nonneg]

/-- Few slots, their steps and half of them are exact. -/
theorem value_slot
    (few : count ≤ 2 ^ 23)
    (inside : slot < count) :
    value (Scalar.ofNat count - Scalar.ofNat 1 : Float32) = count - 1 ∧
      value (Scalar.ofNat slot - Scalar.half (Scalar.ofNat count - Scalar.ofNat 1) : Float32) =
        slot - (count - 1) / 2 := by
  have positive : 0 < count := Nat.zero_lt_of_lt inside
  have fewer : count ≤ 2 ^ 66 := few.trans (by decide)
  have stepsFinite := (isMeasure_steps fewer positive).1.isFinite
  obtain ⟨halfMeasure, isFinite⟩ := isFinite_slot fewer inside
  have whole : (count : Rat) - 1 = ((count - 1 : Int) : Rat) := by
    push_cast
    ring
  have stepsNearest :=
    (rounds_sub (isMeasure_ofNat fewer).isFinite isFinite_one).nearest stepsFinite
  rw [value_ofNat (by omega), value_one] at stepsNearest
  have steps_representable : IsRepresentable ((count : Rat) - 1) := by
    rw [← Nat.cast_pred positive]
    exact isRepresentable_natCast (by omega)
  have steps_eq := stepsNearest.eq_of_representable steps_representable
  have halfNearest := (rounds_half stepsFinite).nearest halfMeasure.isFinite
  rw [steps_eq] at halfNearest
  have half_eq := halfNearest.eq_of_representable
    (whole ▸ isRepresentable_half (abs_le.mpr ⟨by omega, by omega⟩))
  have nearest := (rounds_sub (isMeasure_ofNat (inside.le.trans fewer)).isFinite
    halfMeasure.isFinite).nearest isFinite
  rw [half_eq, value_ofNat (by omega)] at nearest
  refine ⟨steps_eq, nearest.eq_of_representable ?_⟩
  have slot_eq : (slot : Rat) - (count - 1) / 2 = ((2 * slot - (count - 1) : Int) : Rat) / 2 := by
    push_cast
    ring
  exact slot_eq ▸ isRepresentable_half (abs_le.mpr ⟨by omega, by omega⟩)

/-- A slot is not further from the middle one than half of the steps, but for a small part. -/
theorem abs_slot_le
    (few : count ≤ 2 ^ 66)
    (inside : slot < count) :
    |value (Scalar.ofNat slot - Scalar.half (Scalar.ofNat count - Scalar.ofNat 1) : Float32)| ≤
      value (Scalar.ofNat count - Scalar.ofNat 1 : Float32) * (1 / 2 + 1 / 2 ^ 20) := by
  rcases le_or_gt count (2 ^ 23) with small | large
  · obtain ⟨steps_eq, slot_eq⟩ := value_slot small inside
    have last_le : (slot : Rat) + 1 ≤ count := by exact_mod_cast inside
    have first_le : (0 : Rat) ≤ slot := Nat.cast_nonneg _
    rw [steps_eq, slot_eq]
    exact abs_le.mpr ⟨by linarith, by linarith⟩
  · have countMeasure := isMeasure_ofNat few
    have slotMeasure := isMeasure_ofNat (inside.le.trans few)
    have stepsMeasure := (isMeasure_steps few (Nat.zero_lt_of_lt inside)).1
    obtain ⟨halfMeasure, isFinite⟩ := isFinite_slot few inside
    have stepsError :=
      ((rounds_sub countMeasure.isFinite isFinite_one).nearest
        stepsMeasure.isFinite).abs_error_le_relative
    have halfError :=
      ((rounds_half stepsMeasure.isFinite).nearest halfMeasure.isFinite).abs_error_le_relative
    have error :=
      ((rounds_sub slotMeasure.isFinite halfMeasure.isFinite).nearest
        isFinite).abs_error_le_relative
    have enough := pow_le_value_ofNat large.le countMeasure.isFinite (by decide)
    have slot_le := value_ofNat_le inside few
    have slot_nonneg := slotMeasure.nonneg
    have steps_nonneg := stepsMeasure.nonneg
    rw [value_one, abs_of_nonneg (show 0 ≤ value (Scalar.ofNat count : Float32) - 1 by linarith)]
      at stepsError
    rw [abs_of_nonneg (show 0 ≤ value (Scalar.ofNat count - Scalar.ofNat 1 : Float32) / 2 by
      linarith)] at halfError
    obtain ⟨stepsBelow, stepsAbove⟩ := abs_le.mp stepsError
    obtain ⟨halfBelow, halfAbove⟩ := abs_le.mp halfError
    have distance_le :
        |value (Scalar.ofNat slot) -
            value (Scalar.half (Scalar.ofNat count - Scalar.ofNat 1) : Float32)| ≤
          value (Scalar.ofNat count - Scalar.ofNat 1 : Float32) * (1 / 2 + 1 / 2 ^ 21) :=
      abs_le.mpr ⟨by linarith, by linarith⟩
    have rounded_le := abs_sub_abs_le_abs_sub
      (value (Scalar.ofNat slot - Scalar.half (Scalar.ofNat count - Scalar.ofNat 1) : Float32))
      (value (Scalar.ofNat slot) -
        value (Scalar.half (Scalar.ofNat count - Scalar.ofNat 1) : Float32))
    linarith

/-- Gates at a distance at which all steps are not longer than a side lie inside of it. -/
theorem abs_gate_le
    {distance : Float32}
    (few : count ≤ 2 ^ 66)
    (inside : slot < count)
    (lengthMeasure : IsMeasure length)
    (measure : IsMeasure distance)
    (fits :
      value (Scalar.ofNat count - Scalar.ofNat 1 : Float32) * value distance ≤
        value length + 3 * grain) :
    Scalar.isFinite
          ((Scalar.ofNat slot - Scalar.half (Scalar.ofNat count - Scalar.ofNat 1)) * distance) =
        true ∧
      |value ((Scalar.ofNat slot - Scalar.half (Scalar.ofNat count - Scalar.ofNat 1)) *
            distance)| ≤
        value length / 2 + 40 * grain := by
  have unit : grain = 2 ^ 103 := rfl
  have length_le := lengthMeasure.isUpTo.le
  have slotFinite := (isFinite_slot few inside).2
  have exact_le :
      |value (Scalar.ofNat slot - Scalar.half (Scalar.ofNat count - Scalar.ofNat 1) : Float32) *
          value distance| ≤
        value length / 2 + 36 * grain := by
    rw [abs_mul, abs_of_nonneg measure.nonneg]
    have scaled := mul_le_mul_of_nonneg_right (abs_slot_le few inside) measure.nonneg
    rw [mul_right_comm] at scaled
    linarith
  obtain ⟨isFinite, close⟩ := (rounds_mul slotFinite measure.isFinite).near
    (exact_le.trans (by linarith))
  refine ⟨isFinite, ?_⟩
  have rounded_le := abs_sub_abs_le_abs_sub
    (value ((Scalar.ofNat slot - Scalar.half (Scalar.ofNat count - Scalar.ofNat 1)) * distance))
    (value (Scalar.ofNat slot - Scalar.half (Scalar.ofNat count - Scalar.ofNat 1) : Float32) *
      value distance)
  linarith [grain_pos]

/-- Where the steps between gates at a fixed distance are shorter than the side, they fit. -/
theorem steps_le_of_fits
    (few : count ≤ 2 ^ 66)
    (positive : 0 < count)
    (lengthMeasure : IsMeasure length)
    (measure : IsMeasure gap)
    (fits : Scalar.less ((Scalar.ofNat count - Scalar.ofNat 1) * gap) length = true) :
    value (Scalar.ofNat count - Scalar.ofNat 1 : Float32) * value gap ≤
      value length + 3 * grain := by
  have stepsMeasure := (isMeasure_steps few positive).1
  have exact_nonneg := mul_nonneg stepsMeasure.nonneg measure.nonneg
  have rounds := rounds_mul stepsMeasure.isFinite measure.isFinite
  have extent := rounds.isExtent exact_nonneg
  have isFinite := extent.isFinite_of_less lengthMeasure.isFinite fits
  rw [less_iff isFinite lengthMeasure.isFinite] at fits
  have close := rounds.near_of_isUpTo exact_nonneg
    ⟨isFinite, extent.nonneg isFinite, fits.le.trans lengthMeasure.isUpTo.le⟩
  have unit : grain = 2 ^ 103 := rfl
  linarith [neg_le_of_abs_le close]

/-- A side that is shared evenly has one share more than gates. -/
theorem steps_le_of_shared
    (few : count ≤ 2 ^ 66)
    (positive : 0 < count)
    (lengthMeasure : IsMeasure length) :
    IsMeasure (length / (Scalar.ofNat count + Scalar.ofNat 1)) ∧
      value (Scalar.ofNat count - Scalar.ofNat 1 : Float32) *
          value (length / (Scalar.ofNat count + Scalar.ofNat 1)) ≤
        value length + 3 * grain := by
  have unit : grain = 2 ^ 103 := rfl
  have countMeasure := isMeasure_ofNat few
  have count_le := (isUpTo_ofNat few (by decide)).le
  have one_le := one_le_value_ofNat positive few
  have oneMeasure : IsMeasure (Scalar.ofNat 1 : Float32) :=
    ⟨isFinite_one, value_one.ge.trans' zero_le_one⟩
  have steps_le := (isMeasure_steps few positive).2
  obtain ⟨sharesMeasure, shares_le⟩ :=
    countMeasure.add oneMeasure (by rw [value_one]; linarith)
  rw [value_one] at shares_le
  have count_le_shares :
      value (Scalar.ofNat count : Float32) ≤
        value (Scalar.ofNat count + Scalar.ofNat 1 : Float32) :=
    ((rounds_add countMeasure.isFinite isFinite_one).nearest sharesMeasure.isFinite).ge
      (isRepresentable_value countMeasure.isFinite) (by rw [value_one]; linarith)
  have shares_pos : 0 < value (Scalar.ofNat count + Scalar.ofNat 1 : Float32) := by linarith
  have length_nonneg := lengthMeasure.nonneg
  have length_le := lengthMeasure.isUpTo.le
  have share_nonneg := div_nonneg length_nonneg shares_pos.le
  have rounds := rounds_div lengthMeasure.isFinite sharesMeasure.isFinite shares_pos.ne'
  have share := rounds.isUpTo
    ⟨isRepresentable_value lengthMeasure.isFinite, (le_abs_self _).trans (abs_value_le _)⟩
    share_nonneg (div_le_self length_nonneg (one_le.trans count_le_shares))
  have error := (rounds.nearest share.isFinite).abs_error_le_relative
  rw [abs_of_nonneg share_nonneg] at error
  refine ⟨⟨share.isFinite, share.nonneg⟩, ?_⟩
  have all_le :
      value (Scalar.ofNat count + Scalar.ofNat 1 : Float32) *
          value (length / (Scalar.ofNat count + Scalar.ofNat 1)) ≤
        value length + value length / 2 ^ 24 +
          value (Scalar.ofNat count + Scalar.ofNat 1 : Float32) / 2 ^ 150 := by
    calc
      value (Scalar.ofNat count + Scalar.ofNat 1 : Float32) *
            value (length / (Scalar.ofNat count + Scalar.ofNat 1))
        ≤ value (Scalar.ofNat count + Scalar.ofNat 1 : Float32) *
            (value length / value (Scalar.ofNat count + Scalar.ofNat 1 : Float32) +
              value length / value (Scalar.ofNat count + Scalar.ofNat 1 : Float32) / 2 ^ 24 +
                1 / 2 ^ 150) :=
          mul_le_mul_of_nonneg_left (by linarith [le_of_abs_le error]) shares_pos.le
      _ = value length + value length / 2 ^ 24 +
            value (Scalar.ofNat count + Scalar.ofNat 1 : Float32) / 2 ^ 150 := by
          field_simp
  have some_le := mul_le_mul_of_nonneg_right (steps_le.trans count_le_shares) share.nonneg
  linarith

/-- The gates of a side lie inside of it, but for a few grains. -/
theorem abs_offset_le
    (few : count ≤ 2 ^ 66)
    (inside : slot < count)
    (lengthMeasure : IsMeasure length)
    (measure : IsMeasure gap) :
    Scalar.isFinite
          ((Scalar.ofNat slot - Scalar.half (Scalar.ofNat count - Scalar.ofNat 1)) *
            Gate.step length gap count) =
        true ∧
      |value ((Scalar.ofNat slot - Scalar.half (Scalar.ofNat count - Scalar.ofNat 1)) *
            Gate.step length gap count)| ≤
        value length / 2 + 40 * grain := by
  have positive : 0 < count := Nat.zero_lt_of_lt inside
  rw [Gate.step]
  split
  · rename_i fits
    exact abs_gate_le few inside lengthMeasure measure
      (steps_le_of_fits few positive lengthMeasure measure fits)
  · obtain ⟨shareMeasure, fits⟩ := steps_le_of_shared few positive lengthMeasure
    exact abs_gate_le few inside lengthMeasure shareMeasure fits

end Slots

end Single

end BoxDiagram
