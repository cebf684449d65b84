import BoxDiagram.Proofs.Number.Compared

namespace BoxDiagram

/-!
# Numbers within bounds

Rounding does not lead out of a bound that is a number of single precision itself.  So a
sum stays below any such bound on the exact sum, and what a sum of extents stays below has
none of its terms above it.
-/

namespace Single

/-- The bound is a number of single precision, and not above the largest one. -/
structure IsBound (bound : Rat) : Prop where
  representable : IsRepresentable bound
  small : bound ≤ 2 ^ 128 - 2 ^ 104

/-- The number is finite and at most a bound away from zero. -/
structure IsWithin (bound : Rat) (number : Float32) : Prop where
  isFinite : Scalar.isFinite number = true
  abs_le : |value number| ≤ bound

instance (bound : Rat) (number : Float32) : Decidable (IsWithin bound number) :=
  decidable_of_iff (Scalar.isFinite number = true ∧ |value number| ≤ bound)
    ⟨fun ⟨isFinite, abs_le⟩ => ⟨isFinite, abs_le⟩, fun ⟨isFinite, abs_le⟩ => ⟨isFinite, abs_le⟩⟩

/-- The number is finite and lies between zero and a bound. -/
structure IsUpTo (bound : Rat) (number : Float32) : Prop where
  isFinite : Scalar.isFinite number = true
  nonneg : 0 ≤ value number
  le : value number ≤ bound

/-- Powers of two up to half of the range are bounds. -/
theorem isBound_pow
    {exponent : Nat}
    (small : exponent ≤ 127) :
    IsBound (2 ^ exponent) := by
  refine ⟨?_, (pow_le_pow_right₀ (by norm_num) small).trans
    (show (2 : Rat) ^ 127 ≤ 2 ^ 128 - 2 ^ 104 by norm_num)⟩
  rw [← zpow_natCast]
  exact isRepresentable_pow (by omega)

variable {bound : Rat} {number first second : Float32}

/-- Rounding does not lead beyond a bound. -/
theorem Rounds.isUpTo
    {exact : Rat}
    (rounds : Rounds exact number)
    (isBound : IsBound bound)
    (nonneg : 0 ≤ exact)
    (small : exact ≤ bound) :
    IsUpTo bound number := by
  have isFinite := rounds.isFinite ((abs_of_nonneg nonneg).trans_le (small.trans isBound.small))
  have nearest := rounds.nearest isFinite
  exact ⟨isFinite, nearest.ge isRepresentable_zero nonneg, nearest.le isBound.representable small⟩

/-- What is rounded to a number with a bound is off by at most a part of the bound. -/
theorem Rounds.near_of_isUpTo
    {exponent : Nat}
    {exact : Rat}
    (rounds : Rounds exact number)
    (nonneg : 0 ≤ exact)
    (upTo : IsUpTo (2 ^ exponent) number) :
    |value number - exact| ≤ 2 ^ exponent / 2 ^ 24 := by
  have nearest := rounds.nearest upTo.isFinite
  have representable : IsRepresentable (2 ^ exponent) := by
    rw [← zpow_natCast]
    exact isRepresentable_pow (by omega)
  have unit : (2 : Rat) ^ ((exponent : Int) - 23) = 2 ^ exponent / 2 ^ 23 := by
    rw [zpow_sub₀ two_ne_zero, zpow_natCast]
    rfl
  have exact_le := nearest.exact_le_double representable (by positivity) upTo.le
  have error := nearest.abs_error_le (show -149 ≤ (exponent : Int) - 23 by omega)
    ((abs_of_nonneg nonneg).trans_le (exact_le.trans_eq (by rw [unit]; ring)))
  rw [unit] at error
  exact error.trans_eq (by ring)

theorem value_zero :
    value (Scalar.zero : Float32) = 0 := by
  decide +kernel

theorem isFinite_zero :
    Scalar.isFinite (Scalar.zero : Float32) = true := by
  decide +kernel

theorem value_two :
    value (Scalar.ofNat 2 : Float32) = 2 := by
  decide +kernel

theorem isFinite_two :
    Scalar.isFinite (Scalar.ofNat 2 : Float32) = true := by
  decide +kernel

/-- A half is rounded once. -/
theorem rounds_half
    (isFinite : Scalar.isFinite number = true) :
    Rounds (value number / 2) (Scalar.half number) := by
  have rounds := rounds_div isFinite isFinite_two (by rw [value_two]; norm_num)
  rwa [value_two] at rounds

namespace IsUpTo

/-- A number up to a bound is up to a larger one. -/
theorem mono
    {larger : Rat}
    (upTo : IsUpTo bound number)
    (bound_le : bound ≤ larger) :
    IsUpTo larger number :=
  ⟨upTo.isFinite, upTo.nonneg, upTo.le.trans bound_le⟩

/-- A number with a bound is an extent. -/
theorem isExtent
    (upTo : IsUpTo bound number) :
    IsExtent number :=
  .finite upTo.isFinite upTo.nonneg

theorem zero
    (nonneg : 0 ≤ bound) :
    IsUpTo bound Scalar.zero :=
  ⟨isFinite_zero, value_zero.ge, value_zero.trans_le nonneg⟩

/-- The whole number below a number is not larger. -/
theorem floor
    (upTo : IsUpTo bound number) :
    IsUpTo bound (Scalar.floor number) := by
  obtain ⟨isFinite, nonneg, le⟩ := floor_bounds upTo.isFinite upTo.nonneg
  exact ⟨isFinite, nonneg, le.trans upTo.le⟩

/-- A half is not larger than the whole. -/
theorem half
    (upTo : IsUpTo bound number) :
    IsUpTo bound (Scalar.half number) := by
  have isBound : IsBound (value number) :=
    ⟨isRepresentable_value upTo.isFinite, (le_abs_self _).trans (abs_value_le number)⟩
  have nonneg := upTo.nonneg
  exact ((rounds_half upTo.isFinite).isUpTo isBound (by linarith) (by linarith)).mono upTo.le

/-- Extents whose sum has a bound have this bound. -/
theorem of_add
    (firstExtent : IsExtent first)
    (secondExtent : IsExtent second)
    (upTo : IsUpTo bound (first + second)) :
    IsUpTo bound first ∧ IsUpTo bound second := by
  obtain ⟨firstFinite, secondFinite⟩ := firstExtent.isFinite_of_add secondExtent upTo.isFinite
  have nearest := (rounds_add firstFinite secondFinite).nearest upTo.isFinite
  have firstNonneg := firstExtent.nonneg firstFinite
  have secondNonneg := secondExtent.nonneg secondFinite
  have first_le := nearest.ge (isRepresentable_value firstFinite) (by linarith)
  have second_le := nearest.ge (isRepresentable_value secondFinite) (by linarith)
  exact ⟨⟨firstFinite, firstNonneg, first_le.trans upTo.le⟩,
    ⟨secondFinite, secondNonneg, second_le.trans upTo.le⟩⟩

/-- Extents exceed their sum at most by one grain, if it is not too large. -/
theorem add_le
    (firstExtent : IsExtent first)
    (secondExtent : IsExtent second)
    (upTo : IsUpTo (2 ^ 127) (first + second)) :
    value first + value second ≤ value (first + second) + grain := by
  obtain ⟨firstUpTo, secondUpTo⟩ := of_add firstExtent secondExtent upTo
  have close := (rounds_add firstUpTo.isFinite secondUpTo.isFinite).near_of_isUpTo
    (add_nonneg firstUpTo.nonneg secondUpTo.nonneg) upTo
  have unit : grain = 2 ^ 103 := rfl
  linarith [neg_le_of_abs_le close]

/-- Extents of which the larger has a bound have this bound. -/
theorem of_larger
    (firstExtent : IsExtent first)
    (secondExtent : IsExtent second)
    (upTo : IsUpTo bound (Scalar.larger first second)) :
    IsUpTo bound first ∧ IsUpTo bound second := by
  obtain ⟨firstFinite, secondFinite⟩ := firstExtent.isFinite_of_larger secondExtent upTo.isFinite
  have le := upTo.le
  rw [value_larger firstFinite secondFinite, max_le_iff] at le
  exact ⟨⟨firstFinite, firstExtent.nonneg firstFinite, le.1⟩,
    ⟨secondFinite, secondExtent.nonneg secondFinite, le.2⟩⟩

end IsUpTo

/-- The number is finite and not below zero. -/
structure IsMeasure (number : Float32) : Prop where
  isFinite : Scalar.isFinite number = true
  nonneg : 0 ≤ value number

/-- The check for a measure decides whether the number is one. -/
theorem isMeasure_iff
    {number : Float32} :
    Scalar.isMeasure number = true ↔ IsMeasure number := by
  rw [Scalar.isMeasure, Scalar.atMost, Bool.and_eq_true, Bool.or_eq_true]
  constructor
  · rintro ⟨isFinite, compared⟩
    rw [less_iff isFinite_zero isFinite, equal_iff isFinite_zero isFinite, value_zero,
      ← le_iff_lt_or_eq] at compared
    exact ⟨isFinite, compared⟩
  · rintro ⟨isFinite, nonneg⟩
    rw [less_iff isFinite_zero isFinite, equal_iff isFinite_zero isFinite, value_zero,
      ← le_iff_lt_or_eq]
    exact ⟨isFinite, nonneg⟩

/-- The part of a number above zero is a measure. -/
theorem isMeasure_positivePart
    (isFinite : Scalar.isFinite number = true) :
    IsMeasure (Scalar.positivePart number) ∧
      value (Scalar.positivePart number) = max (value number) 0 := by
  have value_eq : value (Scalar.positivePart number) = max (value number) 0 := by
    rw [Scalar.positivePart, value_larger isFinite isFinite_zero, value_zero]
  refine ⟨⟨?_, value_eq ▸ le_max_right _ _⟩, value_eq⟩
  rw [Scalar.positivePart]
  rcases larger_eq_or_eq number Scalar.zero with same | same <;> rw [same]
  · exact isFinite
  · exact isFinite_zero

/-- A measure is an extent that is finite. -/
theorem IsMeasure.isExtent
    (measure : IsMeasure number) :
    IsExtent number :=
  .finite measure.isFinite measure.nonneg

/-- A number with a bound is a measure. -/
theorem IsUpTo.isMeasure
    (upTo : IsUpTo bound number) :
    IsMeasure number :=
  ⟨upTo.isFinite, upTo.nonneg⟩

/-- No number of single precision reaches `2 ^ 128`. -/
theorem IsMeasure.isUpTo
    (measure : IsMeasure number) :
    IsUpTo (2 ^ 128) number :=
  ⟨measure.isFinite, measure.nonneg,
    (le_abs_self _).trans ((abs_value_le number).trans (by norm_num))⟩

/-- An extent that is not above a finite number has its value as a bound. -/
theorem IsUpTo.of_atMost
    (extent : IsExtent first)
    (isFinite : Scalar.isFinite second = true)
    (atMost : Scalar.atMost first second = true) :
    IsUpTo (value second) first := by
  cases extent with
  | infinite infinite =>
      exact absurd atMost (IsBeyond.not_atMost (.inl infinite) isFinite)
  | finite firstFinite nonneg =>
      rw [Scalar.atMost, Bool.or_eq_true, less_iff firstFinite isFinite,
        equal_iff firstFinite isFinite, ← le_iff_lt_or_eq] at atMost
      exact ⟨firstFinite, nonneg, atMost⟩

section Folds

variable
  {combine : Float32 → Float32 → Float32}
  {start : Float32}
  {numbers : List Float32}

/-- Extents are combined to an extent, step by step. -/
theorem IsExtent.foldl
    (closed : ∀ {first second : Float32}, IsExtent first → IsExtent second →
      IsExtent (combine first second))
    (startExtent : IsExtent start)
    (extents : ∀ number ∈ numbers, IsExtent number) :
    IsExtent (numbers.foldl combine start) := by
  induction numbers generalizing start with
  | nil => exact startExtent
  | cons first rest inductionHypothesis =>
      rw [List.forall_mem_cons] at extents
      exact inductionHypothesis (closed startExtent extents.1) extents.2

/-- What has a bound after extents were combined had it before. -/
theorem IsUpTo.of_foldl
    (closed : ∀ {first second : Float32}, IsExtent first → IsExtent second →
      IsExtent (combine first second))
    (parts : ∀ {first second : Float32}, IsExtent first → IsExtent second →
      IsUpTo bound (combine first second) → IsUpTo bound first ∧ IsUpTo bound second)
    (startExtent : IsExtent start)
    (extents : ∀ number ∈ numbers, IsExtent number)
    (upTo : IsUpTo bound (numbers.foldl combine start)) :
    IsUpTo bound start ∧ ∀ number ∈ numbers, IsUpTo bound number := by
  induction numbers generalizing start with
  | nil => exact ⟨upTo, fun _ isNone => by cases isNone⟩
  | cons first rest inductionHypothesis =>
      rw [List.forall_mem_cons] at extents
      obtain ⟨combined, later⟩ :=
        inductionHypothesis (closed startExtent extents.1) extents.2 upTo
      obtain ⟨before, own⟩ := parts startExtent extents.1 combined
      exact ⟨before, List.forall_mem_cons.mpr ⟨own, later⟩⟩

end Folds

section Counts

variable {count bits : Nat}

/-- A count of few bits is a number with a bound. -/
theorem isUpTo_ofNat
    (small : count ≤ 2 ^ bits)
    (inRange : bits ≤ 127) :
    IsUpTo (2 ^ bits) (Scalar.ofNat count : Float32) :=
  (rounds_ofNat count).isUpTo (isBound_pow inRange) (Nat.cast_nonneg count)
    (by exact_mod_cast small)

/-- A count that reaches a power of two reaches it as a number. -/
theorem pow_le_value_ofNat
    (large : 2 ^ bits ≤ count)
    (isFinite : Scalar.isFinite (Scalar.ofNat count : Float32) = true)
    (inRange : bits ≤ 127) :
    2 ^ bits ≤ value (Scalar.ofNat count : Float32) :=
  ((rounds_ofNat count).nearest isFinite).ge (isBound_pow inRange).representable
    (by exact_mod_cast large)

/-- A multiple of a measure is a measure if it is finite. -/
theorem isMeasure_mul_ofNat
    (measure : IsMeasure first)
    (isFinite : Scalar.isFinite (Scalar.ofNat count * first) = true) :
    IsMeasure (Scalar.ofNat count * first) := by
  have extent : IsExtent (Scalar.ofNat count) :=
    (rounds_ofNat count).isExtent (Nat.cast_nonneg count)
  cases extent with
  | infinite infinite =>
      have beyond := IsBeyond.mul infinite measure.isFinite measure.nonneg
      exact absurd isFinite beyond.not_isFinite
  | finite countFinite nonneg =>
      have product := (rounds_mul countFinite measure.isFinite).isExtent
        (mul_nonneg nonneg measure.nonneg)
      exact ⟨isFinite, product.nonneg isFinite⟩

end Counts

end Single

end BoxDiagram
