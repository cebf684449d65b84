import Mathlib.Algebra.Order.Archimedean.Basic
import Mathlib.Algebra.Order.Field.Power
import Mathlib.Algebra.Order.Floor.Ring
import Mathlib.Data.Rat.Floor
import Mathlib.Tactic.Linarith
import Mathlib.Tactic.NormNum
import Mathlib.Tactic.Positivity
import Mathlib.Tactic.Ring

namespace BoxDiagram

/-!
# Rounding to single precision

A number of single precision is a whole number of at most 24 bits times a power of two
that is not below `2 ^ (-149)`.  Rounding shifts a mantissa to the right until it has 24
bits or reaches the least exponent, and then takes the nearest whole number.  So its
result is as near to the exact number as any number of single precision.
-/

namespace Single

open Float.Model (Format UnpackedFloat totalExponent)
open Float.Model.UnpackedFloat (Accuracy ExtendedMantissa Sign)

/-- The number has single precision, if the greatest exponent is left aside. -/
def IsRepresentable (value : Rat) : Prop :=
  ∃ mantissa exponent : Int,
    |mantissa| ≤ 2 ^ 24 ∧ -149 ≤ exponent ∧ value = mantissa * 2 ^ exponent

/-- No number of single precision is nearer to the exact one. -/
structure IsNearest (exact value : Rat) : Prop where
  representable : IsRepresentable value
  least : ∀ {other : Rat}, IsRepresentable other → |value - exact| ≤ |other - exact|

theorem isRepresentable_zero :
    IsRepresentable 0 :=
  ⟨0, 0, by norm_num, by norm_num, by norm_num⟩

/-- Powers of two down to the least one are numbers of single precision. -/
theorem isRepresentable_pow
    {exponent : Int}
    (low : -149 ≤ exponent) :
    IsRepresentable (2 ^ exponent) :=
  ⟨1, exponent, by norm_num, low, by norm_num⟩

/-- Whole numbers of 24 bits are numbers of single precision. -/
theorem isRepresentable_natCast
    {count : Nat}
    (small : count ≤ 2 ^ 24) :
    IsRepresentable count := by
  refine ⟨count, 0, ?_, by norm_num, by norm_num⟩
  rw [Nat.abs_cast]
  exact_mod_cast small

/-- So is the negative of a number of single precision. -/
theorem IsRepresentable.neg
    {value : Rat}
    (representable : IsRepresentable value) :
    IsRepresentable (-value) := by
  obtain ⟨mantissa, exponent, small, low, rfl⟩ := representable
  exact ⟨-mantissa, exponent, by rwa [abs_neg], low, by push_cast; ring⟩

/-- So is the double of a number of single precision, for lack of a largest exponent. -/
theorem IsRepresentable.double
    {value : Rat}
    (representable : IsRepresentable value) :
    IsRepresentable (2 * value) := by
  obtain ⟨mantissa, exponent, small, low, rfl⟩ := representable
  refine ⟨mantissa, exponent + 1, small, by omega, ?_⟩
  rw [zpow_add_one₀ (by norm_num)]
  ring

/-- Different multiples of a unit are at least the unit apart. -/
theorem add_le_of_lt_of_multiples
    {first second : Int}
    {unit : Rat}
    (positive : 0 < unit)
    (below : first * unit < second * unit) :
    first * unit + unit ≤ second * unit := by
  have whole : first + 1 ≤ second := by
    exact_mod_cast lt_of_mul_lt_mul_right below positive.le
  have scaled :=
    mul_le_mul_of_nonneg_right (show (first : Rat) + 1 ≤ second by exact_mod_cast whole)
      positive.le
  rwa [add_mul, one_mul] at scaled

/-- Two different numbers are further apart than a part in `2 ^ 24` of the smaller one. -/
theorem IsRepresentable.add_le_of_lt
    {first second : Rat}
    (firstRepresentable : IsRepresentable first)
    (secondRepresentable : IsRepresentable second)
    (below : first < second) :
    first + first / 2 ^ 24 ≤ second := by
  obtain ⟨mantissa, exponent, small, _, rfl⟩ := firstRepresentable
  obtain ⟨digits, scale, digitsSmall, _, rfl⟩ := secondRepresentable
  have le_of_small :
      ∀ {whole : Int} {unit : Rat}, |whole| ≤ 2 ^ 24 → 0 < unit →
        whole * unit / 2 ^ 24 ≤ unit := by
    intro whole unit small positive
    rw [div_le_iff₀ (by norm_num), mul_comm unit]
    exact mul_le_mul_of_nonneg_right (by exact_mod_cast (le_abs_self whole).trans small)
      positive.le
  -- Both are multiples of the smaller one of their two units.
  rcases le_total exponent scale with coarser | finer
  · obtain ⟨steps, same⟩ := Int.eq_ofNat_of_zero_le (sub_nonneg.mpr coarser)
    have unit_pos : (0 : Rat) < 2 ^ exponent := zpow_pos (by norm_num) _
    have grid : (digits : Rat) * 2 ^ scale = ((digits * 2 ^ steps : Int) : Rat) * 2 ^ exponent := by
      rw [show scale = steps + exponent by omega, zpow_add₀ (by norm_num), zpow_natCast]
      push_cast
      ring
    rw [grid] at below ⊢
    linarith [add_le_of_lt_of_multiples unit_pos below, le_of_small small unit_pos]
  · obtain ⟨steps, same⟩ := Int.eq_ofNat_of_zero_le (sub_nonneg.mpr finer)
    have unit_pos : (0 : Rat) < 2 ^ scale := zpow_pos (by norm_num) _
    have grid :
        (mantissa : Rat) * 2 ^ exponent = ((mantissa * 2 ^ steps : Int) : Rat) * 2 ^ scale := by
      rw [show exponent = steps + scale by omega, zpow_add₀ (by norm_num), zpow_natCast]
      push_cast
      ring
    have apart := add_le_of_lt_of_multiples unit_pos (grid ▸ below)
    have part : (mantissa : Rat) * 2 ^ exponent / 2 ^ 24 ≤ 2 ^ scale :=
      (div_le_div_of_nonneg_right below.le (by norm_num)).trans
        (le_of_small digitsSmall unit_pos)
    linarith [grid ▸ apart]

/-- Every number is a multiple of the finest unit. -/
theorem IsRepresentable.exists_multiple
    {value : Rat}
    (representable : IsRepresentable value) :
    ∃ whole : Int, value = whole * 2 ^ (-149 : Int) := by
  obtain ⟨mantissa, exponent, _, low, rfl⟩ := representable
  obtain ⟨steps, same⟩ := Int.eq_ofNat_of_zero_le (sub_nonneg.mpr low)
  refine ⟨mantissa * 2 ^ steps, ?_⟩
  rw [show exponent = steps + -149 by omega, zpow_add₀ (by norm_num), zpow_natCast]
  push_cast
  ring

/-- Small sums need no rounding. -/
theorem isRepresentable_add_of_small
    {first second : Rat}
    (firstRepresentable : IsRepresentable first)
    (secondRepresentable : IsRepresentable second)
    (small : |first + second| ≤ 2 ^ (-126 : Int)) :
    IsRepresentable (first + second) := by
  obtain ⟨firstWhole, rfl⟩ := firstRepresentable.exists_multiple
  obtain ⟨secondWhole, rfl⟩ := secondRepresentable.exists_multiple
  have unit_pos : (0 : Rat) < 2 ^ (-149 : Int) := zpow_pos (by norm_num) _
  rw [← add_mul, abs_mul, abs_of_pos unit_pos] at small
  refine ⟨firstWhole + secondWhole, -149, ?_, le_rfl, by push_cast; ring⟩
  have few : ((|firstWhole + secondWhole| : Int) : Rat) ≤ (2 ^ 24 : Int) := by
    push_cast
    refine le_of_mul_le_mul_right (small.trans ?_) unit_pos
    norm_num
  exact_mod_cast few

namespace IsNearest

variable {exact value bound : Rat}

/-- A number of single precision is its own rounding. -/
theorem of_representable
    (representable : IsRepresentable value) :
    IsNearest value value :=
  ⟨representable, fun _ => by rw [sub_self, abs_zero]; exact abs_nonneg _⟩

/-- Negation keeps what is nearest. -/
theorem neg
    (nearest : IsNearest exact value) :
    IsNearest (-exact) (-value) := by
  refine ⟨nearest.representable.neg, fun {other} representable => ?_⟩
  have least := nearest.least representable.neg
  rwa [← abs_neg (-other - exact), neg_sub, sub_neg_eq_add, add_comm exact, abs_sub_comm,
    ← neg_sub_neg, ← sub_neg_eq_add] at least

/-- Rounding stays below a bound of single precision. -/
theorem le
    (nearest : IsNearest exact value)
    (representable : IsRepresentable bound)
    (below : exact ≤ bound) :
    value ≤ bound := by
  by_contra above
  have least := nearest.least representable
  rw [abs_of_nonneg (by linarith), abs_of_nonneg (by linarith)] at least
  linarith

/-- What is nearest is not below a number of single precision below the exact one. -/
theorem ge
    (nearest : IsNearest exact value)
    (representable : IsRepresentable bound)
    (above : bound ≤ exact) :
    bound ≤ value := by
  have below := nearest.neg.le representable.neg (neg_le_neg above)
  linarith

/-- Rounding keeps the order of different numbers. -/
theorem le_of_lt
    {other rounded : Rat}
    (nearest : IsNearest exact value)
    (otherNearest : IsNearest other rounded)
    (below : exact < other) :
    value ≤ rounded := by
  by_contra above
  have least := nearest.least otherNearest.representable
  have otherLeast := otherNearest.least nearest.representable
  -- The middle of the two roundings would part the exact numbers in the wrong order.
  have middle_le : value + rounded ≤ 2 * exact := by
    by_contra beyond
    have closer : |rounded - exact| < value - exact := abs_lt.mpr ⟨by linarith, by linarith⟩
    linarith [le_abs_self (value - exact)]
  have le_middle : 2 * other ≤ value + rounded := by
    by_contra beyond
    have closer : |value - other| < other - rounded := abs_lt.mpr ⟨by linarith, by linarith⟩
    linarith [neg_abs_le (rounded - other)]
  linarith

/-- A number that needs no rounding is its only rounding. -/
theorem eq_of_representable
    (nearest : IsNearest exact value)
    (representable : IsRepresentable exact) :
    value = exact :=
  le_antisymm (nearest.le representable le_rfl) (nearest.ge representable le_rfl)

/-- Rounding does not lead further from zero than a bound that can be represented. -/
theorem abs_le_of_abs_le
    (nearest : IsNearest exact value)
    (representable : IsRepresentable bound)
    (small : |exact| ≤ bound) :
    |value| ≤ bound :=
  abs_le.mpr
    ⟨nearest.ge representable.neg (neg_le_of_abs_le small),
      nearest.le representable (le_of_abs_le small)⟩

/-- Rounding leads at most half a unit away, if so many units reach up to the number. -/
theorem abs_error_le
    {exponent : Int}
    (nearest : IsNearest exact value)
    (low : -149 ≤ exponent)
    (inReach : |exact| ≤ 2 ^ 24 * 2 ^ exponent) :
    |value - exact| ≤ 2 ^ exponent / 2 := by
  have unit_pos : (0 : Rat) < 2 ^ exponent := zpow_pos (by norm_num) _
  have scaled : |exact / 2 ^ exponent| ≤ 2 ^ 24 := by
    rw [abs_div, abs_of_pos unit_pos]
    exact (div_le_iff₀ unit_pos).mpr inReach
  have close := abs_sub_round (exact / 2 ^ exponent)
  have small : |round (exact / 2 ^ exponent)| ≤ 2 ^ 24 := by
    have triangle := abs_sub_abs_le_abs_sub ((round (exact / 2 ^ exponent) : Int) : Rat)
      (exact / 2 ^ exponent)
    rw [abs_sub_comm] at triangle
    have below : ((|round (exact / 2 ^ exponent)| : Int) : Rat) < (2 ^ 24 + 1 : Int) := by
      push_cast
      linarith
    exact Int.lt_add_one_iff.mp (by exact_mod_cast below)
  calc
    |value - exact|
      ≤ |(round (exact / 2 ^ exponent) : Rat) * 2 ^ exponent - exact| :=
        nearest.least ⟨_, exponent, small, low, rfl⟩
    _ = |exact / 2 ^ exponent - round (exact / 2 ^ exponent)| * 2 ^ exponent := by
        rw [abs_sub_comm, ← abs_of_pos unit_pos, ← abs_mul, abs_of_pos unit_pos, sub_mul,
          div_mul_cancel₀ _ unit_pos.ne']
    _ ≤ 1 / 2 * 2 ^ exponent := mul_le_mul_of_nonneg_right close unit_pos.le
    _ = 2 ^ exponent / 2 := by ring

/-- Above the finest numbers, rounding leads away by at most a part in `2 ^ 24`. -/
theorem abs_error_le_of_large
    (nearest : IsNearest exact value)
    (large : 2 ^ (-126 : Int) ≤ |exact|) :
    |value - exact| ≤ |exact| / 2 ^ 24 := by
  have positive : 0 < |exact| := (zpow_pos (by norm_num) _).trans_le large
  obtain ⟨exponent, above, below⟩ := exists_mem_Ico_zpow positive (show (1 : Rat) < 2 by norm_num)
  have low : -126 ≤ exponent := by
    have less := (zpow_lt_zpow_iff_right₀ (by norm_num)).mp (large.trans_lt below)
    omega
  have near := nearest.abs_error_le (show -149 ≤ exponent - 23 by omega) ?_
  · refine near.trans ?_
    rw [le_div_iff₀ (by norm_num)]
    refine le_of_eq_of_le ?_ above
    rw [zpow_sub₀ (by norm_num)]
    norm_num
    ring
  · refine below.le.trans_eq ?_
    rw [zpow_sub₀ (by norm_num), zpow_add_one₀ (by norm_num)]
    norm_num
    ring

/-- Rounding leads away by a part in `2 ^ 24`, or by half of the finest unit. -/
theorem abs_error_le_relative
    (nearest : IsNearest exact value) :
    |value - exact| ≤ |exact| / 2 ^ 24 + 1 / 2 ^ 150 := by
  rcases le_total (2 ^ (-126 : Int)) |exact| with large | small
  · exact (nearest.abs_error_le_of_large large).trans (le_add_of_nonneg_right (by positivity))
  · refine (nearest.abs_error_le (le_refl (-149)) (small.trans (by norm_num))).trans ?_
    refine le_add_of_nonneg_of_le (by positivity) (by norm_num)

/-- A sum is rounded by at most a part in `2 ^ 24`, however small it is. -/
theorem abs_error_le_of_add
    {first second : Rat}
    (nearest : IsNearest (first + second) value)
    (firstRepresentable : IsRepresentable first)
    (secondRepresentable : IsRepresentable second) :
    |value - (first + second)| ≤ |first + second| / 2 ^ 24 := by
  rcases le_total (2 ^ (-126 : Int)) |first + second| with large | small
  · exact nearest.abs_error_le_of_large large
  · have representable : IsRepresentable (first + second) :=
      isRepresentable_add_of_small firstRepresentable secondRepresentable small
    rw [nearest.eq_of_representable representable, sub_self, abs_zero]
    positivity

/-- A sum is not larger than its first term if the second one is far smaller. -/
theorem le_of_absorbed
    {first second : Rat}
    (nearest : IsNearest (first + second) value)
    (representable : IsRepresentable first)
    (nonneg : 0 ≤ second)
    (tiny : 2 ^ 25 * second < first) :
    value ≤ first := by
  by_contra above
  have apart := representable.add_le_of_lt nearest.representable (not_le.mp above)
  have least := nearest.least representable
  rw [abs_of_nonneg (by linarith), abs_of_nonpos (by linarith)] at least
  linarith

/-- What rounds to at most a bound is at most twice the bound. -/
theorem exact_le_double
    (nearest : IsNearest exact value)
    (representable : IsRepresentable bound)
    (positive : 0 < bound)
    (below : value ≤ bound) :
    exact ≤ 2 * bound := by
  by_contra above
  have large := nearest.ge representable.double (not_le.mp above).le
  linarith

end IsNearest

/-- A whole number at most a half from the exact one is the nearest whole number. -/
theorem close_le_of_whole
    {exact : Rat}
    {mantissa : Int}
    (close : |mantissa - exact| ≤ 1 / 2)
    (whole : Int) :
    |mantissa - exact| ≤ |whole - exact| := by
  by_cases same : whole = mantissa
  · rw [same]
  · have apart : (1 : Rat) ≤ |(whole : Rat) - mantissa| := by
      exact_mod_cast Int.one_le_abs (sub_ne_zero.mpr same)
    have triangle := abs_sub_le (whole : Rat) exact mantissa
    rw [abs_sub_comm exact] at triangle
    linarith

/-- It is nearer than any number that a whole number keeps apart from the exact one. -/
theorem close_le_of_inside
    {exact value : Rat}
    {mantissa edge : Int}
    (close : |mantissa - exact| ≤ 1 / 2)
    (inside : |value| ≤ edge)
    (outside : edge ≤ |exact|) :
    |mantissa - exact| ≤ |value - exact| := by
  rcases le_total 0 exact with nonneg | nonpos
  · rw [abs_of_nonneg nonneg] at outside
    calc
      |mantissa - exact|
        ≤ |edge - exact| := close_le_of_whole close edge
      _ = exact - edge := by rw [abs_sub_comm, abs_of_nonneg (by linarith)]
      _ ≤ exact - value := by linarith [le_of_abs_le inside]
      _ ≤ |value - exact| := by rw [abs_sub_comm]; exact le_abs_self _
  · rw [abs_of_nonpos nonpos] at outside
    calc
      |mantissa - exact|
        ≤ |((-edge : Int) : Rat) - exact| := close_le_of_whole close (-edge)
      _ = -edge - exact := by rw [Int.cast_neg, abs_of_nonneg (by linarith)]
      _ ≤ value - exact := by linarith [neg_le_of_abs_le inside]
      _ ≤ |value - exact| := le_abs_self _

/--
A whole number at most a half from the exact one, on the grid of a power of two, is the
nearest number of single precision, if no finer grid reaches up to the exact number.
-/
theorem isNearest_of_close
    {exact : Rat}
    {mantissa exponent : Int}
    (low : -149 ≤ exponent)
    (small : |mantissa| ≤ 2 ^ 24)
    (close : |mantissa - exact| ≤ 1 / 2)
    (coarse : exponent = -149 ∨ 2 ^ 23 ≤ |exact|) :
    IsNearest (exact * 2 ^ exponent) (mantissa * 2 ^ exponent) := by
  refine ⟨⟨mantissa, exponent, small, low, rfl⟩, ?_⟩
  rintro _ ⟨digits, scale, fewDigits, lowScale, rfl⟩
  suffices least : |mantissa - exact| ≤ |digits * 2 ^ (scale - exponent) - exact| by
    have other_eq :
        (digits : Rat) * 2 ^ scale = digits * 2 ^ (scale - exponent) * 2 ^ exponent := by
      rw [mul_assoc, ← zpow_add₀ (by norm_num), sub_add_cancel]
    rw [other_eq, ← sub_mul, ← sub_mul, abs_mul, abs_mul]
    exact mul_le_mul_of_nonneg_right least (abs_nonneg _)
  by_cases finer : scale < exponent
  · -- A number of a finer grid lies between zero and the first number with all bits.
    have enough : ((2 ^ 23 : Int) : Rat) ≤ |exact| := by
      exact_mod_cast coarse.resolve_left (by omega)
    refine close_le_of_inside close ?_ enough
    rw [abs_mul, abs_of_pos (zpow_pos (show (0 : Rat) < 2 by norm_num) (scale - exponent))]
    calc
      |(digits : Rat)| * 2 ^ (scale - exponent)
        ≤ 2 ^ 24 * 2 ^ (-1 : Int) :=
          mul_le_mul (by exact_mod_cast fewDigits)
            (zpow_le_zpow_right₀ (by norm_num) (by omega))
            (zpow_nonneg (by norm_num) _) (by norm_num)
      _ = ((2 ^ 23 : Int) : Rat) := by norm_num
  · obtain ⟨steps, same⟩ := Int.eq_ofNat_of_zero_le (sub_nonneg.mpr (not_lt.mp finer))
    rw [same, zpow_natCast]
    exact_mod_cast close_le_of_whole close (digits * 2 ^ steps)

/-- A mantissa with its two rest bits stands for a number. -/
def Represents (extended : ExtendedMantissa) (exact : Rat) : Prop :=
  match extended.accuracy with
  | .exact => exact = extended.mantissa
  | .inexact .lt => extended.mantissa < exact ∧ exact < extended.mantissa + 1 / 2
  | .inexact .eq => exact = extended.mantissa + 1 / 2
  | .inexact .gt => extended.mantissa + 1 / 2 < exact ∧ exact < extended.mantissa + 1

namespace Represents

variable {extended : ExtendedMantissa} {exact : Rat}

/-- A mantissa without accuracy lost stands for itself. -/
theorem of_exact
    (mantissa : Nat) :
    Represents (.ofMantissaAndAccuracy mantissa .exact) mantissa :=
  rfl

/-- The bits of a quotient stand for the fraction. -/
theorem of_fraction
    {numerator denominator : Nat}
    (positive : 0 < denominator) :
    Represents
      (.ofMantissaAndAccuracy (numerator / denominator)
        (Float.Model.UnpackedFloat.accuracyOfFraction (numerator % denominator) denominator))
      (numerator / denominator : Rat) := by
  have positiveRat : (0 : Rat) < denominator := by exact_mod_cast positive
  have remainder : ((numerator % denominator : Nat) : Rat) < denominator := by
    exact_mod_cast Nat.mod_lt numerator positive
  have fraction :
      (numerator / denominator : Rat) =
        (numerator / denominator : Nat) + (numerator % denominator : Nat) / denominator := by
    rw [div_eq_iff positiveRat.ne', add_mul, div_mul_cancel₀ _ positiveRat.ne']
    exact_mod_cast (Nat.div_add_mod' numerator denominator).symm
  rw [fraction, Float.Model.UnpackedFloat.accuracyOfFraction]
  generalize numerator % denominator = rest at *
  split
  · rename_i isZero
    rw [isZero, Nat.cast_zero, zero_div, add_zero]
    rfl
  · rename_i notZero
    have restPositive : (0 : Rat) < rest / denominator :=
      div_pos (by exact_mod_cast Nat.pos_of_ne_zero notZero) positiveRat
    have restBelow : (rest : Rat) / denominator < 1 := (div_lt_one positiveRat).mpr remainder
    rcases lt_trichotomy (2 * rest) denominator with below | same | above
    · rw [Nat.compare_eq_lt.mpr below]
      have half : (rest : Rat) / denominator < 1 / 2 := by
        rw [div_lt_div_iff₀ positiveRat (by norm_num), one_mul, mul_comm]
        exact_mod_cast below
      change _ < _ ∧ _ < _
      constructor <;> dsimp only [ExtendedMantissa.ofMantissaAndAccuracy] <;> linarith
    · rw [Nat.compare_eq_eq.mpr same]
      have half : (rest : Rat) / denominator = 1 / 2 := by
        rw [div_eq_div_iff positiveRat.ne' (by norm_num), one_mul, mul_comm]
        exact_mod_cast same
      rw [half]
      rfl
    · rw [Nat.compare_eq_gt.mpr above]
      have half : 1 / 2 < (rest : Rat) / denominator := by
        rw [div_lt_div_iff₀ (by norm_num) positiveRat, one_mul, mul_comm]
        exact_mod_cast above
      change _ < _ ∧ _ < _
      constructor <;> dsimp only [ExtendedMantissa.ofMantissaAndAccuracy] <;> linarith

/-- A mantissa is less than one below the exact number. -/
theorem bounds
    (represents : Represents extended exact) :
    extended.mantissa ≤ exact ∧ exact < extended.mantissa + 1 := by
  obtain ⟨mantissa, roundBit, stickyBit⟩ := extended
  cases roundBit <;> cases stickyBit <;>
    simp only [Represents, ExtendedMantissa.accuracy] at represents ⊢ <;>
      constructor <;> linarith

/-- Shifting by one bit halves the exact number. -/
theorem shiftRightOne
    (represents : Represents extended exact) :
    Represents extended.shiftRightOne (exact / 2) := by
  obtain ⟨mantissa, roundBit, stickyBit⟩ := extended
  have parts : (mantissa : Rat) = (mantissa % 2 : Nat) + 2 * (mantissa / 2 : Nat) := by
    exact_mod_cast (Nat.mod_add_div mantissa 2).symm
  rcases Nat.mod_two_eq_zero_or_one mantissa with last | last <;> rw [last] at parts <;>
    cases roundBit <;> cases stickyBit <;>
      simp [Represents, ExtendedMantissa.shiftRightOne, ExtendedMantissa.accuracy, last]
        at represents ⊢ <;>
        push_cast at parts <;> first | linarith | (constructor <;> linarith)

/-- Shifting to the right divides the number by a power of two. -/
theorem shiftRight
    (represents : Represents extended exact)
    (count : Nat) :
    Represents (extended >>> count) (exact / 2 ^ count) := by
  change Represents (count.repeat ExtendedMantissa.shiftRightOne extended) _
  induction count with
  | zero =>
      simpa [Nat.repeat] using represents
  | succ count inductionHypothesis =>
      rw [Nat.repeat, pow_succ, ← div_div]
      exact inductionHypothesis.shiftRightOne

/-- The rounded mantissa is at most a half from the number. -/
theorem close
    (represents : Represents extended exact) :
    |(extended.roundedMantissa : Rat) - exact| ≤ 1 / 2 := by
  obtain ⟨mantissa, roundBit, stickyBit⟩ := extended
  rw [abs_le]
  cases roundBit <;> cases stickyBit <;>
    simp only [Represents, ExtendedMantissa.roundedMantissa, ExtendedMantissa.accuracy,
      Accuracy.roundToNearestEven] at represents ⊢
  case true.false =>
    rcases Nat.mod_two_eq_zero_or_one mantissa with last | last <;> rw [last] <;>
      push_cast <;> constructor <;> linarith
  all_goals push_cast
  all_goals constructor <;> linarith

end Represents

end Single

end BoxDiagram
