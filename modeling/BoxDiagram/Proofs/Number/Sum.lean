import BoxDiagram.Proofs.Number.Bounded
import Mathlib.Algebra.Order.BigOperators.Group.List
import Mathlib.Data.List.Perm.Subperm

namespace BoxDiagram

/-!
# Sums in another order

The terms of a rounded sum may have another sum in another order, and parts of them may
have a larger one.  But each step loses no more than a part in `2 ^ 24`, and a sum that is
far larger than its terms does not grow any more.  So a sum of some of the terms, in any
order, exceeds the rounded sum of all of them at most by a small part for each term.
-/

namespace Single

/-- The sum of numbers, exactly. -/
def total (numbers : List Float32) : Rat :=
  (numbers.map value).sum

/-- The terms that are not small compared to a room. -/
def largeTerms (room : Rat) (numbers : List Float32) : List Float32 :=
  numbers.filter fun number => room / 2 ^ 22 ≤ value number

variable
  {room : Rat}
  {numbers parts : List Float32}
  {number first second start : Float32}

@[simp] theorem total_nil :
    total [] = 0 :=
  rfl

@[simp] theorem total_cons
    (number : Float32)
    (numbers : List Float32) :
    total (number :: numbers) = value number + total numbers :=
  rfl

theorem total_append
    (numbers others : List Float32) :
    total (numbers ++ others) = total numbers + total others := by
  rw [total, List.map_append, List.sum_append]
  rfl

/-- Measures do not add up to less than zero. -/
theorem total_nonneg
    (measures : ∀ number ∈ numbers, IsMeasure number) :
    0 ≤ total numbers :=
  List.sum_nonneg (List.forall_mem_map.mpr fun number member => (measures number member).nonneg)

/-- Some of the terms have no larger sum than all of them. -/
theorem total_le_of_subperm
    (subperm : numbers.Subperm parts)
    (measures : ∀ number ∈ parts, IsMeasure number) :
    total numbers ≤ total parts := by
  obtain ⟨others, perm, sublist⟩ := subperm
  calc
    total numbers
      = total others := (perm.map value).sum_eq.symm
    _ ≤ total parts :=
      (sublist.map value).sum_le_sum
        (List.forall_mem_map.mpr fun number member => (measures number member).nonneg)

/-- Some of the terms have some of the large terms. -/
theorem largeTerms_subperm
    (room : Rat)
    (subperm : numbers.Subperm parts) :
    (largeTerms room numbers).Subperm (largeTerms room parts) :=
  subperm.filter _

/-- Zero is a measure. -/
theorem isMeasure_zero :
    IsMeasure (Scalar.zero : Float32) :=
  ⟨isFinite_zero, value_zero.ge⟩

/-- A sum of measures is a measure, and off by at most a part in `2 ^ 24`. -/
theorem IsMeasure.add
    (firstMeasure : IsMeasure first)
    (secondMeasure : IsMeasure second)
    (small : value first + value second ≤ 2 ^ 127) :
    IsMeasure (first + second) ∧
      value (first + second) ≤
        value first + value second + (value first + value second) / 2 ^ 24 := by
  have nonneg := add_nonneg firstMeasure.nonneg secondMeasure.nonneg
  have rounds := rounds_add firstMeasure.isFinite secondMeasure.isFinite
  have isFinite := rounds.isFinite
    ((abs_of_nonneg nonneg).trans_le (small.trans (by norm_num)))
  have nearest := rounds.nearest isFinite
  have error := nearest.abs_error_le_of_add (isRepresentable_value firstMeasure.isFinite)
    (isRepresentable_value secondMeasure.isFinite)
  rw [abs_of_nonneg nonneg] at error
  exact ⟨⟨isFinite, nearest.ge isRepresentable_zero nonneg⟩, by linarith [le_of_abs_le error]⟩

section Measured

/-- What is lost in one step is a part of the rounded sum. -/
theorem add_le_of_isUpTo
    (firstMeasure : IsMeasure first)
    (secondMeasure : IsMeasure second)
    (upTo : IsUpTo room (first + second)) :
    value first + value second ≤ value (first + second) + room / 2 ^ 23 := by
  have nonneg := add_nonneg firstMeasure.nonneg secondMeasure.nonneg
  have nearest := (rounds_add firstMeasure.isFinite secondMeasure.isFinite).nearest upTo.isFinite
  have error := nearest.abs_error_le_of_add (isRepresentable_value firstMeasure.isFinite)
    (isRepresentable_value secondMeasure.isFinite)
  rw [abs_of_nonneg nonneg] at error
  linarith [neg_le_of_abs_le error, upTo.le, upTo.nonneg]

/-- A step of a rounded sum that has a bound has this bound. -/
theorem isUpTo_step
    (startMeasure : IsMeasure start)
    (measures : ∀ other ∈ number :: numbers, IsMeasure other)
    (upTo : IsUpTo room ((number :: numbers).foldl (· + ·) start)) :
    IsUpTo room (start + number) :=
  (IsUpTo.of_foldl IsExtent.add IsUpTo.of_add
    (startMeasure.isExtent.add (measures number List.mem_cons_self).isExtent)
    (fun other member => (measures other (List.mem_cons_of_mem _ member)).isExtent) upTo).1

/-- The exact sum exceeds the rounded one at most by a small part for each term. -/
theorem add_total_le
    (startMeasure : IsMeasure start)
    (measures : ∀ number ∈ numbers, IsMeasure number)
    (upTo : IsUpTo room (numbers.foldl (· + ·) start)) :
    value start + total numbers ≤
      value (numbers.foldl (· + ·) start) + numbers.length * (room / 2 ^ 23) := by
  induction numbers generalizing start with
  | nil => simp
  | cons number rest inductionHypothesis =>
      have step := isUpTo_step startMeasure measures upTo
      rw [List.forall_mem_cons] at measures
      have grown := add_le_of_isUpTo startMeasure measures.1 step
      have later := inductionHypothesis ⟨step.isFinite, step.nonneg⟩ measures.2 upTo
      rw [List.foldl_cons, total_cons, List.length_cons, Nat.cast_add_one]
      linarith

/-- Large terms are not lost: a rounded sum grows at least by half of each of them. -/
theorem add_half_largeTerms_le
    (startMeasure : IsMeasure start)
    (measures : ∀ number ∈ numbers, IsMeasure number)
    (upTo : IsUpTo room (numbers.foldl (· + ·) start)) :
    value start + total (largeTerms room numbers) / 2 ≤
      value (numbers.foldl (· + ·) start) := by
  induction numbers generalizing start with
  | nil => simp [largeTerms]
  | cons number rest inductionHypothesis =>
      have step := isUpTo_step startMeasure measures upTo
      rw [List.forall_mem_cons] at measures
      have grown := add_le_of_isUpTo startMeasure measures.1 step
      have kept : value start ≤ value (start + number) :=
        ((rounds_add startMeasure.isFinite measures.1.isFinite).nearest step.isFinite).ge
          (isRepresentable_value startMeasure.isFinite)
          (le_add_of_nonneg_right measures.1.nonneg)
      have later := inductionHypothesis ⟨step.isFinite, step.nonneg⟩ measures.2 upTo
      rw [List.foldl_cons, largeTerms, List.filter_cons]
      split
      · rename_i isLarge
        rw [total_cons]
        rw [largeTerms] at later
        linarith [of_decide_eq_true isLarge]
      · exact (add_le_add_left kept _).trans later

end Measured

section Ordered

theorem sum_concat
    (numbers : List Float32)
    (number : Float32) :
    Scalar.sum (numbers ++ [number]) = Scalar.sum numbers + number := by
  rw [Scalar.sum, List.foldl_append]
  rfl

/-- A rounded sum of few terms exceeds the exact one at most by a small part for each term. -/
theorem sum_le_of_few
    (measures : ∀ number ∈ numbers, IsMeasure number)
    (few : numbers.length ≤ 2 ^ 23)
    (small : total numbers * (1 + numbers.length / 2 ^ 23) ≤ 2 ^ 127) :
    IsMeasure (Scalar.sum numbers) ∧
      value (Scalar.sum numbers) ≤ total numbers * (1 + numbers.length / 2 ^ 23) := by
  induction numbers using List.reverseRecOn with
  | nil => exact ⟨isMeasure_zero, by simp [Scalar.sum, value_zero]⟩
  | append_singleton front last inductionHypothesis =>
      rw [List.forall_mem_append, List.forall_mem_singleton] at measures
      rw [total_append, total_cons, total_nil, add_zero] at small ⊢
      rw [List.length_append, List.length_singleton, Nat.cast_add, Nat.cast_one] at small ⊢
      rw [List.length_append, List.length_singleton] at few
      have count_le : (front.length : Rat) ≤ 2 ^ 23 := by exact_mod_cast (Nat.le_of_succ_le few)
      have count_nonneg : (0 : Rat) ≤ front.length := Nat.cast_nonneg _
      have frontNonneg := total_nonneg measures.1
      have lastNonneg := measures.2.nonneg
      obtain ⟨frontMeasure, front_le⟩ := inductionHypothesis measures.1 (Nat.le_of_succ_le few)
        (by nlinarith)
      have exact_le :
          value (Scalar.sum front) + value last ≤
            (total front + value last) * (1 + front.length / 2 ^ 23) := by
        nlinarith
      have part_le :
          (total front + value last) * (1 + front.length / 2 ^ 23) / 2 ^ 24 ≤
            (total front + value last) / 2 ^ 23 := by
        rw [div_le_div_iff₀ (by norm_num) (by norm_num)]
        nlinarith
      obtain ⟨measure, rounded_le⟩ := frontMeasure.add measures.2 (by nlinarith)
      rw [sum_concat]
      refine ⟨measure, rounded_le.trans ?_⟩
      calc
        value (Scalar.sum front) + value last + (value (Scalar.sum front) + value last) / 2 ^ 24
          ≤ (total front + value last) * (1 + front.length / 2 ^ 23) +
              (total front + value last) * (1 + front.length / 2 ^ 23) / 2 ^ 24 := by
            gcongr
        _ ≤ (total front + value last) * (1 + front.length / 2 ^ 23) +
              (total front + value last) / 2 ^ 23 := by
            gcongr
        _ = (total front + value last) * (1 + (front.length + 1) / 2 ^ 23) := by ring

/--
However many terms there are, a rounded sum stays below a multiple of the room and of the
large terms: once it is far larger than the small ones, they are lost.
-/
theorem sum_le_of_many
    (room_nonneg : 0 ≤ room)
    (upTo : ∀ number ∈ numbers, IsUpTo room number)
    (large_le : total (largeTerms room numbers) ≤ 2 * room)
    (small : 64 * room / 3 ≤ 2 ^ 127) :
    IsMeasure (Scalar.sum numbers) ∧
      value (Scalar.sum numbers) ≤
        81 / 10 * room + 61 / 10 * total (largeTerms room numbers) := by
  induction numbers using List.reverseRecOn with
  | nil => exact ⟨isMeasure_zero, by simpa [Scalar.sum, value_zero, largeTerms] using room_nonneg⟩
  | append_singleton front last inductionHypothesis =>
      rw [List.forall_mem_append, List.forall_mem_singleton] at upTo
      obtain ⟨frontUpTo, lastUpTo⟩ := upTo
      have lastMeasure : IsMeasure last := ⟨lastUpTo.isFinite, lastUpTo.nonneg⟩
      have lastNonneg := lastMeasure.nonneg
      have last_le := lastUpTo.le
      rw [largeTerms, List.filter_append, total_append, ← largeTerms] at large_le ⊢
      rw [sum_concat]
      rcases le_or_gt (room / 2 ^ 22) (value last) with isLarge | isSmall
      · have isTerm : [last].filter (fun number => room / 2 ^ 22 ≤ value number) = [last] := by
          simp [isLarge]
        rw [isTerm, total_cons, total_nil, add_zero] at large_le ⊢
        obtain ⟨frontMeasure, front_le⟩ := inductionHypothesis frontUpTo (by linarith)
        obtain ⟨measure, rounded_le⟩ := frontMeasure.add lastMeasure (by linarith)
        exact ⟨measure, by linarith⟩
      · have noTerm : [last].filter (fun number => room / 2 ^ 22 ≤ value number) = [] := by
          simp [isSmall]
        rw [noTerm, total_nil, add_zero] at large_le ⊢
        obtain ⟨frontMeasure, front_le⟩ := inductionHypothesis frontUpTo large_le
        obtain ⟨measure, rounded_le⟩ := frontMeasure.add lastMeasure (by linarith)
        refine ⟨measure, ?_⟩
        rcases lt_or_ge (value (Scalar.sum front)) (8 * room) with isBelow | isAbove
        · have largeNonneg : 0 ≤ total (largeTerms room front) :=
            total_nonneg fun number member =>
              ⟨(frontUpTo number (List.mem_of_mem_filter member)).isFinite,
                (frontUpTo number (List.mem_of_mem_filter member)).nonneg⟩
          linarith
        · have nearest :=
            (rounds_add frontMeasure.isFinite lastMeasure.isFinite).nearest measure.isFinite
          exact (nearest.le_of_absorbed (isRepresentable_value frontMeasure.isFinite) lastNonneg
            (by linarith)).trans front_le

end Ordered

section Parts

/-- Each term of a rounded sum that has a bound has this bound. -/
theorem isUpTo_of_sum
    (measures : ∀ number ∈ parts, IsMeasure number)
    (upTo : IsUpTo room (Scalar.sum parts)) :
    ∀ number ∈ parts, IsUpTo room number :=
  (IsUpTo.of_foldl IsExtent.add IsUpTo.of_add isMeasure_zero.isExtent
    (fun number member => (measures number member).isExtent) upTo).2

/-- The terms of a rounded sum exceed it at most by a small part for each of them. -/
theorem total_le
    (measures : ∀ number ∈ parts, IsMeasure number)
    (upTo : IsUpTo room (Scalar.sum parts)) :
    total parts ≤ value (Scalar.sum parts) + room * (parts.length / 2 ^ 23) := by
  have grown := add_total_le isMeasure_zero measures upTo
  rw [value_zero, zero_add] at grown
  exact grown.trans_eq (congrArg _ (by ring))

/-- The large terms of a rounded sum exceed it at most twice. -/
theorem total_largeTerms_le
    (measures : ∀ number ∈ parts, IsMeasure number)
    (upTo : IsUpTo room (Scalar.sum parts)) :
    total (largeTerms room parts) ≤ 2 * room := by
  have grown := (add_half_largeTerms_le isMeasure_zero measures upTo).trans upTo.le
  rw [value_zero, zero_add] at grown
  linarith

/-- Of few terms, some exceed the rounded sum of all of them at most by a part for each one. -/
theorem sum_add_le_of_few
    (measures : ∀ number ∈ parts, IsMeasure number)
    (upTo : IsUpTo room (Scalar.sum parts))
    (few : parts.length ≤ 2 ^ 23)
    (small : room + 3 * (room * (parts.length / 2 ^ 23)) ≤ 2 ^ 127)
    (subperm : (numbers ++ [number]).Subperm parts) :
    IsMeasure (Scalar.sum numbers) ∧
      value (Scalar.sum numbers) + value number ≤
        value (Scalar.sum parts) + 3 * (room * (parts.length / 2 ^ 23)) := by
  have eachMeasure : ∀ other ∈ numbers ++ [number], IsMeasure other :=
    fun other member => measures other (subperm.subset member)
  rw [List.forall_mem_append, List.forall_mem_singleton] at eachMeasure
  obtain ⟨frontMeasures, lastMeasure⟩ := eachMeasure
  have count_le := subperm.length_le
  rw [List.length_append, List.length_singleton] at count_le
  have front_le_part : (numbers.length : Rat) / 2 ^ 23 ≤ parts.length / 2 ^ 23 := by
    gcongr
    omega
  have part_le : (parts.length : Rat) / 2 ^ 23 ≤ 1 := by
    rw [div_le_one (by norm_num)]
    exact_mod_cast few
  have exact_le := total_le measures upTo
  have some_le := total_le_of_subperm subperm measures
  have frontNonneg := total_nonneg frontMeasures
  have lastNonneg := lastMeasure.nonneg
  rw [total_append, total_cons, total_nil, add_zero] at some_le
  have part_nonneg : 0 ≤ (parts.length : Rat) / 2 ^ 23 := by positivity
  generalize (parts.length : Rat) / 2 ^ 23 = part at *
  have bound_le :
      (total numbers + value number) * (1 + part) ≤
        value (Scalar.sum parts) + 3 * (room * part) := by
    have sumNonneg := upTo.nonneg
    have sum_le := upTo.le
    nlinarith [mul_nonneg (sumNonneg.trans sum_le) part_nonneg]
  have front_le : total numbers * (1 + numbers.length / 2 ^ 23) ≤ total numbers * (1 + part) := by
    gcongr
  have last_le := mul_nonneg lastNonneg part_nonneg
  obtain ⟨measure, rounded_le⟩ := sum_le_of_few frontMeasures (by omega)
    (by linarith [upTo.le])
  exact ⟨measure, by linarith⟩

/-- Of many terms, some stay below a multiple of the room. -/
theorem sum_add_le_of_many
    (measures : ∀ number ∈ parts, IsMeasure number)
    (upTo : IsUpTo room (Scalar.sum parts))
    (small : 64 * room / 3 ≤ 2 ^ 127)
    (subperm : (numbers ++ [number]).Subperm parts) :
    IsMeasure (Scalar.sum numbers) ∧
      value (Scalar.sum numbers) + value number ≤ 64 * room / 3 := by
  have room_nonneg := upTo.nonneg.trans upTo.le
  have eachUpTo : ∀ other ∈ numbers ++ [number], IsUpTo room other :=
    fun other member => isUpTo_of_sum measures upTo other (subperm.subset member)
  rw [List.forall_mem_append, List.forall_mem_singleton] at eachUpTo
  obtain ⟨frontUpTo, lastUpTo⟩ := eachUpTo
  have front_subperm : numbers.Subperm parts :=
    (List.sublist_append_left numbers [number]).subperm.trans subperm
  have large_le : total (largeTerms room numbers) ≤ 2 * room :=
    (total_le_of_subperm (largeTerms_subperm room front_subperm) fun other member =>
      measures other (List.mem_of_mem_filter member)).trans (total_largeTerms_le measures upTo)
  obtain ⟨measure, rounded_le⟩ := sum_le_of_many room_nonneg frontUpTo large_le small
  exact ⟨measure, by linarith [lastUpTo.le]⟩

/--
Before each of some terms, in any order, the rounded sum and the term together exceed the
rounded sum of all terms at most by a small part of the room for each of these.
-/
theorem sum_add_le
    (measures : ∀ number ∈ parts, IsMeasure number)
    (upTo : IsUpTo room (Scalar.sum parts))
    (small : room + parts.length * (room / (3 * 2 ^ 17)) ≤ 2 ^ 127)
    (subperm : (numbers ++ [number]).Subperm parts) :
    IsMeasure (Scalar.sum numbers) ∧
      value (Scalar.sum numbers) + value number ≤
        value (Scalar.sum parts) + parts.length * (room / (3 * 2 ^ 17)) := by
  have room_nonneg := upTo.nonneg.trans upTo.le
  rcases le_or_gt parts.length (2 ^ 23) with few | many
  · have excess_le :
        3 * (room * (parts.length / 2 ^ 23)) ≤ parts.length * (room / (3 * 2 ^ 17)) := by
      have excess_nonneg : 0 ≤ 3 * (room * (parts.length / 2 ^ 23)) := by positivity
      linarith
    obtain ⟨measure, rounded_le⟩ :=
      sum_add_le_of_few measures upTo few (by linarith) subperm
    exact ⟨measure, by linarith⟩
  · have enough : (2 : Rat) ^ 23 ≤ parts.length := by exact_mod_cast many.le
    have excess_le : 64 * room / 3 ≤ parts.length * (room / (3 * 2 ^ 17)) := by
      calc
        64 * room / 3
          = 2 ^ 23 * (room / (3 * 2 ^ 17)) := by ring
        _ ≤ parts.length * (room / (3 * 2 ^ 17)) := by gcongr
    obtain ⟨measure, rounded_le⟩ :=
      sum_add_le_of_many measures upTo (by linarith) subperm
    exact ⟨measure, by linarith [upTo.nonneg]⟩

end Parts

end Single

end BoxDiagram
