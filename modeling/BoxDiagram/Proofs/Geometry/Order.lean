import BoxDiagram.Proofs.Geometry.Bounds
import Mathlib.Order.Interval.Set.UnorderedInterval

namespace BoxDiagram

/-!
# Ranges in order

Going in one of the four directions of the canvas, ranges of coordinates along its axis
come one after the other.  A single coordinate is the range from it to itself.  A segment
whose ends both stop short of a range, seen from one side of it, stays out of that range.
The way from one range to another one over a line between the two is no longer than without
the line; over a line beyond both it is a detour.
-/

namespace Bounds

/-- One range of coordinates lies in another one. -/
def RangeIn (inner outer : Rat × Rat) : Prop :=
  outer.1 ≤ inner.1 ∧ inner.1 ≤ inner.2 ∧ inner.2 ≤ outer.2

/-- A coordinate lies in the interior of a range. -/
def IsAmid (line : Rat) (range : Rat × Rat) : Prop :=
  range.1 < line ∧ line < range.2

/-- A line is in a range if it is between its ends. -/
theorem rangeIn_line_iff
    {line : Rat}
    {range : Rat × Rat} :
    RangeIn (line, line) range ↔ range.1 ≤ line ∧ line ≤ range.2 :=
  ⟨fun isIn => ⟨isIn.1, isIn.2.2⟩, fun isIn => ⟨isIn.1, le_rfl, isIn.2⟩⟩

/-- A range in a range is in those around it. -/
theorem RangeIn.trans
    {inner between outer : Rat × Rat}
    (isInner : RangeIn inner between)
    (isBetween : RangeIn between outer) :
    RangeIn inner outer :=
  ⟨isBetween.1.trans isInner.1, isInner.2.1, isInner.2.2.trans isBetween.2.2⟩

/-- What lies amid a range lies amid every wider one. -/
theorem IsAmid.mono
    {line : Rat}
    {inner outer : Rat × Rat}
    (isAmid : IsAmid line inner)
    (isIn : RangeIn inner outer) :
    IsAmid line outer :=
  ⟨isIn.1.trans_lt isAmid.1, isAmid.2.trans_le isIn.2.2⟩

end Bounds

open Bounds (RangeIn IsAmid)

namespace Direction

variable {direction : Direction} {first second : Rat × Rat}

/-- Going in a direction, one range ends where another one starts, or earlier. -/
def Orders (direction : Direction) (first second : Rat × Rat) : Prop :=
  if direction.isReversed then second.2 ≤ first.1 else first.2 ≤ second.1

/-- Against a direction, order is reversed. -/
@[simp] theorem orders_reverse :
    direction.reverse.Orders first second ↔ direction.Orders second first := by
  cases direction <;> rfl

namespace Orders

/-- Parts of ranges in order are in order. -/
theorem mono
    {earlier later : Rat × Rat}
    (ordered : direction.Orders first second)
    (isEarlier : RangeIn earlier first)
    (isLater : RangeIn later second) :
    direction.Orders earlier later := by
  cases isReversed : direction.isReversed with
  | false =>
      simp only [Orders, isReversed, Bool.false_eq_true, if_false] at ordered ⊢
      exact isEarlier.2.2.trans (ordered.trans isLater.1)
  | true =>
      simp only [Orders, isReversed, if_true] at ordered ⊢
      exact isLater.2.2.trans (ordered.trans isEarlier.1)

/-- A line before a range is not amid it. -/
theorem not_isAmid
    {line : Rat}
    (ordered : direction.Orders (line, line) second) :
    ¬ IsAmid line second := by
  intro isAmid
  rw [Orders] at ordered
  split at ordered
  · exact absurd isAmid.2 ordered.not_gt
  · exact absurd isAmid.1 ordered.not_gt

/-- A line after a range is not amid it. -/
theorem not_isAmid_of_after
    {line : Rat}
    (ordered : direction.Orders first (line, line)) :
    ¬ IsAmid line first :=
  (orders_reverse.mpr ordered).not_isAmid

/-- A segment whose ends both come after a range stays out of it. -/
theorem not_isAmid_of_mem_uIcc
    {start finish line : Rat}
    (startAfter : direction.Orders first (start, start))
    (finishAfter : direction.Orders first (finish, finish))
    (isBetween : line ∈ Set.uIcc start finish) :
    ¬ IsAmid line first := by
  intro isAmid
  obtain ⟨least, greatest⟩ := Set.mem_Icc.mp isBetween
  cases isReversed : direction.isReversed with
  | false =>
      simp only [Orders, isReversed, Bool.false_eq_true, if_false] at startAfter finishAfter
      exact absurd ((le_inf startAfter finishAfter).trans least) isAmid.2.not_ge
  | true =>
      simp only [Orders, isReversed, if_true] at startAfter finishAfter
      exact absurd (greatest.trans (sup_le startAfter finishAfter)) isAmid.1.not_ge

/-- What is ordered one after another is ordered. -/
theorem trans
    {third : Rat × Rat}
    (firstOrdered : direction.Orders first second)
    (secondOrdered : direction.Orders second third)
    (ordered : second.1 ≤ second.2) :
    direction.Orders first third := by
  cases isReversed : direction.isReversed with
  | false =>
      simp only [Orders, isReversed, Bool.false_eq_true, if_false] at *
      exact firstOrdered.trans (ordered.trans secondOrdered)
  | true =>
      simp only [Orders, isReversed, if_true] at *
      exact secondOrdered.trans (ordered.trans firstOrdered)

/-- A way over a line that lies between two ranges is no detour. -/
theorem abs_add_abs_of_between
    {start finish line : Rat}
    (startAmid : IsAmid start first)
    (finishAmid : IsAmid finish second)
    (afterFirst : direction.Orders first (line, line))
    (beforeSecond : direction.Orders (line, line) second) :
    |start - line| + |line - finish| = |start - finish| := by
  obtain ⟨startLeast, startGreatest⟩ := startAmid
  obtain ⟨finishLeast, finishGreatest⟩ := finishAmid
  cases isReversed : direction.isReversed with
  | false =>
      simp only [Orders, isReversed, Bool.false_eq_true, if_false] at afterFirst beforeSecond
      rw [abs_of_neg (by linarith), abs_of_neg (by linarith), abs_of_neg (by linarith)]
      ring
  | true =>
      simp only [Orders, isReversed, if_true] at afterFirst beforeSecond
      rw [abs_of_pos (by linarith), abs_of_pos (by linarith), abs_of_pos (by linarith)]
      ring

/-- A way over a line that lies beyond two ranges is a detour. -/
theorem abs_lt_of_beyond
    {start finish line : Rat}
    (startAmid : IsAmid start first)
    (finishAmid : IsAmid finish second)
    (afterFirst : direction.Orders first (line, line))
    (afterSecond : direction.Orders second (line, line)) :
    |start - finish| < |start - line| + |line - finish| := by
  obtain ⟨startLeast, startGreatest⟩ := startAmid
  obtain ⟨finishLeast, finishGreatest⟩ := finishAmid
  cases isReversed : direction.isReversed with
  | false =>
      simp only [Orders, isReversed, Bool.false_eq_true, if_false] at afterFirst afterSecond
      rw [abs_of_neg (show start - line < 0 by linarith),
        abs_of_pos (show 0 < line - finish by linarith), abs_lt]
      constructor <;> linarith
  | true =>
      simp only [Orders, isReversed, if_true] at afterFirst afterSecond
      rw [abs_of_pos (show 0 < start - line by linarith),
        abs_of_neg (show line - finish < 0 by linarith), abs_lt]
      constructor <;> linarith

end Orders

end Direction

namespace Bounds

/-- A coordinate does not pass, into a range, the side that faces another range beside it. -/
def StopsShort (beside range : Rat × Rat) (line : Rat) : Prop :=
  ∃ direction : Direction,
    direction.Orders beside range ∧ direction.Orders (line, line) range

namespace StopsShort

variable {beside range : Rat × Rat} {line : Rat}

/-- A line that a range stops short of is not amid it. -/
theorem not_isAmid
    (stops : StopsShort beside range line) :
    ¬ IsAmid line range :=
  stops.choose_spec.2.not_isAmid

/-- A segment whose ends both stop short of a range does not get into it. -/
theorem not_isAmid_of_mem_uIcc
    {start finish : Rat}
    (ordered : beside.1 ≤ beside.2)
    (startStops : StopsShort beside range start)
    (finishStops : StopsShort beside range finish)
    (isBetween : line ∈ Set.uIcc start finish) :
    ¬ IsAmid line range := by
  obtain ⟨startWay, besideBefore, startBefore⟩ := startStops
  obtain ⟨finishWay, besideBehind, finishBefore⟩ := finishStops
  obtain ⟨least, greatest⟩ := Set.mem_Icc.mp isBetween
  rintro ⟨afterStart, beforeEnd⟩
  simp only [Direction.Orders] at besideBefore startBefore besideBehind finishBefore
  cases startReversed : startWay.isReversed <;> cases finishReversed : finishWay.isReversed <;>
    simp only [startReversed, finishReversed, Bool.false_eq_true, if_false, if_true] at *
  · exact absurd (greatest.trans (sup_le startBefore finishBefore)) afterStart.not_ge
  -- Ends on different sides leave the range no interior.
  · linarith
  · linarith
  · exact absurd ((le_inf startBefore finishBefore).trans least) beforeEnd.not_ge

end StopsShort

end Bounds

namespace Point

/-- A point lies on the straight segment between two points. -/
def IsOnSegment (start finish point : Point Rat) : Prop :=
  ∃ share : Rat, 0 ≤ share ∧ share ≤ 1 ∧
    ∀ axis, point.along axis = start.along axis + share * (finish.along axis - start.along axis)

/-- A segment has the same points from either end. -/
theorem IsOnSegment.symm
    {start finish point : Point Rat}
    (isOn : IsOnSegment start finish point) :
    IsOnSegment finish start point := by
  obtain ⟨share, least, greatest, isShare⟩ := isOn
  refine ⟨1 - share, by linarith, by linarith, fun axis => ?_⟩
  rw [isShare axis]
  ring

/-- The coordinates of a point of a segment are between those of its ends. -/
theorem IsOnSegment.mem_uIcc
    {start finish point : Point Rat}
    (isOn : IsOnSegment start finish point)
    (axis : Axis) :
    point.along axis ∈ Set.uIcc (start.along axis) (finish.along axis) := by
  obtain ⟨share, least, greatest, isShare⟩ := isOn
  rw [isShare axis, Set.mem_uIcc]
  rcases le_total (start.along axis) (finish.along axis) with forward | backward
  · left
    constructor <;> nlinarith
  · right
    constructor <;> nlinarith

/-- A coordinate that the ends of a segment share is that of all of its points. -/
theorem IsOnSegment.along_eq
    {start finish point : Point Rat}
    {axis : Axis}
    (isOn : IsOnSegment start finish point)
    (same : finish.along axis = start.along axis) :
    point.along axis = start.along axis := by
  obtain ⟨share, _, _, isShare⟩ := isOn
  rw [isShare axis, same, sub_self, mul_zero, add_zero]

end Point

end BoxDiagram
