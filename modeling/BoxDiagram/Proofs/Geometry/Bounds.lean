import BoxDiagram.Layout.Arrangement
import BoxDiagram.Proofs.Number.Exact

namespace BoxDiagram

/-!
# Rectangles in exact arithmetic

A rectangle is seen by its range along each axis.  One lies inside another one if its
ranges do, and two are apart if their ranges along one axis are.
-/

namespace Insets

variable {α : Type} [Scalar α]

/-- Strips are added side by side. -/
@[simp] theorem side_add
    (first second : Insets α)
    (direction : Direction) :
    (first.add second).side direction = first.side direction + second.side direction := by
  cases direction <;> rfl

/-- No strip is of negative width. -/
def IsMeasured (insets : Insets Rat) : Prop :=
  ∀ direction, 0 ≤ insets.side direction

/-- The two strips along an axis together. -/
def along (insets : Insets Rat) (axis : Axis) : Rat :=
  insets.side axis.forward.reverse + insets.side axis.forward

/-- Strips along an axis add up. -/
@[simp] theorem along_add
    (first second : Insets Rat)
    (axis : Axis) :
    (first.add second).along axis = first.along axis + second.along axis := by
  simp only [along, side_add]
  ring

end Insets

/-- Strips that are measures add up to no less than zero. -/
theorem Insets.IsMeasured.along_nonneg
    {insets : Insets Rat}
    (measured : insets.IsMeasured)
    (axis : Axis) :
    0 ≤ insets.along axis :=
  add_nonneg (measured _) (measured _)

/-- Sums of strips that are measures are measures. -/
theorem Insets.IsMeasured.add
    {first second : Insets Rat}
    (firstMeasured : first.IsMeasured)
    (secondMeasured : second.IsMeasured) :
    (first.add second).IsMeasured := by
  intro direction
  rw [Insets.side_add]
  exact add_nonneg (firstMeasured direction) (secondMeasured direction)

namespace Size

/-- Neither extent is negative. -/
def IsMeasured (size : Size Rat) : Prop :=
  ∀ axis, 0 ≤ size.along axis

@[simp] theorem along_ofAxis
    {α : Type}
    (axis : Axis)
    (forward sideways : α) :
    (ofAxis axis forward sideways).along axis = forward := by
  cases axis <;> rfl

@[simp] theorem along_other_ofAxis
    {α : Type}
    (axis : Axis)
    (forward sideways : α) :
    (ofAxis axis forward sideways).along axis.other = sideways := by
  cases axis <;> rfl

/-- A size grows by both strips along an axis. -/
@[simp] theorem along_pad
    (size : Size Rat)
    (insets : Insets Rat)
    (axis : Axis) :
    (size.pad insets).along axis = size.along axis + insets.along axis := by
  cases axis <;> rfl

end Size

namespace Bounds

variable {inner outer : Bounds Rat}

/-- The extent along an axis. -/
def extent (bounds : Bounds Rat) (axis : Axis) : Rat :=
  (bounds.range axis).2 - (bounds.range axis).1

/-- The rectangle has a given size. -/
def HasSize (bounds : Bounds Rat) (size : Size Rat) : Prop :=
  ∀ axis, bounds.extent axis = size.along axis

/-- One rectangle lies in another one. -/
def IsInside (inner outer : Bounds Rat) : Prop :=
  ∀ axis, (outer.range axis).1 ≤ (inner.range axis).1 ∧
    (inner.range axis).1 ≤ (inner.range axis).2 ∧
      (inner.range axis).2 ≤ (outer.range axis).2

/-- A point lies in the interior of a rectangle. -/
def Surrounds (bounds : Bounds Rat) (point : Point Rat) : Prop :=
  ∀ axis, (bounds.range axis).1 < point.along axis ∧ point.along axis < (bounds.range axis).2

/-- Along one of the axes one rectangle ends where the other one starts, or earlier. -/
def IsApart (first second : Bounds Rat) : Prop :=
  ∃ axis, (first.range axis).2 ≤ (second.range axis).1 ∨
    (second.range axis).2 ≤ (first.range axis).1

/-- The inner rectangle is the outer one without the strips, which leave room for it. -/
def IsShrunk (insets : Insets Rat) (inner outer : Bounds Rat) : Prop :=
  ∀ axis,
    inner.range axis =
        ((outer.range axis).1 + insets.side axis.forward.reverse,
          (outer.range axis).2 - insets.side axis.forward) ∧
      (inner.range axis).1 ≤ (inner.range axis).2

/-- Two rectangles are apart in either order. -/
theorem IsApart.symm
    {first second : Bounds Rat}
    (apart : first.IsApart second) :
    second.IsApart first := by
  obtain ⟨axis, before | after⟩ := apart
  · exact ⟨axis, .inr before⟩
  · exact ⟨axis, .inl after⟩

/-- What is inside of a rectangle is inside of the ones around it. -/
theorem IsInside.trans
    {between : Bounds Rat}
    (isInner : inner.IsInside between)
    (isBetween : between.IsInside outer) :
    inner.IsInside outer := by
  intro axis
  obtain ⟨innerStart, ordered, innerEnd⟩ := isInner axis
  obtain ⟨outerStart, _, outerEnd⟩ := isBetween axis
  exact ⟨outerStart.trans innerStart, ordered, innerEnd.trans outerEnd⟩

/-- A rectangle from a corner on ranges as far as its size leads. -/
theorem range_ofTopLeft
    {α : Type}
    [Scalar α]
    (corner : Point α)
    (size : Size α)
    (axis : Axis) :
    (ofTopLeft corner size).range axis =
      (corner.along axis, corner.along axis + size.along axis) := by
  cases axis <;> rfl

/-- A rectangle from a corner on has the size that was given. -/
theorem hasSize_ofTopLeft
    (corner : Point Rat)
    (size : Size Rat) :
    (ofTopLeft corner size).HasSize size := by
  intro axis
  rw [extent, range_ofTopLeft, add_sub_cancel_left]

@[simp] theorem range_ofRanges
    (axis : Axis)
    (forward sideways : Rat × Rat) :
    (ofRanges axis forward sideways).range axis = forward := by
  cases axis <;> simp [ofRanges, ofTopLeft, range, Point.ofAxis, Size.ofAxis]

@[simp] theorem range_other_ofRanges
    (axis : Axis)
    (forward sideways : Rat × Rat) :
    (ofRanges axis forward sideways).range axis.other = sideways := by
  cases axis <;> simp [ofRanges, ofTopLeft, range, Point.ofAxis, Size.ofAxis, Axis.other]

/-- Strips that leave room are taken away as they are. -/
theorem isShrunk_shrink
    {insets : Insets Rat}
    (fits : ∀ axis, insets.along axis ≤ outer.extent axis) :
    IsShrunk insets (outer.shrink insets) outer := by
  intro axis
  have room := fits axis
  cases axis with
  | main =>
      simp only [Insets.along, extent, range, Insets.side, Axis.forward, Direction.reverse] at room
      have ordered : outer.minX + insets.left ≤ outer.maxX - insets.right := by
        linarith
      simp [shrink, range, Axis.forward, Direction.reverse, Insets.side, ordered]
  | cross =>
      simp only [Insets.along, extent, range, Insets.side, Axis.forward, Direction.reverse] at room
      have ordered : outer.minY + insets.top ≤ outer.maxY - insets.bottom := by
        linarith
      simp [shrink, range, Axis.forward, Direction.reverse, Insets.side, ordered]

namespace IsShrunk

variable {insets : Insets Rat}

/-- A rectangle shrinks by both strips along an axis. -/
theorem extent_eq
    (shrunk : IsShrunk insets inner outer)
    (axis : Axis) :
    inner.extent axis = outer.extent axis - insets.along axis := by
  rw [extent, (shrunk axis).1, extent, Insets.along]
  ring

/-- What is left after strips were taken away lies inside. -/
theorem isInside
    (shrunk : IsShrunk insets inner outer)
    (measured : insets.IsMeasured) :
    inner.IsInside outer := by
  intro axis
  obtain ⟨isRange, ordered⟩ := shrunk axis
  have before := measured axis.forward.reverse
  have after := measured axis.forward
  refine ⟨?_, ordered, ?_⟩
  · rw [isRange]
    exact le_add_of_nonneg_right before
  · rw [isRange]
    exact sub_le_self _ after

end IsShrunk

end Bounds

end BoxDiagram
