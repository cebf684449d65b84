import BoxDiagram.Frame.Direction

namespace BoxDiagram

/-!
# Coordinate frames

A compass holds the directions, in an enclosing frame, of the main and the cross
axis of a container. The two never lie on one axis, so that taking a
direction into the frame of the compass and out of it are inverse to each other.
-/

/-- The directions of the two axes of a frame. -/
structure Compass where
  main : Direction
  cross : Direction
  crossing : main.axis ≠ cross.axis := by decide
  deriving DecidableEq, Repr

namespace Compass

/-- The canvas: main axis to the right, cross axis downward. -/
def canvas : Compass where
  main := .right
  cross := .down

/-- Left to right, aligned from the top. -/
abbrev row : Compass := canvas

/-- Top to bottom, aligned from the left. -/
def column : Compass where
  main := .down
  cross := .right

/-- Right to left, aligned from the top. -/
def rowReverse : Compass where
  main := .left
  cross := .down

/-- Bottom to top, aligned from the left. -/
def columnReverse : Compass where
  main := .up
  cross := .right

instance : Inhabited Compass := ⟨canvas⟩

/-- A compass with the given directions, unless they lie on one axis. -/
def ofDirections? (first second : Direction) : Option Compass :=
  if crossing : first.axis ≠ second.axis then some ⟨first, second, crossing⟩ else none

/-- Every compass, by the number of its main direction. -/
def all : List Compass :=
  Direction.all.flatMap fun first => first.perpendicular.filterMap (ofDirections? first)

/-- The direction in which an axis runs on the canvas. -/
def axisDirection (compass : Compass) : Axis → Direction
  | .main => compass.main
  | .cross => compass.cross

/-- The direction, in the enclosing frame, of a direction relative to the compass. -/
def absoluteOf (compass : Compass) : Direction → Direction
  | .main => compass.main
  | .cross => compass.cross
  | .mainReverse => compass.main.reverse
  | .crossReverse => compass.cross.reverse

/-- The direction, relative to the compass, of a direction of the enclosing frame. -/
def relativeOf (compass : Compass) (direction : Direction) : Direction :=
  if direction = compass.main then .main
  else if direction = compass.cross then .cross
  else if direction = compass.main.reverse then .mainReverse
  else .crossReverse

/-- A direction on the canvas is told back as the one it was told from. -/
@[simp] theorem relativeOf_absoluteOf (compass : Compass) (direction : Direction) :
    compass.relativeOf (compass.absoluteOf direction) = direction := by
  obtain ⟨first, second, crossing⟩ := compass
  revert crossing
  cases first <;> cases second <;> cases direction <;> decide

/-- A direction of a frame is told back as the one it was told from. -/
@[simp] theorem absoluteOf_relativeOf (compass : Compass) (direction : Direction) :
    compass.absoluteOf (compass.relativeOf direction) = direction := by
  obtain ⟨first, second, crossing⟩ := compass
  revert crossing
  cases first <;> cases second <;> cases direction <;> decide

/-- Directions of crossing axes stay on crossing axes in another frame. -/
theorem relativeOf_crossing (compass : Compass) {first second : Direction}
    (crossing : first.axis ≠ second.axis) :
    (compass.relativeOf first).axis ≠ (compass.relativeOf second).axis := by
  obtain ⟨one, other, perpendicular⟩ := compass
  revert crossing perpendicular
  cases one <;> cases other <;> cases first <;> cases second <;> decide

/-- The four directions: main, cross and their opposites. -/
def full (compass : Compass) : List Direction :=
  Direction.all.map compass.absoluteOf

/-- The frame with its axes exchanged. -/
def swap (compass : Compass) : Compass where
  main := compass.cross
  cross := compass.main
  crossing := compass.crossing.symm

/-- The direction of the compass on the axis of a given direction. -/
def sameAxisAs (compass : Compass) (direction : Direction) : Direction :=
  if compass.main.sameAxis direction then compass.main else compass.cross

/-- The direction of the compass on the axis that a given direction does not lie on. -/
def otherAxisThan (compass : Compass) (direction : Direction) : Direction :=
  if compass.main.sameAxis direction then compass.cross else compass.main

/-- The axis of the compass on which a direction of the enclosing frame lies. -/
def axisOf (compass : Compass) (direction : Direction) : Axis :=
  (compass.relativeOf direction).axis

/-- The axes of an inner frame relative to the compass, both given in one enclosing frame. -/
def mapping (compass inner : Compass) : Compass where
  main := compass.relativeOf inner.main
  cross := compass.relativeOf inner.cross
  crossing := compass.relativeOf_crossing inner.crossing

/-- The given axis runs against the coordinates of the enclosing frame. -/
def isReversed (compass : Compass) (axis : Axis) : Bool :=
  (compass.axisDirection axis).isReversed

/-- The two axes by their names on the canvas. -/
def display (compass : Compass) : String :=
  s!"({compass.main.absoluteName}, {compass.cross.absoluteName})"

end Compass

end BoxDiagram
