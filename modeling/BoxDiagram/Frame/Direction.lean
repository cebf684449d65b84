namespace BoxDiagram

/-!
# Directions and axes

A direction is read in a frame. In the frame of a container it names a side
relative to the container's two axes; in the canvas frame, whose main axis runs
to the right and whose cross axis runs downward, it names an absolute side.
-/

/-- One of the two axes of a frame. -/
inductive Axis where
  | main
  | cross
  deriving Repr, DecidableEq, Inhabited

/-- One of the four directions of a frame, in two opposite pairs. -/
inductive Direction where
  | main
  | cross
  | mainReverse
  | crossReverse
  deriving Repr, DecidableEq, Inhabited

namespace Direction

/-- The main direction of the canvas. -/
@[match_pattern] abbrev right : Direction := .main

/-- The cross direction of the canvas. -/
@[match_pattern] abbrev down : Direction := .cross

/-- Against the main direction of the canvas. -/
@[match_pattern] abbrev left : Direction := .mainReverse

/-- Against the cross direction of the canvas. -/
@[match_pattern] abbrev up : Direction := .crossReverse

/-- All directions, in the order of their numbers. -/
def all : List Direction :=
  [.main, .cross, .mainReverse, .crossReverse]

/-- The number by which texts name a direction. -/
def index : Direction → Nat
  | .main => 0
  | .cross => 1
  | .mainReverse => 2
  | .crossReverse => 3

/-- The direction of a number. -/
def ofIndex? : Nat → Option Direction
  | 0 => some .main
  | 1 => some .cross
  | 2 => some .mainReverse
  | 3 => some .crossReverse
  | _ => none

/-- The opposite direction. -/
def reverse : Direction → Direction
  | .main => .mainReverse
  | .cross => .crossReverse
  | .mainReverse => .main
  | .crossReverse => .cross

/-- The axis on which a direction lies. -/
def axis : Direction → Axis
  | .main | .mainReverse => .main
  | .cross | .crossReverse => .cross

/-- Both directions run along one axis. -/
def sameAxis (first second : Direction) : Bool :=
  first.axis == second.axis

/-- The direction runs against its axis; on the canvas, to the left or upward. -/
def isReversed : Direction → Bool
  | .main | .cross => false
  | .mainReverse | .crossReverse => true

/-- The two directions of the other axis, forward first. -/
def perpendicular (direction : Direction) : List Direction :=
  match direction.axis with
  | .main => [.cross, .crossReverse]
  | .cross => [.main, .mainReverse]

/-- The name of a direction relative to a frame. -/
def relativeName : Direction → String
  | .main => "main"
  | .cross => "cross"
  | .mainReverse => "main_reverse"
  | .crossReverse => "cross_reverse"

/-- The name of a direction on the canvas. -/
def absoluteName : Direction → String
  | .right => "right"
  | .down => "down"
  | .left => "left"
  | .up => "up"

/-- A direction is found again by its number. -/
@[simp] theorem ofIndex?_index (direction : Direction) :
    ofIndex? direction.index = some direction := by
  cases direction <;> rfl

/-- The opposite of the opposite is the direction itself. -/
@[simp] theorem reverse_reverse (direction : Direction) :
    direction.reverse.reverse = direction := by
  cases direction <;> rfl

/-- Opposite directions run along one axis. -/
@[simp] theorem axis_reverse (direction : Direction) :
    direction.reverse.axis = direction.axis := by
  cases direction <;> rfl

/-- No direction is missing in the list of all directions. -/
theorem mem_all (direction : Direction) : direction ∈ all := by
  cases direction <;> simp [all]

/-- The perpendicular directions are those along the other axis. -/
theorem mem_perpendicular {turn direction : Direction} :
    turn ∈ direction.perpendicular ↔ turn.axis ≠ direction.axis := by
  cases turn <;> cases direction <;> decide

end Direction

namespace Axis

/-- The axis across. -/
def other : Axis → Axis
  | .main => .cross
  | .cross => .main

/-- The direction in which the axis runs. -/
def forward : Axis → Direction
  | .main => .main
  | .cross => .cross

/-- The two directions of an axis, forward first. -/
def directions (axis : Axis) : List Direction :=
  [axis.forward, axis.forward.reverse]

/-- The direction of an axis runs along it. -/
@[simp] theorem axis_forward (axis : Axis) : axis.forward.axis = axis := by
  cases axis <;> rfl

/-- The axis across the axis across is the axis itself. -/
@[simp] theorem other_other (axis : Axis) : axis.other.other = axis := by
  cases axis <;> rfl

end Axis

end BoxDiagram
