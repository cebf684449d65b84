import BoxDiagram.Frame.Direction
import BoxDiagram.Number.Scalar

namespace BoxDiagram

/-!
# Points of the canvas

The origin is the top left corner; the first coordinate grows to the right and
the second one downward. The main axis of the canvas is horizontal.
-/

/-- A place on the canvas. -/
structure Point (α : Type) where
  x : α
  y : α
  deriving Repr, DecidableEq

namespace Point

variable {α : Type} [Scalar α]

/-- The top left corner of the canvas. -/
def origin : Point α := ⟨Scalar.zero, Scalar.zero⟩

/-- The point moved by another one. -/
def add (first second : Point α) : Point α where
  x := first.x + second.x
  y := first.y + second.y

/-- The way from one point to another, as a point. -/
def sub (first second : Point α) : Point α where
  x := first.x - second.x
  y := first.y - second.y

/-- The point halfway between two others. -/
def midpoint (first second : Point α) : Point α where
  x := Scalar.half (first.x + second.x)
  y := Scalar.half (first.y + second.y)

/-- The distance walked along the axes from one point to another. -/
def manhattan (first second : Point α) : α :=
  Scalar.abs (first.x - second.x) + Scalar.abs (first.y - second.y)

omit [Scalar α]

/-- The coordinate along an axis of the canvas. -/
def along (point : Point α) : Axis → α
  | .main => point.x
  | .cross => point.y

/-- The point with its coordinate along one axis replaced. -/
def withAlong (point : Point α) (axis : Axis) (value : α) : Point α :=
  match axis with
  | .main => { point with x := value }
  | .cross => { point with y := value }

/-- The point with the given coordinates along an axis and across it. -/
def ofAxis (axis : Axis) (forward sideways : α) : Point α :=
  match axis with
  | .main => ⟨forward, sideways⟩
  | .cross => ⟨sideways, forward⟩

/-- The coordinate that is set is the one that was given. -/
@[simp] theorem along_withAlong (point : Point α) (axis : Axis) (value : α) :
    (point.withAlong axis value).along axis = value := by
  cases axis <;> rfl

/-- Setting one coordinate leaves the other one. -/
@[simp] theorem along_other_withAlong (point : Point α) (axis : Axis) (value : α) :
    (point.withAlong axis value).along axis.other = point.along axis.other := by
  cases axis <;> rfl

end Point

end BoxDiagram
