import BoxDiagram.Frame.Direction
import BoxDiagram.Number.Scalar

namespace BoxDiagram

/-!
# Sizes and insets

A size is the extent of a box. Insets are widths of the four strips by which one
box lies inside another, such as the margin, the border and the padding.
-/

/-- The extent of a box. -/
structure Size (α : Type) where
  width : α
  height : α
  deriving Repr, DecidableEq

/-- Widths of the strips on the four sides of a box. -/
structure Insets (α : Type) where
  top : α
  right : α
  bottom : α
  left : α
  deriving Repr, DecidableEq

namespace Insets

variable {α : Type}

/-- Strips of the same width on all sides. -/
def uniform (value : α) : Insets α :=
  ⟨value, value, value, value⟩

/--
Insets from a short list: one width for all sides, two widths for the vertical
and the horizontal sides, or four from the top clockwise.
-/
def ofShorthand? : List α → Option (Insets α)
  | [every] => some (uniform every)
  | [vertical, horizontal] => some ⟨vertical, horizontal, vertical, horizontal⟩
  | [top, right, bottom, left] => some ⟨top, right, bottom, left⟩
  | _ => none

/-- The strip on the side that faces an absolute direction. -/
def side (insets : Insets α) : Direction → α
  | .right => insets.right
  | .down => insets.bottom
  | .left => insets.left
  | .up => insets.top

/-- The insets with the strip on one side replaced. -/
def withSide (insets : Insets α) (direction : Direction) (value : α) : Insets α :=
  match direction with
  | .right => { insets with right := value }
  | .down => { insets with bottom := value }
  | .left => { insets with left := value }
  | .up => { insets with top := value }

variable [Scalar α]

/-- Strips of no width. -/
def zero : Insets α := uniform Scalar.zero

/-- Both strips along the x axis together. -/
def horizontal (insets : Insets α) : α :=
  insets.left + insets.right

/-- Both strips along the y axis together. -/
def vertical (insets : Insets α) : α :=
  insets.top + insets.bottom

/-- Strips laid next to each other, side by side. -/
def add (first second : Insets α) : Insets α where
  top := first.top + second.top
  right := first.right + second.right
  bottom := first.bottom + second.bottom
  left := first.left + second.left

end Insets

namespace Size

variable {α : Type}

/-- The extent along an axis of the canvas. -/
def along (size : Size α) : Axis → α
  | .main => size.width
  | .cross => size.height

/-- The size with the given extents along an axis and across it. -/
def ofAxis (axis : Axis) (forward sideways : α) : Size α :=
  match axis with
  | .main => ⟨forward, sideways⟩
  | .cross => ⟨sideways, forward⟩

variable [Scalar α]

/-- The size of nothing. -/
def zero : Size α := ⟨Scalar.zero, Scalar.zero⟩

/-- The smallest size in which both sizes fit. -/
def larger (first second : Size α) : Size α where
  width := Scalar.larger first.width second.width
  height := Scalar.larger first.height second.height

/-- The size grown by insets on its sides. -/
def pad (size : Size α) (insets : Insets α) : Size α where
  width := size.width + insets.horizontal
  height := size.height + insets.vertical

/-- Both extents are zero. -/
def isZero (size : Size α) : Bool :=
  Scalar.equal size.width Scalar.zero && Scalar.equal size.height Scalar.zero

end Size

end BoxDiagram
