import BoxDiagram.Geometry.Point
import BoxDiagram.Geometry.Size

namespace BoxDiagram

/-!
# Rectangles on the canvas
-/

/-- A rectangle with sides along the axes, by its least and greatest coordinates. -/
structure Bounds (α : Type) where
  minX : α
  minY : α
  maxX : α
  maxY : α
  deriving Repr, DecidableEq

namespace Bounds

variable {α : Type}

/-- The corner with the least coordinates. -/
def topLeft (bounds : Bounds α) : Point α :=
  ⟨bounds.minX, bounds.minY⟩

/-- The coordinate of the edge that faces an absolute direction. -/
def edge (bounds : Bounds α) : Direction → α
  | .right => bounds.maxX
  | .down => bounds.maxY
  | .left => bounds.minX
  | .up => bounds.minY

/-- The least and the greatest coordinate along an axis. -/
def range (bounds : Bounds α) : Axis → α × α
  | .main => (bounds.minX, bounds.maxX)
  | .cross => (bounds.minY, bounds.maxY)

variable [Scalar α]

/-- The rectangle of the given size below and right of a point. -/
def ofTopLeft (corner : Point α) (size : Size α) : Bounds α where
  minX := corner.x
  minY := corner.y
  maxX := corner.x + size.width
  maxY := corner.y + size.height

/-- The empty rectangle at the origin. -/
def zero : Bounds α :=
  ⟨Scalar.zero, Scalar.zero, Scalar.zero, Scalar.zero⟩

/-- The middle of the rectangle. -/
def center (bounds : Bounds α) : Point α where
  x := Scalar.half (bounds.minX + bounds.maxX)
  y := Scalar.half (bounds.minY + bounds.maxY)

/-- The extent along the x axis. -/
def width (bounds : Bounds α) : α :=
  bounds.maxX - bounds.minX

/-- The extent along the y axis. -/
def height (bounds : Bounds α) : α :=
  bounds.maxY - bounds.minY

/-- Both extents of the rectangle. -/
def size (bounds : Bounds α) : Size α :=
  ⟨bounds.width, bounds.height⟩

/-- The least rectangle around two others. -/
def merge (first second : Bounds α) : Bounds α where
  minX := Scalar.smaller first.minX second.minX
  minY := Scalar.smaller first.minY second.minY
  maxX := Scalar.larger first.maxX second.maxX
  maxY := Scalar.larger first.maxY second.maxY

/-- The rectangle inside the given strips, never of negative extent. -/
def shrink (bounds : Bounds α) (insets : Insets α) : Bounds α :=
  let minX := bounds.minX + insets.left
  let minY := bounds.minY + insets.top
  { minX
    minY
    maxX := Scalar.larger (bounds.maxX - insets.right) minX
    maxY := Scalar.larger (bounds.maxY - insets.bottom) minY }

/-- The point lies inside the rectangle or on its border. -/
def contains (bounds : Bounds α) (point : Point α) : Bool :=
  Scalar.atMost bounds.minX point.x && Scalar.atMost point.x bounds.maxX &&
    Scalar.atMost bounds.minY point.y && Scalar.atMost point.y bounds.maxY

end Bounds

end BoxDiagram
