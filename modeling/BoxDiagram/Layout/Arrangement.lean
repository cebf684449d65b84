import BoxDiagram.Diagram.Spacing
import BoxDiagram.Geometry.Bounds
import BoxDiagram.Frame.Compass

namespace BoxDiagram

/-!
# Arranging a container

Inside the body of a container, gaps and children alternate along the main axis,
and the two edge roads lie at the start and the end of the cross axis. All of it
is arranged along the frame of the container first and then put on the canvas,
where an axis may run in either direction.
-/

/-- A stretch of an axis, from its start. -/
structure Stretch (α : Type) where
  offset : α
  extent : α
  deriving Repr, DecidableEq

namespace Stretch

variable {α : Type} [Scalar α]

/-- The stretch on a range of coordinates, which the axis runs through forward or in reverse. -/
def within (stretch : Stretch α) (range : α × α) (reversed : Bool) : α × α :=
  if reversed then
    (range.2 - stretch.offset - stretch.extent, range.2 - stretch.offset)
  else
    (range.1 + stretch.offset, range.1 + stretch.offset + stretch.extent)

/--
The stretches of gaps and items that alternate from a given offset on, gaps first.
There is one gap more than there are items.
-/
def alternate (offset : α) : List α → List α → List (Stretch α) × List (Stretch α)
  | [], _ => ([], [])
  | gap :: gaps, [] =>
      let rest := alternate (offset + gap) gaps []
      (⟨offset, gap⟩ :: rest.1, rest.2)
  | gap :: gaps, item :: items =>
      let rest := alternate (offset + gap + item) gaps items
      (⟨offset, gap⟩ :: rest.1, ⟨offset + gap, item⟩ :: rest.2)

end Stretch

namespace Bounds

variable {α : Type} [Scalar α]

/-- The rectangle with a given range along an axis of the canvas and one across it. -/
def ofRanges (axis : Axis) (forward sideways : α × α) : Bounds α :=
  .ofTopLeft (.ofAxis axis forward.1 sideways.1)
    (.ofAxis axis (forward.2 - forward.1) (sideways.2 - sideways.1))

/-- The rectangle of a given size in the middle of another one. -/
def centered (area : Bounds α) (size : Size α) : Bounds α :=
  let center := area.center
  .ofTopLeft ⟨center.x - Scalar.half size.width, center.y - Scalar.half size.height⟩ size

end Bounds

/-- A rectangle with the frame in which its contents are arranged. -/
structure Body (α : Type) where
  bounds : Bounds α
  frame : Compass
  deriving Repr, DecidableEq

/-- An item to be arranged: its size on the canvas, and where it lies across the flow. -/
structure Item (α : Type) where
  size : Size α
  alignment : Alignment
  deriving Repr, DecidableEq

/-- The contents of a container in their places. -/
structure Arrangement (α : Type) where
  gaps : List (Bounds α)
  items : List (Bounds α)
  startEdge : Bounds α
  endEdge : Bounds α
  deriving Repr, DecidableEq

namespace Body

variable {α : Type} [Scalar α]

/-- The extent of the rectangle along an axis of the frame. -/
def extent (body : Body α) (axis : Axis) : α :=
  let range := body.bounds.range (body.frame.axisDirection axis).axis
  range.2 - range.1

/-- The rectangle with given stretches along the two axes of the frame. -/
def onCanvas (body : Body α) (forward sideways : Stretch α) : Bounds α :=
  let range (axis : Axis) (stretch : Stretch α) : α × α :=
    stretch.within (body.bounds.range (body.frame.axisDirection axis).axis)
      (body.frame.isReversed axis)
  .ofRanges body.frame.main.axis (range .main forward) (range .cross sideways)

/-- The extent of an item along an axis of the frame. -/
def itemExtent (body : Body α) (axis : Axis) (item : Item α) : α :=
  item.size.along (body.frame.axisDirection axis).axis

/-- The stretch of an item across the flow, between the edge roads. -/
def sidewaysStretch (body : Body α) (startWidth endWidth : α) (item : Item α) : Stretch α :=
  let available := Scalar.positivePart (body.extent .cross - startWidth - endWidth)
  let extent := body.itemExtent .cross item
  ⟨startWidth + item.alignment.offset available extent, extent⟩

/-- The places of gaps and items of given widths and sizes, and of the two edge roads. -/
def arrange
    (body : Body α)
    (gapWidths : List α)
    (startWidth endWidth : α)
    (items : List (Item α)) : Arrangement α :=
  let length := body.extent .main
  let breadth := body.extent .cross
  let stretches :=
    Stretch.alternate Scalar.zero gapWidths (items.map (body.itemExtent .main))
  { gaps := stretches.1.map (body.onCanvas · ⟨Scalar.zero, breadth⟩)
    items := (stretches.2.zip items).map fun (forward, item) =>
      body.onCanvas forward (body.sidewaysStretch startWidth endWidth item)
    startEdge := body.onCanvas ⟨Scalar.zero, length⟩ ⟨Scalar.zero, startWidth⟩
    endEdge := body.onCanvas ⟨Scalar.zero, length⟩ ⟨breadth - endWidth, endWidth⟩ }

end Body

end BoxDiagram
