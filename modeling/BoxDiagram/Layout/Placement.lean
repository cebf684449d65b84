import BoxDiagram.Diagram.Label
import BoxDiagram.Layout.Arrangement
import BoxDiagram.Layout.Basic
import BoxDiagram.Layout.Sizing

namespace BoxDiagram

/-!
# Placing boxes and roads

Boxes are placed from the root inward. A box that was given its outer rectangle
leaves its margin, border and padding free; a container then sets its label at
the top and arranges its children and roads below.
-/

/-- Boxes and roads in their places, a container before what lies in it. -/
structure Placement (α : Type) where
  nodes : List (NodeLayout α)
  roads : List (RoadLayout α)
  deriving Repr, DecidableEq

namespace Placement

variable {α : Type}

/-- Nothing is placed. -/
def empty : Placement α := ⟨[], []⟩

/-- What is placed first, and then what is placed later. -/
def append (first second : Placement α) : Placement α where
  nodes := first.nodes ++ second.nodes
  roads := first.roads ++ second.roads

end Placement

variable {α : Type} [Scalar α]

/-- A lane of a road that lies at a given rectangle. -/
def LaneLayout.within
    (laneWidth : α)
    (bounds : Bounds α)
    (side : Direction)
    (lane : Nat)
    (link : Option LinkId) : LaneLayout α :=
  let axis := side.axis
  let range := bounds.range axis
  let step := (Scalar.ofNat lane + Scalar.half (Scalar.ofNat 1)) * laneWidth
  let line := if side.isReversed then range.2 - step else range.1 + step
  let half := Scalar.half laneWidth
  { lane
    link
    line
    bounds := .ofRanges axis (line - half, line + half) (bounds.range axis.other) }

/-- A road that lies at a given rectangle, with lanes numbered along the frame of its container. -/
def RoadLayout.within
    (laneWidth : α)
    (frame : Compass)
    (road : Road)
    (lanes : RoadLanes)
    (bounds : Bounds α) : RoadLayout α :=
  let side := frame.axisDirection road.axis
  { road
    bounds
    fixedAxis := side.axis
    lanes := lanes.toList.zipIdx.map fun (link, lane) =>
      .within laneWidth bounds side lane link }

/-- The rectangles of a box: with its margin, as drawn, and inside its border and padding. -/
structure BoxBounds (α : Type) where
  outer : Bounds α
  visible : Bounds α
  content : Bounds α
  deriving Repr, DecidableEq

namespace BoxBounds

/-- The rectangles of a box that has a given outer rectangle. -/
def ofOuter (spacing : Spacing α) (outer : Bounds α) : BoxBounds α :=
  let visible := outer.shrink spacing.margin
  { outer, visible, content := visible.shrink spacing.inner }

/-- The strip at the top of the content that a label takes. -/
def header (bounds : BoxBounds α) (label : Size α) : Bounds α :=
  .ofTopLeft bounds.content.topLeft ⟨bounds.content.width, label.height⟩

/-- The content below the strip of a label. -/
def belowHeader (bounds : BoxBounds α) (label : Size α) : Bounds α :=
  .ofTopLeft ⟨bounds.content.minX, (bounds.header label).maxY⟩
    ⟨bounds.content.width, Scalar.positivePart (bounds.content.height - label.height)⟩

/-- The content without the strip of the label, if there is one. -/
def body (bounds : BoxBounds α) (label : Option (Size α)) : Bounds α :=
  match label with
  | some size => bounds.belowHeader size
  | none => bounds.content

/-- The label of a container in the middle of its strip; one that was not measured is not shown. -/
def containerLabel (bounds : BoxBounds α) (node : Node α) (label : Option (Size α)) :
    Option (LabelLayout α) :=
  match label, node.label with
  | some size, some text => some ⟨text, (bounds.header size).centered size⟩
  | _, _ => none

/-- The text of a cell in the middle of its content; one that was not measured fills it. -/
def cellLabel (bounds : BoxBounds α) (node : Node α) (label : Option (Size α)) :
    Option (LabelLayout α) :=
  node.shownText?.map fun text =>
    match label with
    | some size => ⟨text, bounds.content.centered size⟩
    | none => ⟨text, bounds.content⟩

/-- A box at its place, without gates. -/
def layout (bounds : BoxBounds α) (node : Node α) (label : Option (LabelLayout α)) :
    NodeLayout α where
  id := node.id
  kind := node.kind
  path := node.path
  bounds := bounds.outer
  visible := bounds.visible
  content := bounds.content
  label := label
  gates := []

end BoxBounds

namespace OwnRoads

/-- The roads of a container at the places of an arrangement. -/
def layouts
    (roads : OwnRoads)
    (laneWidth : α)
    (node : Node α)
    (arrangement : Arrangement α) : List (RoadLayout α) :=
  let place (road : Road) (lanes : RoadLanes) (bounds : Bounds α) : RoadLayout α :=
    .within laneWidth node.itemFrame road lanes bounds
  let gaps := (roads.gaps.zip arrangement.gaps).zipIdx.map fun ((lanes, bounds), avenue) =>
    place (.main node.id avenue) lanes bounds
  gaps ++ [
    place (.cross node.id 0) roads.startEdge arrangement.startEdge,
    place (.cross node.id 1) roads.endEdge arrangement.endEdge]

end OwnRoads

namespace SizedBox

/-- A box as an item of its container. -/
def item (parent : Node α) (box : SizedBox α) : Item α where
  size := box.outer
  alignment := (box.node.alignment.orElse fun _ => parent.alignment).getD .start

/-- The places of the children and roads of a container whose body is given. -/
def arrangement
    (laneWidth : α)
    (node : Node α)
    (roads : OwnRoads)
    (children : List (SizedBox α))
    (body : Bounds α) : Arrangement α :=
  Body.arrange ⟨body, node.itemFrame⟩ (roads.gaps.map (·.width laneWidth))
    (roads.startEdge.width laneWidth) (roads.endEdge.width laneWidth) (children.map (item node))

mutual

/-- A box at its outer rectangle, with all that lies in it. -/
def place (laneWidth : α) (box : SizedBox α) (outer : Bounds α) : Placement α :=
  match box with
  | .cell node label _ =>
      let bounds := BoxBounds.ofOuter node.spacing outer
      ⟨[bounds.layout node (bounds.cellLabel node label)], []⟩
  | .container node label _ roads children =>
      let bounds := BoxBounds.ofOuter node.spacing outer
      let arrangement := arrangement laneWidth node roads children (bounds.body label)
      let own : Placement α :=
        ⟨[bounds.layout node (bounds.containerLabel node label)],
          roads.layouts laneWidth node arrangement⟩
      own.append (placeAll laneWidth children arrangement.items)

/-- Boxes at their outer rectangles, with all that lies in them. -/
def placeAll (laneWidth : α) (boxes : List (SizedBox α)) (bounds : List (Bounds α)) :
    Placement α :=
  match boxes, bounds with
  | box :: boxes, outer :: bounds =>
      (place laneWidth box outer).append (placeAll laneWidth boxes bounds)
  | _, _ => .empty

end

end SizedBox

end BoxDiagram
