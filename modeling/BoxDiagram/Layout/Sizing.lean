import BoxDiagram.Lane.Table
import BoxDiagram.Diagram.Link
import BoxDiagram.Geometry.Size

namespace BoxDiagram

/-!
# Sizes of boxes

Sizes are found from the innermost boxes outward: a cell takes the size that is
set for it or that of its label; a container takes its children and gaps along
its main axis, and its widest child and the edge roads across. The result is a
tree that holds all that placing the boxes depends on.
-/

/-- The roads of a container with their lanes. -/
structure OwnRoads where
  gaps : List RoadLanes
  startEdge : RoadLanes
  endEdge : RoadLanes
  deriving Repr, DecidableEq

/-- A box with the sizes of all that lies in it. -/
inductive SizedBox (α : Type) where
  | cell (node : Node α) (label : Option (Size α)) (outer : Size α)
  | container
      (node : Node α)
      (label : Option (Size α))
      (outer : Size α)
      (roads : OwnRoads)
      (children : List (SizedBox α))
  deriving Repr

namespace SizedBox

variable {α : Type}

/-- The box without its size. -/
def node : SizedBox α → Node α
  | .cell node _ _ | .container node _ _ _ _ => node

/-- The size of the box with its margin. -/
def outer : SizedBox α → Size α
  | .cell _ _ outer | .container _ _ outer _ _ => outer

end SizedBox

/-- All that a layout depends on. -/
structure LayoutInput (α : Type) where
  diagram : Diagram α
  table : RoadTable
  /-- The size of the label of each box that shows one, by number. -/
  labels : Array (Option (Size α))
  deriving Repr, DecidableEq

namespace LayoutInput

variable {α : Type}

/-- The size of the label of a box. -/
def label? (input : LayoutInput α) (id : NodeId) : Option (Size α) :=
  input.labels[id]?.join

/-- The lanes of a road that has to be in the table. -/
def lanes (input : LayoutInput α) (road : Road) : Except Failure RoadLanes :=
  match input.table.get? road with
  | some lanes => .ok lanes
  | none =>
      .error <| .stage .unknownRoad
        s!"{road.describe} of {NodeId.display road.container} has no lanes"

/-- The roads of a container: its gaps and both of its edges. -/
def ownRoads (input : LayoutInput α) (node : Node α) : Except Failure OwnRoads := do
  let gaps ← (List.range node.mainAvenues).mapM fun avenue => input.lanes (.main node.id avenue)
  let startEdge ← input.lanes (.cross node.id 0)
  let endEdge ← input.lanes (.cross node.id 1)
  return { gaps, startEdge, endEdge }

variable [Scalar α]

/-- The size of the content of a cell. -/
def cellContent (node : Node α) (label : Option (Size α)) : Size α :=
  let measured := label.getD .zero
  ⟨node.width.getD measured.width, node.height.getD measured.height⟩

/-- The size of the space for the children and roads of a container. -/
def bodySize
    (laneWidth : α)
    (frame : Compass)
    (roads : OwnRoads)
    (children : List (Size α)) : Size α :=
  let axis := frame.main.axis
  let items := Scalar.sum (children.map (·.along axis))
  let length := (roads.gaps.map (·.width laneWidth)).foldl (· + ·) items
  let widest := (children.map (·.along axis.other)).foldl Scalar.larger Scalar.zero
  let breadth := widest + (roads.startEdge.width laneWidth + roads.endEdge.width laneWidth)
  .ofAxis axis length breadth

/-- The size of a container's content: its body, with its label above. -/
def containerContent (body : Size α) (label : Option (Size α)) : Size α :=
  match label with
  | some size => ⟨Scalar.larger body.width size.width, body.height + size.height⟩
  | none => body

/-- A cell is as large as its content with its spacing. -/
def sizedCell (input : LayoutInput α) (node : Node α) : SizedBox α :=
  let label := input.label? node.id
  .cell node label ((cellContent node label).pad node.spacing.total)

/-- A container with its size, from the sizes of its children. -/
def sizedContainer
    (input : LayoutInput α)
    (node : Node α)
    (roads : OwnRoads)
    (children : List (SizedBox α)) : SizedBox α :=
  let label := input.label? node.id
  let laneWidth := input.diagram.document.laneWidth
  let body := bodySize laneWidth node.itemFrame roads (children.map (·.outer))
  .container node label ((containerContent body label).pad node.spacing.total) roads children

/-- The failure that boxes are nested too deep. -/
def tooDeep (limit : Nat) : Failure :=
  .stage .depthLimit s!"nesting deeper than {limit} levels"

/--
A box with the sizes of all that lies in it. The second number is that of the
levels that may still follow, plus one.
-/
def measure (input : LayoutInput α) (limit : Nat) : Nat → NodeId → Except Failure (SizedBox α)
  | 0, _ => .error (tooDeep limit)
  | levels + 1, id => do
      let node ← Failure.ofGraph (input.diagram.graph.find id)
      if node.isContainer then
        let children ← node.children.mapM (measure input limit levels)
        let roads ← input.ownRoads node
        return input.sizedContainer node roads children
      else
        return input.sizedCell node

end LayoutInput

end BoxDiagram
