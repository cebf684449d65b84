import BoxDiagram.Diagram.Graph
import BoxDiagram.Diagram.Link

namespace BoxDiagram

/-!
# Roads

A container keeps room for links in roads: one in each gap before, between and
after its children along its main axis, and one along each of its two cross
edges. The line at which a link travels along a road has one fixed coordinate.
-/

/-- A road of a container. -/
structure Road where
  container : NodeId
  /-- The axis of the container across which the road runs. -/
  axis : Axis
  /-- The number of children before the gap; for a cross edge 0 or 1, reverse edge first. -/
  avenue : Nat
  deriving Repr, DecidableEq

namespace Road

/-- The road in a gap of the main axis. -/
def main (container : NodeId) (avenue : Nat) : Road := ⟨container, .main, avenue⟩

/-- The road at an edge of the cross axis. -/
def cross (container : NodeId) (avenue : Nat) : Road := ⟨container, .cross, avenue⟩

/-- How messages name the axis and the number of a road. -/
def describe (road : Road) : String :=
  let axis := match road.axis with
    | .main => "Main"
    | .cross => "Cross"
  s!"{axis} road {road.avenue}"

/-- The roads of a container: the gaps in order, then the two cross edges. -/
def ofContainer {α : Type} (node : Node α) : List Road :=
  (List.range node.mainAvenues).map (main node.id) ++ [cross node.id 0, cross node.id 1]

end Road

namespace Graph

variable {α : Type}

/-- The axis of the canvas along which a road has a fixed coordinate. -/
def fixedAxis (graph : Graph α) (road : Road) : Except GraphFault Axis := do
  return ((← graph.find road.container).itemFrame.axisDirection road.axis).axis

/-- The road next to a box in an absolute direction, inside its parent; the root has none. -/
def adjacentRoad (graph : Graph α) (id : NodeId) (direction : Direction) :
    Except GraphFault (Option Road) := do
  let node ← graph.find id
  match node.parent with
  | none => return none
  | some parent =>
      match (← graph.find parent).itemFrame.relativeOf direction with
      | .main => return some (.main parent (node.index + 1))
      | .mainReverse => return some (.main parent node.index)
      | .cross => return some (.cross parent 1)
      | .crossReverse => return some (.cross parent 0)

/-- The absolute directions in which a link may leave a box; a fixed side is one of its frame. -/
def allowedExits (graph : Graph α) (id : NodeId) (edge : Option Direction) :
    Except GraphFault (List Direction) := do
  match edge with
  | some side => return [(← graph.find id).ownFrame.absoluteOf side]
  | none => return Direction.all

/-- The road next to a box in a direction, with the level at which it is reached. -/
def adjacentRoadAt (graph : Graph α) (direction : Direction) (below : NodeId) (level : Nat) :
    Except GraphFault (Option (Nat × Road)) := do
  return (← graph.adjacentRoad below direction).map fun road => (level, road)

/--
The roads that a box reaches when it leaves in a direction without passing a box,
with the number of levels up to each, but not above a given number of levels.
-/
def exitRoads (graph : Graph α) (id : NodeId) (direction : Direction) (ceiling : Nat) :
    Except GraphFault (List (Nat × Road)) := do
  let node ← graph.find id
  let budget := min (node.boundary.toward direction) ceiling
  let levels := (node.outward.take budget).zipIdx 1
  let roads ← levels.mapM fun (below, level) => graph.adjacentRoadAt direction below level
  return roads.reduceOption

/-- A box that leaves in a direction without passing a box comes to a road. -/
def leadsTo (graph : Graph α) (id : NodeId) (road : Road) (direction : Direction) :
    Except GraphFault Bool := do
  let depth := (← graph.find id).depth
  return (← graph.exitRoads id direction depth).any (·.2 == road)

/-- A box can leave straight into a road at one of its allowed sides. -/
def reaches (graph : Graph α) (id : NodeId) (road : Road) (edge : Option Direction) :
    Except GraphFault Bool := do
  (← graph.allowedExits id edge).anyM (graph.leadsTo id road)

end Graph

end BoxDiagram
