import BoxDiagram.Layout.Placement
import BoxDiagram.Layout.Polyline

namespace BoxDiagram

/-!
# Laying out a diagram

Boxes get their sizes, then their places, and at last links are drawn between
them. A box that is the child of several containers, as only a graph changed by
hand can have it, is shown at the last place it was given.
-/

variable {α : Type}

/-- A layout engine places what the stages before it have prepared. -/
abbrev LayoutEngine (α : Type) := LayoutInput α → Except Failure (Layout α)

namespace Placement

/-- The last place of each box, in the order of the boxes' numbers. -/
def nodesByNumber (placement : Placement α) (size : Nat) : List (NodeLayout α) :=
  let slots : Array (Option (NodeLayout α)) := .replicate size none
  let filled := placement.nodes.foldl
    (fun slots node => slots.setIfInBounds node.id (some node)) slots
  filled.toList.reduceOption

/-- The last place of each road of a table. -/
def roadsOf (placement : Placement α) (table : RoadTable) : PlacedRoads α :=
  placement.roads.foldl (fun roads layout => roads.set layout.road (some layout))
    (table.lanes.map fun _ => none)

end Placement

namespace LayoutEngine

variable [Scalar α]

/-- The boxes and roads of a diagram in their places, from the root at the origin. -/
def place (input : LayoutInput α) (root : SizedBox α) : Placement α :=
  root.place input.diagram.document.laneWidth (.ofTopLeft .origin root.outer)

/-- Boxes in boxes, with roads between them, to a given depth of nesting. -/
def nested (depthLimit : Nat) : LayoutEngine α := fun input => do
  let root ← input.measure depthLimit (depthLimit + 1) NodeId.root
  let placement := place input root
  let roads := placement.roadsOf input.table
  let document := input.diagram.document
  let routes := input.table.routes
  let placed ← Gate.place document.gateGap routes
    (placement.nodesByNumber input.diagram.graph.size)
  let links ← routes.mapM (LinkLayout.ofRoute input.diagram.links roads placed.points)
  return {
    size := root.outer
    style := document.style
    linkBorder := document.linkBorder
    nodes := placed.nodes
    links
    roads := roads.toList.filterMap (·.2) }

/-- The depth of nesting up to which diagrams are laid out unless another one is set. -/
def defaultDepthLimit : Nat := 1000

end LayoutEngine

end BoxDiagram
