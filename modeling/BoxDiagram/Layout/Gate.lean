import BoxDiagram.Layout.Basic

namespace BoxDiagram

/-!
# Gates

Links that leave or enter a box at one side are spread along that side of the
visible box, around its middle: a fixed distance apart, or evenly where the side
is too short for that.
-/

/-- One of the two ends of a link. -/
inductive LinkEnd where
  | source
  | target
  deriving Repr, DecidableEq

/-- A side of a box, by the absolute direction that it faces. -/
abbrev BoxSide := NodeId × Direction

/-- The point at which an end of a link touches its box. -/
abbrev GatePoint (α : Type) := (LinkId × LinkEnd) × Point α

namespace Gate

/-- The sides at which links end, each with its ends in order. -/
abbrev Groups := List (BoxSide × List (LinkId × LinkEnd))

/-- The groups with an end of a link added to a side. -/
def Groups.add (side : BoxSide) (link : LinkId × LinkEnd) : Groups → Groups
  | [] => [(side, [link])]
  | (other, links) :: rest =>
      if other = side then (other, links ++ [link]) :: rest
      else (other, links) :: add side link rest

/-- The groups with both ends of a route added, the source first. -/
def Groups.addRoute (groups : Groups) (route : Route) : Groups :=
  (groups.add (route.source, route.sourceExit) (route.link, .source)).add
    (route.target, route.targetExit) (route.link, .target)

/-- The sides at which routes end, in the order of their first use. -/
def Groups.ofRoutes (routes : List Route) : Groups :=
  routes.foldl Groups.addRoute []

variable {α : Type} [Scalar α]

/-- The distance of neighbouring gates on a side of a given length. -/
def step (length gap : α) (count : Nat) : α :=
  if Scalar.less ((Scalar.ofNat count - Scalar.ofNat 1) * gap) length then gap
  else length / (Scalar.ofNat count + Scalar.ofNat 1)

/-- The points of a number of gates on a side of a rectangle. -/
def spread (visible : Bounds α) (side : Direction) (gap : α) (count : Nat) : List (Point α) :=
  let sideways := side.axis.other
  let range := visible.range sideways
  let center := visible.center.along sideways
  let step := step (range.2 - range.1) gap count
  let middle := Scalar.half (Scalar.ofNat count - Scalar.ofNat 1)
  (List.range count).map fun slot =>
    .ofAxis side.axis (visible.edge side) (center + (Scalar.ofNat slot - middle) * step)

/-- Boxes with the gates placed so far, and the points of those gates, the latest first. -/
structure Placed (α : Type) where
  nodes : List (NodeLayout α)
  points : List (GatePoint α)
  deriving Repr, DecidableEq

/-- The gates of a side placed on its box. -/
def placeGroup (gap : α) (placed : Placed α) (group : BoxSide × List (LinkId × LinkEnd)) :
    Except Failure (Placed α) :=
  let ((id, side), links) := group
  match placed.nodes[id]?.filter (·.id == id) with
  | none =>
      .error (.stage .unknownReference s!"gate on unknown node {NodeId.display id}")
  | some node =>
      let points := links.zip (spread node.visible side gap links.length)
      let gates := points.map fun (link, point) => ⟨link.1, side, point⟩
      .ok {
        nodes := placed.nodes.modify id fun node => { node with gates := node.gates ++ gates }
        points := points.reverse ++ placed.points }

/-- The gates of all routes placed on their boxes. -/
def place (gap : α) (routes : List Route) (nodes : List (NodeLayout α)) :
    Except Failure (Placed α) :=
  (Groups.ofRoutes routes).foldlM (placeGroup gap) ⟨nodes, []⟩

end Gate

end BoxDiagram
