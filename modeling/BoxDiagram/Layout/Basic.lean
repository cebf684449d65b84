import BoxDiagram.Geometry.Bounds
import BoxDiagram.Lane.Table

namespace BoxDiagram

/-!
# Layouts

A layout gives every box, road and link of a diagram its place on the canvas,
where the first coordinate grows to the right and the second one downward.
-/

/-- A text with its place. -/
structure LabelLayout (α : Type) where
  text : String
  bounds : Bounds α
  deriving Repr, DecidableEq

/-- The point at which a link touches a side of a box. -/
structure Gate (α : Type) where
  link : LinkId
  /-- The absolute direction that the side faces. -/
  side : Direction
  point : Point α
  deriving Repr, DecidableEq

/-- A box in its place. -/
structure NodeLayout (α : Type) where
  id : NodeId
  kind : Kind
  path : Option String
  /-- The box with its margin. -/
  bounds : Bounds α
  /-- The box without its margin: what is drawn. -/
  visible : Bounds α
  /-- The box inside its border and padding. -/
  content : Bounds α
  label : Option (LabelLayout α)
  gates : List (Gate α)
  deriving Repr, DecidableEq

/-- A lane in its place. -/
structure LaneLayout (α : Type) where
  lane : Nat
  link : Option LinkId
  /-- The fixed coordinate of the middle of the lane. -/
  line : α
  bounds : Bounds α
  deriving Repr, DecidableEq

/-- A road in its place. -/
structure RoadLayout (α : Type) where
  road : Road
  bounds : Bounds α
  /-- The axis of the canvas along which all points of a lane share a coordinate. -/
  fixedAxis : Axis
  lanes : List (LaneLayout α)
  deriving Repr, DecidableEq

/-- A link in its place. -/
structure LinkLayout (α : Type) where
  link : LinkId
  source : NodeId
  target : NodeId
  kind : String
  markers : Markers
  label : Option String
  /-- The middle of the longest segment, for a link with a label. -/
  labelAnchor : Option (Point α)
  /-- The corners of the line, from the gate of the source to the gate of the target. -/
  points : List (Point α)
  deriving Repr, DecidableEq

/-- A whole diagram in place. -/
structure Layout (α : Type) where
  size : Size α
  style : Option String
  /-- The stroke width of links. -/
  linkBorder : α
  /-- The boxes in the order of their numbers. -/
  nodes : List (NodeLayout α)
  /-- The links in the order of their routes. -/
  links : List (LinkLayout α)
  /-- The roads by container, the gaps in order and then the cross edges. -/
  roads : List (RoadLayout α)
  deriving Repr, DecidableEq

namespace RoadLayout

variable {α : Type} [Scalar α]

/-- The fixed coordinate of the middle of the road. -/
def centerLine (road : RoadLayout α) : α :=
  let (first, last) := road.bounds.range road.fixedAxis
  Scalar.half (first + last)

/-- The fixed coordinate of a lane; of the middle of the road where there is no such lane. -/
def laneLine (road : RoadLayout α) (lane : Option Nat) : α :=
  match lane.bind (road.lanes[·]?) with
  | some found => found.line
  | none => road.centerLine

end RoadLayout

namespace Layout

variable {α : Type}

/-- The box with a number, if it stands at the place of its number. -/
def node? (layout : Layout α) (id : NodeId) : Option (NodeLayout α) :=
  layout.nodes[id]?.filter (·.id == id)

/-- The link with a number, if it stands at the place of its number. -/
def link? (layout : Layout α) (id : LinkId) : Option (LinkLayout α) :=
  layout.links[id]?.filter (·.link == id)

/-- The road as it is laid out. -/
def road? (layout : Layout α) (road : Road) : Option (RoadLayout α) :=
  layout.roads.find? (·.road == road)

end Layout

end BoxDiagram
