import BoxDiagram.Number.Scalar
import BoxDiagram.Road.Map
import BoxDiagram.Route.Basic

namespace BoxDiagram

/-!
# Lanes

A road has one lane for each link that travels along it, and at least as many
lanes as the diagram asks for. Links take the lanes of a road in the order of
their routes; a link that comes back to a road keeps its lane.
-/

/-- The lanes of a road: one for each link on it, then those that stay empty. -/
structure RoadLanes where
  links : List LinkId
  spare : Nat
  deriving Repr, DecidableEq

namespace RoadLanes

/-- The number of lanes: those of links and the spare ones. -/
def count (lanes : RoadLanes) : Nat :=
  lanes.links.length + lanes.spare

/-- The link on each lane, if there is one. -/
def toList (lanes : RoadLanes) : List (Option LinkId) :=
  lanes.links.map some ++ List.replicate lanes.spare none

/-- The lane of a link. -/
def laneOf? (lanes : RoadLanes) (link : LinkId) : Option Nat :=
  lanes.links.idxOf? link

/-- The width of a road with these lanes. -/
def width {α : Type} [Scalar α] (lanes : RoadLanes) (laneWidth : α) : α :=
  Scalar.ofNat lanes.count * laneWidth

/-- Lanes for the links on a road, with at least a given number of them. -/
def ofUsers (laneMin : Nat) (links : List LinkId) : RoadLanes where
  links := links
  spare := laneMin - links.length

/-- There are as many entries as lanes. -/
@[simp] theorem length_toList (lanes : RoadLanes) : lanes.toList.length = lanes.count := by
  simp [toList, count]

/-- A road has a lane for each user, and at least the least number. -/
theorem count_ofUsers (laneMin : Nat) (links : List LinkId) :
    (ofUsers laneMin links).count = max links.length laneMin := by
  simp only [ofUsers, count]
  omega

end RoadLanes

/-- The lanes of every road, and the routes with the lanes they use. -/
structure RoadTable where
  lanes : RoadMap RoadLanes
  routes : List Route
  deriving Repr, DecidableEq

namespace RoadTable

/-- A table without roads. -/
def empty : RoadTable := ⟨.empty, []⟩

/-- The links on a road with one more, unless it is there already. -/
def join (links : List LinkId) (link : LinkId) : List LinkId :=
  if links.contains link then links else links ++ [link]

/-- The links on each road, with a link on one more of them. -/
def enter (users : RoadMap (List LinkId)) (link : LinkId) (road : Road) :
    Except Failure (RoadMap (List LinkId)) :=
  match users.get? road with
  | some _ => .ok (users.modify road (join · link))
  | none =>
      .error <| .stage .unknownRoad <|
        s!"{LinkId.display link} passes {road.describe} of {NodeId.display road.container}, " ++
          "which does not exist"

/-- The links on each road, with a route added to them. -/
def travel (users : RoadMap (List LinkId)) (route : Route) :
    Except Failure (RoadMap (List LinkId)) :=
  route.roads.foldlM (enter · route.link) users

/-- The links on each road of a graph. -/
def users {α : Type} (graph : Graph α) (routes : List Route) :
    Except Failure (RoadMap (List LinkId)) :=
  routes.foldlM travel (.ofGraph graph [])

/-- A route with the lanes that its link has on the roads of the route. -/
def assign (lanes : RoadMap RoadLanes) (route : Route) : Route :=
  let assigned (passage : Passage) : Passage :=
    { passage with lane := (lanes.get? passage.road).bind (·.laneOf? route.link) }
  { route with passages := route.passages.map assigned }

/-- Lanes for all routes through a graph. -/
def allocate {α : Type} (graph : Graph α) (routes : List Route) (laneMin : Nat) :
    Except Failure RoadTable := do
  let lanes := (← users graph routes).map (RoadLanes.ofUsers laneMin)
  return { lanes, routes := routes.map (assign lanes) }

/-- The lanes of a road. -/
def get? (table : RoadTable) (road : Road) : Option RoadLanes :=
  table.lanes.get? road

/-- The roads with their lanes: by container, the gaps in order and then the cross edges. -/
def toList (table : RoadTable) : List (Road × RoadLanes) :=
  table.lanes.toList

end RoadTable

end BoxDiagram
