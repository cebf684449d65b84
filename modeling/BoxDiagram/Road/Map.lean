import BoxDiagram.Road.Basic

namespace BoxDiagram

/-!
# A value for each road of a graph
-/

/-- The values of the roads of one box; a cell has none. -/
structure ContainerRoads (β : Type) where
  main : Array β
  cross : Array β
  deriving Repr, DecidableEq

/-- A value for each road, by the number of its container. -/
structure RoadMap (β : Type) where
  containers : Array (ContainerRoads β)
  deriving Repr, DecidableEq

namespace ContainerRoads

variable {β : Type}

/-- The values of the roads across one axis. -/
def along (roads : ContainerRoads β) : Axis → Array β
  | .main => roads.main
  | .cross => roads.cross

/-- One value for each road of a box. -/
def ofNode {α : Type} (node : Node α) (value : β) : ContainerRoads β :=
  if node.isContainer then
    { main := Array.replicate node.mainAvenues value, cross := Array.replicate 2 value }
  else { main := #[], cross := #[] }

/-- The values with the one of a road changed. -/
def modify (roads : ContainerRoads β) (axis : Axis) (avenue : Nat) (change : β → β) :
    ContainerRoads β :=
  match axis with
  | .main => { roads with main := roads.main.modify avenue change }
  | .cross => { roads with cross := roads.cross.modify avenue change }

end ContainerRoads

namespace RoadMap

variable {β : Type}

/-- A map without containers. -/
def empty : RoadMap β := ⟨#[]⟩

/-- One value for each road of a graph. -/
def ofGraph {α : Type} (graph : Graph α) (value : β) : RoadMap β where
  containers := graph.nodes.map (ContainerRoads.ofNode · value)

/-- The value of a road, if the road is known. -/
def get? (roads : RoadMap β) (road : Road) : Option β :=
  match roads.containers[road.container]? with
  | some values => (values.along road.axis)[road.avenue]?
  | none => none

/-- The map with the value of a road changed; unchanged if the road is not known. -/
def modify (roads : RoadMap β) (road : Road) (change : β → β) : RoadMap β where
  containers := roads.containers.modify road.container (·.modify road.axis road.avenue change)

/-- The map with the value of a road replaced; unchanged if the road is not known. -/
def set (roads : RoadMap β) (road : Road) (value : β) : RoadMap β :=
  roads.modify road fun _ => value

/-- The roads of a list that are not marked, each where it stands first. -/
def keepUnmarked (marks : RoadMap Bool) : List Road → List Road
  | [] => []
  | road :: rest =>
      if marks.get? road = some true then marks.keepUnmarked rest
      else road :: (marks.set road true).keepUnmarked rest

/-- The roads of a list; a road of the graph is kept only where it stands first. -/
def distinct {α : Type} (graph : Graph α) (roads : List Road) : List Road :=
  (ofGraph graph false).keepUnmarked roads

/-- The map with another value for each road. -/
def map {γ : Type} (roads : RoadMap β) (change : β → γ) : RoadMap γ where
  containers := roads.containers.map fun values =>
    { main := values.main.map change, cross := values.cross.map change }

/-- The roads of one container with their values. -/
def entries (container : NodeId) (values : ContainerRoads β) : List (Road × β) :=
  (values.main.toList.zipIdx.map fun (value, avenue) => (.main container avenue, value)) ++
    (values.cross.toList.zipIdx.map fun (value, avenue) => (.cross container avenue, value))

/-- All roads with their values: by container, the gaps in order and then the cross edges. -/
def toList (roads : RoadMap β) : List (Road × β) :=
  roads.containers.toList.zipIdx.flatMap fun (values, container) => entries container values

/-- The number of roads. -/
def size (roads : RoadMap β) : Nat :=
  roads.toList.length

end RoadMap

end BoxDiagram
