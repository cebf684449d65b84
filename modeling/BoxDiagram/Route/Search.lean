import BoxDiagram.Config.Basic
import BoxDiagram.Layout.Basic
import BoxDiagram.Number.Order

namespace BoxDiagram

/-!
# Searching a route through a layout

In a layout without links every road has a middle line, so that a walk along
roads has a length. A search starts on the roads that the source of a link
reaches, and looks at the walk first whose length and remaining distance to the
target are least. It ends on a road that the target reaches.
-/

/-- A layout in which routes are searched, with the middle line of each road. -/
structure Reference (α : Type) where
  layout : Layout α
  lines : RoadMap (Option (Axis × α))
  deriving Repr, DecidableEq

namespace Search

variable {α : Type}

/-- The greatest number of roads of a walk. -/
def maxRoads : Nat := 64

/-- The greatest number of walks that are continued. -/
def maxExpansions : Nat := 20000

/-- What a search for one link depends on. -/
structure Task (α : Type) where
  graph : Graph α
  reference : Reference α
  ends : LinkEnds
  config : RouteConfig
  /-- The depth of the innermost container around both ends. -/
  top : Nat
  /-- The middle of the visible source. -/
  source : Point α
  /-- The middle of the visible target. -/
  target : Point α
  /-- The roads that the target reaches, with the direction in which it leaves onto them. -/
  goals : RoadMap (Option Direction)
  /--
  For each road, the containers around the target that can be entered from it, with
  the direction in which they leave onto it.
  -/
  entrances : RoadMap (List (Direction × NodeId))

/-- A road that a walk may step onto, and the point at which it arrives there. -/
structure Step (α : Type) where
  road : Road
  point : Point α
  deriving Repr, DecidableEq

/-- A walk, by its last road and the walk that it continues. -/
structure Walk (α : Type) where
  road : Road
  point : Point α
  /-- The length of the walk. -/
  length : α
  /-- The place of the walk that this one continues by a road. -/
  parent : Option Nat
  /-- The direction in which the walk leaves the source. -/
  first : Direction
  /-- The number of roads. -/
  roads : Nat
  deriving Repr, DecidableEq

/-- A walk that waits to be continued. -/
structure Entry (α : Type) where
  /-- The length of the walk and the distance to the target. -/
  estimate : α
  /-- The place of the walk. -/
  walk : Nat
  deriving Repr, DecidableEq

/-- What a search has found so far. -/
structure Progress (α : Type) where
  walks : Array (Walk α)
  /-- The walks that wait, the most promising one first and of equal ones the oldest. -/
  queue : List (Entry α)
  /-- The length of the shortest walk to each road. -/
  best : RoadMap (Option α)
  deriving Repr, DecidableEq

/-- The directions in which a box leaves onto roads, with the roads, in order. -/
def exits (graph : Graph α) (id : NodeId) (ceiling : Nat) (directions : List Direction) :
    Except GraphFault (List (Direction × Road)) := do
  let found ← directions.mapM fun direction => do
    return (← graph.exitRoads id direction ceiling).map fun (_, road) => (direction, road)
  return found.flatten

/-- The first direction in which a box leaves onto each road. -/
def firstExits (graph : Graph α) (found : List (Direction × Road)) : RoadMap (Option Direction) :=
  found.foldr (fun (direction, road) goals => goals.set road (some direction))
    (.ofGraph graph none)

/-- The containers between the common container of a link and its target. -/
def innerContainers (graph : Graph α) (ends : LinkEnds) (top : Nat) :
    Except GraphFault (List NodeId) := do
  return (← graph.find ends.target.node).ancestors.drop (top + 1)

/-- For each road, the containers around the target of a link that leave onto it. -/
def findEntrances (graph : Graph α) (ends : LinkEnds) (containers : List NodeId) :
    Except GraphFault (RoadMap (List (Direction × NodeId))) := do
  let found ← containers.mapM fun container => do
    let ceiling ← graph.climb ends.common container
    return (← exits graph container ceiling Direction.all).map fun (direction, road) =>
      (road, direction, container)
  return found.flatten.foldr (fun (road, entrance) map => map.modify road (entrance :: ·))
    (.ofGraph graph [])

/-- The failure that a layout lacks something. -/
def lacking (what : String) : Failure :=
  .stage .incompleteReference s!"reference layout lacks {what}"

variable [Scalar α]

/-- The middle of a visible box of a layout. -/
def center (graph : Graph α) (layout : Layout α) (id : NodeId) : Except Failure (Point α) := do
  match layout.node? id with
  | some node => return node.visible.center
  | none =>
      let name ← Failure.ofGraph (graph.displayName id)
      throw (lacking s!"`{name}`")

/-- The search for the route of a link. -/
def Task.ofEnds
    (graph : Graph α)
    (reference : Reference α)
    (config : RouteConfig)
    (ends : LinkEnds) : Except Failure (Task α) := do
  let top := (← Failure.ofGraph (graph.find ends.common)).depth
  let sides ← Failure.ofGraph (graph.allowedExits ends.target.node ends.target.edge)
  let ceiling ← Failure.ofGraph (graph.climb ends.common ends.target.node)
  let goals ← Failure.ofGraph (exits graph ends.target.node ceiling sides)
  let containers ← Failure.ofGraph (innerContainers graph ends top)
  let entrances ← Failure.ofGraph (findEntrances graph ends containers)
  let source ← center graph reference.layout ends.source.node
  let target ← center graph reference.layout ends.target.node
  return {
    graph, reference, ends, config, top, source, target
    goals := firstExits graph goals
    entrances }

namespace Task

/-- The middle line of a road: its fixed axis and coordinate. -/
def line (task : Task α) (road : Road) : Except Failure (Axis × α) := do
  match (task.reference.lines.get? road).join with
  | some line => return line
  | none =>
      let name ← Failure.ofGraph (task.graph.displayName road.container)
      throw (lacking s!"{road.describe} of `{name}`")

/-- The step from a point straight onto a road. -/
def stepOnto (task : Task α) (point : Point α) (road : Road) : Except Failure (Step α) := do
  let (axis, line) ← task.line road
  return ⟨road, point.withAlong axis line⟩

/-- The roads of the same container that cross a road. -/
def lateralRoads (container : Node α) (road : Road) : List Road :=
  match road.axis with
  | .main => [.cross container.id 0, .cross container.id 1]
  | .cross => (List.range container.mainAvenues).map (Road.main container.id)

/-- The roads that lie outside the container of a road and that the road leads to. -/
def outwardRoads (task : Task α) (container : Node α) (road : Road) :
    Except Failure (List Road) := do
  let ceiling := container.depth - task.top
  if ceiling = 0 then return []
  let edge := match road.axis with
    | .main => container.itemFrame.cross
    | .cross => container.itemFrame.main
  let found ← Failure.ofGraph (exits task.graph container.id ceiling [edge, edge.reverse])
  return found.map (·.2)

/-- The roads of a container around the target that are met when it is entered. -/
def entranceRoads (task : Task α) (entrance : Direction × NodeId) :
    Except Failure (List Road) := do
  let (direction, container) := entrance
  let node ← Failure.ofGraph (task.graph.find container)
  let gaps := (List.range node.mainAvenues).map (Road.main container)
  (gaps ++ [Road.cross container 0, Road.cross container 1]).filterM fun road => do
    return (← Failure.ofGraph (task.graph.fixedAxis road)) == direction.axis.other

/-- The roads of containers around the target that a road leads into. -/
def inwardRoads (task : Task α) (road : Road) : Except Failure (List Road) := do
  let found ← ((task.entrances.get? road).getD []).mapM task.entranceRoads
  return found.flatten

/-- The roads that may follow a road, each once. -/
def nextRoads (task : Task α) (road : Road) : Except Failure (List Road) := do
  let container ← Failure.ofGraph (task.graph.find road.container)
  let outward ← task.outwardRoads container road
  let inward ← task.inwardRoads road
  let roads := lateralRoads container road ++ outward ++ inward
  return RoadMap.distinct task.graph (roads.filter (· != road))

/-- A point lies between another one and the target, along an axis. -/
def isInner (task : Task α) (moving : Axis) (start point : Point α) : Bool :=
  let here := start.along moving
  let there := point.along moving
  let goal := task.target.along moving
  Scalar.atMost Scalar.zero ((there - here) * (goal - there))

/-- The steps nearest to the target along an axis, not more than a given number. -/
def nearest (task : Task α) (moving : Axis) (limit : Nat) (steps : List (Step α)) :
    List (Step α) :=
  let distance (step : Step α) : α :=
    Scalar.abs (step.point.along moving - task.target.along moving)
  (Scalar.sortBy distance steps).take limit

/-- The steps that may follow a walk: those on the way to the target first. -/
def nextSteps (task : Task α) (walk : Walk α) : Except Failure (List (Step α)) := do
  let roads ← task.nextRoads walk.road
  let (fixed, _) ← task.line walk.road
  let steps ← roads.mapM (task.stepOnto walk.point)
  let moving := fixed.other
  let (inner, outer) := steps.partition fun step => task.isInner moving walk.point step.point
  return task.nearest moving task.config.innerLimit inner ++
    task.nearest moving task.config.outerLimit outer

/-- A walk offered to a search, which keeps it if it reaches its road on a shorter way. -/
def offer (task : Task α) (progress : Progress α) (walk : Walk α) : Progress α :=
  match (progress.best.get? walk.road).join with
  | some best => if Scalar.atMost best walk.length then progress else keep
  | none => keep
where
  /-- What is known with the walk. -/
  keep : Progress α :=
    let estimate := walk.length + walk.point.manhattan task.target
    { walks := progress.walks.push walk
      queue := Scalar.insertBy (·.estimate) ⟨estimate, progress.walks.size⟩ progress.queue
      best := progress.best.set walk.road (some walk.length) }

/-- The walk from the source straight onto a road. -/
def firstWalk (task : Task α) (first : Direction) (road : Road) : Except Failure (Walk α) := do
  let step ← task.stepOnto task.source road
  return {
    road
    point := step.point
    length := task.source.manhattan step.point
    parent := none
    first
    roads := 1 }

/-- The walk with one more step. -/
def continued (index : Nat) (walk : Walk α) (step : Step α) : Walk α where
  road := step.road
  point := step.point
  length := walk.length + walk.point.manhattan step.point
  parent := some index
  first := walk.first
  roads := walk.roads + 1

/-- The walks from the source straight onto a road in one direction. -/
def firstWalks (task : Task α) (ceiling : Nat) (first : Direction) :
    Except Failure (List (Walk α)) := do
  let found ← Failure.ofGraph (task.graph.exitRoads task.ends.source.node first ceiling)
  found.mapM fun (_, road) => task.firstWalk first road

/-- The search before its first turn: all walks of one road. -/
def start (task : Task α) : Except Failure (Progress α) := do
  let id := task.ends.source.node
  let ceiling ← Failure.ofGraph (task.graph.climb task.ends.common id)
  let sides ← Failure.ofGraph (task.graph.allowedExits id task.ends.source.edge)
  let walks ← sides.mapM (task.firstWalks ceiling)
  return walks.flatten.foldl task.offer ⟨#[], [], .ofGraph task.graph none⟩

/-- What comes of the first walk that waits. -/
inductive Turn (α : Type) where
  /-- The walk ends on a road onto which the target leaves in a direction. -/
  | arrived (index : Nat) (walk : Walk α) (exit : Direction)
  /-- The walk is to be continued. -/
  | proceed (index : Nat) (walk : Walk α) (rest : List (Entry α))
  deriving Repr

/-- A shorter walk to the last road of a walk is known. -/
def isOutrun (progress : Progress α) (walk : Walk α) : Bool :=
  match (progress.best.get? walk.road).join with
  | some best => Scalar.less best walk.length
  | none => false

/-- What comes of the walks that wait: those that were outrun are passed over. -/
def turn? (task : Task α) (progress : Progress α) : List (Entry α) → Option (Turn α)
  | [] => none
  | entry :: rest =>
      match progress.walks[entry.walk]? with
      | none => turn? task progress rest
      | some walk =>
          match (task.goals.get? walk.road).join with
          | some exit => some (.arrived entry.walk walk exit)
          | none =>
              if isOutrun progress walk then turn? task progress rest
              else some (.proceed entry.walk walk rest)

/-- The roads of a walk, from the last one back, as far as a given number of them. -/
def roadsBack (walks : Array (Walk α)) : Nat → Option Nat → List Road
  | count + 1, some index =>
      match walks[index]? with
      | some walk => walk.road :: roadsBack walks count walk.parent
      | none => []
  | _, _ => []

/-- The route of a walk that arrived. -/
def route (task : Task α) (progress : Progress α) (index : Nat) (walk : Walk α)
    (exit : Direction) : Route :=
  task.ends.route walk.first exit
    (roadsBack progress.walks progress.walks.size (some index)).reverse

/-- What is known after a walk was continued by all steps that may follow. -/
def expand (task : Task α) (progress : Progress α) (index : Nat) (walk : Walk α) :
    Except Failure (Progress α) := do
  if maxRoads ≤ walk.roads then return progress
  let steps ← task.nextSteps walk
  return (steps.map (continued index walk)).foldl task.offer progress

/-- The route found in a number of turns, if there is one. The last turn may only arrive. -/
def search (task : Task α) : Nat → Progress α → Except Failure (Option Route)
  | 0, _ => .ok none
  | turns + 1, progress =>
      match turn? task progress progress.queue with
      | none => .ok none
      | some (.arrived index walk exit) => .ok (some (task.route progress index walk exit))
      | some (.proceed index walk rest) =>
          if turns = 0 then .ok none
          else do
            let next ← task.expand { progress with queue := rest } index walk
            search task turns next

/-- The route found within the limits of a search, if there is one. -/
def run (task : Task α) : Except Failure (Option Route) := do
  task.search (maxExpansions + 1) (← task.start)

end Task

end Search

/-- A layout with the middle lines of its roads. -/
def Reference.ofLayout {α : Type} [Scalar α] (graph : Graph α) (layout : Layout α) :
    Reference α where
  layout := layout
  lines := layout.roads.foldl
    (fun lines road => lines.set road.road (some (road.fixedAxis, road.centerLine)))
    (.ofGraph graph none)

end BoxDiagram
