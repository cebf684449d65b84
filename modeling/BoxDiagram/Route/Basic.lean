import BoxDiagram.Diagnostic.Failure
import BoxDiagram.Road.Basic

namespace BoxDiagram

/-!
# Routes

A route is the list of roads along which a link travels from its source to its
target. Before planning, a link is checked against the graph; after planning, its
route is checked to touch both of its boxes.
-/

/-- A road of a route, with the lane that was given to the link. -/
structure Passage where
  road : Road
  lane : Option Nat
  deriving Repr, DecidableEq

/-- The way of a link. -/
structure Route where
  link : LinkId
  source : NodeId
  target : NodeId
  /-- The absolute direction in which the link leaves its source. -/
  sourceExit : Direction
  /-- The absolute direction in which the link, followed backward, leaves its target. -/
  targetExit : Direction
  passages : List Passage
  deriving Repr, DecidableEq

/-- The roads of a route, from the source on. -/
def Route.roads (route : Route) : List Road :=
  route.passages.map (·.road)

/-- A link with the innermost container around both of its boxes. -/
structure LinkEnds where
  id : LinkId
  source : Endpoint
  target : Endpoint
  common : NodeId
  deriving Repr, DecidableEq

variable {α : Type}

namespace Graph

/-- The number of levels from a box up to a container above it. -/
def climb (graph : Graph α) (container id : NodeId) : Except GraphFault Nat := do
  let depth := (← graph.find id).depth
  let top := (← graph.find container).depth
  if top ≤ depth then return depth - top else throw (.aboveRoot id)

/-- The box of a number as errors name it. -/
def displayName (graph : Graph α) (id : NodeId) : Except GraphFault String := do
  return (← graph.find id).displayName

end Graph

namespace LinkEnds

/-- The failure that a link refers to a box outside the graph, if it does. -/
def checkEndpoint (graph : Graph α) (id : LinkId) (endpoint : Endpoint) : Except Failure Unit :=
  match graph.get? endpoint.node with
  | some _ => .ok ()
  | none =>
      .error <| .stage .unknownReference
        s!"{LinkId.display id} refers to unknown node {NodeId.display endpoint.node}"

/-- The ends of a link, if none of its boxes holds the other one. -/
def ofLink (graph : Graph α) (id : LinkId) (link : Link) : Except Failure LinkEnds := do
  checkEndpoint graph id link.source
  checkEndpoint graph id link.target
  let source := link.source.node
  let target := link.target.node
  if ← graph.isRelated source target then
    let sourceName ← graph.displayName source
    let targetName ← graph.displayName target
    throw <| .stage .relatedEnds <|
      s!"{LinkId.display id} joins `{sourceName}` and `{targetName}`, " ++
        "one of which contains the other"
  match ← graph.commonAncestor source target with
  | some common => return { id, source := link.source, target := link.target, common }
  | none =>
      throw <| .stage .noCommonContainer <|
        s!"{LinkId.display id}: nodes {NodeId.display source} and {NodeId.display target} " ++
          "share no ancestor"

/-- The route of a link along given roads. -/
def route (ends : LinkEnds) (sourceExit targetExit : Direction) (roads : List Road) : Route where
  link := ends.id
  source := ends.source.node
  target := ends.target.node
  sourceExit := sourceExit
  targetExit := targetExit
  passages := roads.map fun road => ⟨road, none⟩

/-- Checks that an end of a link reaches a road. -/
def requireReach
    (graph : Graph α)
    (ends : LinkEnds)
    (endpoint : Endpoint)
    (road : Road)
    (which : String) : Except Failure Unit := do
  if ← graph.reaches endpoint.node road endpoint.edge then return
  let name ← graph.displayName endpoint.node
  throw (.stage .detachedRoute s!"{LinkId.display ends.id}: {which} road does not touch `{name}`")

/-- Checks that a route starts and ends at roads that its boxes reach. -/
def verify (graph : Graph α) (ends : LinkEnds) (route : Route) : Except Failure Unit := do
  match route.roads.head?, route.roads.getLast? with
  | some first, some last =>
      ends.requireReach graph ends.source first "first"
      ends.requireReach graph ends.target last "last"
  | _, _ => throw (.stage .detachedRoute s!"{LinkId.display ends.id} has an empty route")

end LinkEnds

end BoxDiagram
