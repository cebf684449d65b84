import BoxDiagram.Route.Stub

namespace BoxDiagram

/-!
# Routes from the tree alone

The stubs of both ends of a link are joined in the container around both. The
cheapest pair wins, by the number of roads and by how the stubs meet.

Places of boxes and scores are added up as whole numbers.  These are the sums of machine
words as long as `Topological.StaysInWords` holds, as it does where the data of an accepted
graph leave room for them.
-/

namespace Topological

/-- The children of the common container around the two ends of a link. -/
structure Branches where
  source : NodeId
  target : NodeId
  deriving Repr, DecidableEq

/-- Two stubs joined: the roads from source to target, and the penalty of the join. -/
structure Join where
  source : Stub
  target : Stub
  roads : List Road
  penalty : Nat
  deriving Repr, DecidableEq

/-- The cost of a join: ten for each road, and the penalty. -/
def Join.score (join : Join) : Nat :=
  10 * join.roads.length + join.penalty

variable {α : Type}

/-- The road that connects two different roads across one axis of a container. -/
def connector (graph : Graph α) (branches : Branches) (road : Road) : Except GraphFault Road := do
  match road.axis with
  | .main => return .cross road.container (if branches.source < branches.target then 1 else 0)
  | .cross =>
      let source := (← graph.find branches.source).index
      let target := (← graph.find branches.target).index
      return .main road.container (if source < target then source + 1 else source)

/-- How far two numbers are apart. -/
def distance (first second : Nat) : Nat :=
  max first second - min first second

/-- The join of two stubs, if they end in one container. -/
def join? (graph : Graph α) (branches : Branches) (source target : Stub) :
    Except GraphFault (Option Join) := do
  let leave := source.lastRoad
  let arrive := target.lastRoad
  let back := target.before.reverse
  if leave.container ≠ arrive.container then return none
  else if leave = arrive then
    let penalty := if source.last = target.last.reverse then 0 else 1
    return some ⟨source, target, source.roads ++ back, penalty⟩
  else if leave.axis ≠ arrive.axis then
    return some ⟨source, target, source.roads ++ arrive :: back, 3⟩
  else
    let between ← connector graph branches leave
    return some ⟨source, target, source.roads ++ between :: arrive :: back,
      6 + distance leave.avenue arrive.avenue⟩

/-- The joins of every stub of one list with every stub of another one. -/
def joins (graph : Graph α) (branches : Branches) (sources targets : List Stub) :
    Except GraphFault (List Join) := do
  let found ← sources.mapM fun source => targets.mapM (join? graph branches source)
  return found.flatten.reduceOption

/-- The first of the joins with the least score. -/
def cheapest (joins : List Join) : Option Join :=
  joins.foldl
    (fun kept found =>
      match kept with
      | some best => if found.score < best.score then some found else some best
      | none => some found)
    none

/-- The child of the common container of a link that holds a box, or is that box. -/
def branch (graph : Graph α) (ends : LinkEnds) (id : NodeId) : Except Failure NodeId := do
  let levels ← Failure.ofGraph (graph.climb ends.common id)
  match ← Failure.ofGraph (graph.ancestorAt id (levels - 1)) with
  | some found => return found
  | none =>
      throw (.stage .noCommonContainer s!"{LinkId.display ends.id}: broken ancestor chain")

/-- The joins that are compared for a link, in the order of the stubs of its ends. -/
def candidates (graph : Graph α) (ends : LinkEnds) (limit : Nat) :
    Except Failure (List Join) := do
  let top := (← Failure.ofGraph (graph.find ends.common)).depth
  let frame : Climb.Frame α := ⟨graph, top, limit⟩
  let (sources, memory) ← Climb.stubs frame ends.source []
  let (targets, _) ← Climb.stubs frame ends.target memory
  let sourceBranch ← branch graph ends ends.source.node
  let targetBranch ← branch graph ends ends.target.node
  Failure.ofGraph (joins graph ⟨sourceBranch, targetBranch⟩ sources targets)

/-- The cheapest join of the stubs of a link, if there is one. -/
def bestJoin (graph : Graph α) (ends : LinkEnds) (limit : Nat) :
    Except Failure (Option Join) := do
  return cheapest (← candidates graph ends limit)

/-- The route of a checked link along its cheapest join. -/
def routeLink (graph : Graph α) (ends : LinkEnds) (limit : Nat) : Except Failure Route := do
  match ← bestJoin graph ends limit with
  | some join => return ends.route join.source.first join.target.first join.roads
  | none =>
      let source ← Failure.ofGraph (graph.displayName ends.source.node)
      let target ← Failure.ofGraph (graph.displayName ends.target.node)
      throw <| .stage .noRoute
        s!"{LinkId.display ends.id}: no way from `{source}` to `{target}`"

/-- The route of a link, verified. -/
def planLink (graph : Graph α) (limit : Nat) (id : LinkId) (link : Link) :
    Except Failure Route := do
  let ends ← LinkEnds.ofLink graph id link
  let route ← routeLink graph ends limit
  ends.verify graph route
  return route

/-- The routes of a list of links. -/
def plan (graph : Graph α) (limit : Nat) (links : List Link) : Except Failure (List Route) :=
  links.zipIdx.mapM fun (link, id) => planLink graph limit id link

end Topological

end BoxDiagram
