import BoxDiagram.Route.Search
import BoxDiagram.Route.Topological

namespace BoxDiagram

/-!
# Planning the routes of links

A planner gives every link its route. One plans by the tree of boxes alone; the
other one searches a layout without links, and falls back on the tree where the
search gives up.
-/

/-- What a planner may use. -/
structure PlannerInput (α : Type) where
  graph : Graph α
  links : List Link
  config : RouteConfig
  /-- The layout of the diagram without links, on demand. -/
  reference : Unit → Except Failure (Layout α)

/-- A planner finds a route for each link, or tells why it cannot. -/
abbrev RoutePlanner (α : Type) := PlannerInput α → Except Failure (List Route)

namespace RoutePlanner

variable {α : Type}

/-- Plans by the tree of boxes alone. -/
def topological : RoutePlanner α := fun input =>
  Topological.plan input.graph input.config.depthLimit input.links

variable [Scalar α]

/-- The route of a link by a search, or else by the tree. -/
def searchLink (input : PlannerInput α) (reference : Reference α) (id : LinkId) (link : Link) :
    Except Failure Route := do
  let ends ← LinkEnds.ofLink input.graph id link
  let task ← Search.Task.ofEnds input.graph reference input.config ends
  let route ← match ← task.run with
    | some route => pure route
    | none => Topological.routeLink input.graph ends input.config.depthLimit
  ends.verify input.graph route
  return route

/-- Plans by a search through the layout without links, which is made only if there is a link. -/
def geometric : RoutePlanner α := fun input =>
  match input.links with
  | [] => .ok []
  | links => do
      let reference := Reference.ofLayout input.graph (← input.reference ())
      links.zipIdx.mapM fun (link, id) => searchLink input reference id link

/-- The planner of a kind. -/
def ofKind : PlannerKind → RoutePlanner α
  | .geometric => geometric
  | .topological => topological

end RoutePlanner

end BoxDiagram
