namespace BoxDiagram

/-!
# Configuration

What a user may choose besides the diagram itself: how routes are searched, how
the layout is made in which they are searched, and how the result is written.
-/

/-- How routes are found. -/
inductive PlannerKind where
  /-- By a search through a layout without links. -/
  | geometric
  /-- By the tree of boxes alone. -/
  | topological
  deriving Repr, DecidableEq, Inhabited

namespace PlannerKind

/-- The planner as a configuration names it. -/
def name : PlannerKind → String
  | .geometric => "geometric"
  | .topological => "topological"

/-- The planner of a name. -/
def ofName? : String → Option PlannerKind
  | "geometric" => some .geometric
  | "topological" => some .topological
  | _ => none

end PlannerKind

/-- The choice of a planner, and its limits. -/
structure RouteConfig where
  planner : PlannerKind := .geometric
  /-- The number of next roads that a search keeps on the way to the target. -/
  innerLimit : Nat := 10
  /-- The number of next roads that a search keeps off the way to the target. -/
  outerLimit : Nat := 5
  /-- The greatest number of turns of a climb out of a box. -/
  depthLimit : Nat := 1000
  deriving Repr, DecidableEq

/-- How the layout is made in which routes are searched. -/
structure ReferenceConfig where
  /-- The least number of lanes of a road of that layout. -/
  laneMin : Nat := 1
  deriving Repr, DecidableEq

/-- How a layout is written. -/
structure OutputConfig where
  pretty : Bool := false
  deriving Repr, DecidableEq

/-- A whole configuration. -/
structure Config where
  route : RouteConfig := {}
  reference : ReferenceConfig := {}
  output : OutputConfig := {}
  deriving Repr, DecidableEq

/-- The configuration with another planner. -/
def Config.withPlanner (config : Config) (planner : PlannerKind) : Config :=
  { config with route := { config.route with planner } }

end BoxDiagram
