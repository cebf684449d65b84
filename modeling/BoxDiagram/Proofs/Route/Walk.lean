import BoxDiagram.Proofs.Road.Exits
import BoxDiagram.Route.Basic

namespace BoxDiagram

/-!
# Walks along roads

A link turns from one road into another one where the two cross.  They belong to
one container, or one of them leads out of its container into the other one.
`Graph.IsWalk` says what a planner has to find between the two ends of a link.
-/

variable {α : Type} {graph : Graph α}

namespace Graph

/-- Two roads fix different axes. -/
def Crosses (graph : Graph α) (road next : Road) : Prop :=
  ∃ axis other, graph.fixedAxis road = .ok axis ∧ graph.fixedAxis next = .ok other ∧ axis ≠ other

/-- A road leads out of its container into a road at or below a container. -/
def LeadsOutward (graph : Graph α) (common : NodeId) (road next : Road) : Prop :=
  ∃ axis direction ceiling exits,
    graph.fixedAxis road = .ok axis ∧ direction.axis ≠ axis ∧
      graph.climb common road.container = .ok ceiling ∧
        graph.exitRoads road.container direction ceiling = .ok exits ∧
          next ∈ exits.map (·.2)

/-- A link can turn from a road into another one below a container. -/
def Turns (graph : Graph α) (common : NodeId) (road next : Road) : Prop :=
  graph.Crosses road next ∧
    (road.container = next.container ∨
      graph.LeadsOutward common road next ∨ graph.LeadsOutward common next road)

/-- A box leaves in one of its allowed directions onto a road below a container. -/
def LeavesOnto
    (graph : Graph α)
    (common : NodeId)
    (endpoint : Endpoint)
    (exit : Direction)
    (road : Road) : Prop :=
  ∃ allowed ceiling exits,
    graph.allowedExits endpoint.node endpoint.edge = .ok allowed ∧ exit ∈ allowed ∧
      graph.climb common endpoint.node = .ok ceiling ∧
        graph.exitRoads endpoint.node exit ceiling = .ok exits ∧
          road ∈ exits.map (·.2)

/-- A road exists, around one of two boxes and at or below a container. -/
def IsRoadBetween (graph : Graph α) (common first second : NodeId) (road : Road) : Prop :=
  graph.HasRoad road ∧ graph.AtOrAbove common road.container ∧
    (graph.Above road.container first ∨ graph.Above road.container second)

/-- A box around neither end of a link lies around none of the roads between them. -/
theorem IsRoadBetween.not_atOrAbove
    {common first second id : NodeId}
    {road : Road}
    (between : graph.IsRoadBetween common first second road)
    (notFirst : ¬ graph.Above id first)
    (notSecond : ¬ graph.Above id second) :
    ¬ graph.AtOrAbove id road.container := by
  intro around
  rcases between.2.2 with aboveFirst | aboveSecond
  · exact notFirst (Relation.TransGen.trans_right around aboveFirst)
  · exact notSecond (Relation.TransGen.trans_right around aboveSecond)

/-- The roads of a route lead from one end of a link to the other. -/
structure IsWalk
    (graph : Graph α)
    (common : NodeId)
    (source target : Endpoint)
    (sourceExit targetExit : Direction)
    (roads : List Road) : Prop where
  first : ∃ road, roads.head? = some road ∧ graph.LeavesOnto common source sourceExit road
  last : ∃ road, roads.getLast? = some road ∧ graph.LeavesOnto common target targetExit road
  between : ∀ road ∈ roads, graph.IsRoadBetween common source.node target.node road
  turns : roads.IsChain (graph.Turns common)

/-- Roads cross each other. -/
theorem Crosses.symm
    {road next : Road}
    (crosses : graph.Crosses road next) :
    graph.Crosses next road := by
  obtain ⟨axis, other, roadAxis, nextAxis, different⟩ := crosses
  exact ⟨other, axis, nextAxis, roadAxis, different.symm⟩

/-- Turns can be taken in either direction. -/
theorem Turns.symm
    {common : NodeId}
    {road next : Road}
    (turns : graph.Turns common road next) :
    graph.Turns common next road := by
  obtain ⟨crosses, sameContainer | outward | inward⟩ := turns
  · exact ⟨crosses.symm, .inl sameContainer.symm⟩
  · exact ⟨crosses.symm, .inr (.inr outward)⟩
  · exact ⟨crosses.symm, .inr (.inl inward)⟩

/-- A link whose side is fixed leaves its box at this side of the frame the box lies in. -/
theorem LeavesOnto.exit_eq_of_edge
    {common : NodeId}
    {endpoint : Endpoint}
    {node : Node α}
    {exit side : Direction}
    {road : Road}
    (leaves : graph.LeavesOnto common endpoint exit road)
    (isFixed : endpoint.edge = some side)
    (found : graph.get? endpoint.node = some node) :
    exit = node.ownFrame.absoluteOf side := by
  obtain ⟨allowed, _, _, allows, isAllowed, _⟩ := leaves
  rw [isFixed] at allows
  simp only [allowedExits, find_eq_ok_iff.mpr found, Attempt.ok_bind] at allows
  cases allows
  exact List.mem_singleton.mp isAllowed

/-- Roads across each other in one container can be turned between. -/
theorem turns_of_axis_ne
    {common : NodeId}
    {container : Node α}
    {road next : Road}
    (roadOf : graph.IsRoadOf container road)
    (nextOf : graph.IsRoadOf container next)
    (sameContainer : road.container = next.container)
    (different : road.axis ≠ next.axis) :
    graph.Turns common road next :=
  ⟨⟨_, _, roadOf.fixedAxis_eq, nextOf.fixedAxis_eq,
    container.itemFrame.axis_axisDirection_ne different⟩, .inl sameContainer⟩

/-- A climb to a container takes the levels between. -/
theorem IsOuter.climb_eq
    {id : NodeId}
    {node common : Node α}
    {level : Nat}
    (isOuter : graph.IsOuter node level common)
    (found : graph.get? id = some node) :
    graph.climb common.id id = .ok level := by
  have depths := isOuter.depth_eq
  have above : common.depth ≤ node.depth := by omega
  rw [climb, find_eq_ok_iff.mpr found, Attempt.ok_bind, find_eq_ok_iff.mpr isOuter.found,
    Attempt.ok_bind, if_pos above]
  congr 1
  omega

namespace IsTree

variable (tree : graph.IsTree)
include tree

theorem exists_exitRoads_of_meets
    {id : NodeId}
    {node below container : Node α}
    {direction : Direction}
    {level ceiling : Nat}
    {road : Road}
    (found : graph.get? id = some node)
    (meets : graph.MeetsRoad node direction level road below container)
    (withinBoundary : level < node.boundary.toward direction)
    (withinCeiling : level < ceiling) :
    ∃ exits, graph.exitRoads id direction ceiling = .ok exits ∧ road ∈ exits.map (·.2) := by
  obtain ⟨exits, listed⟩ := tree.exists_exitRoads found direction ceiling
  refine ⟨exits, listed, List.mem_map.mpr ⟨(level + 1, road), ?_, rfl⟩⟩
  exact (tree.mem_exitRoads_iff found listed).mpr
    ⟨level, below, container, rfl, withinBoundary, withinCeiling, meets⟩

/-- A road that a box meets lies around it, at or below every container further outward. -/
theorem between_of_meets
    {id : NodeId}
    {node common below container : Node α}
    {direction : Direction}
    {level ceiling : Nat}
    {road : Road}
    (found : graph.get? id = some node)
    (isOuter : graph.IsOuter node ceiling common)
    (meets : graph.MeetsRoad node direction level road below container)
    (withinCeiling : level < ceiling) :
    graph.HasRoad road ∧ graph.AtOrAbove common.id road.container ∧
      graph.Above road.container id := by
  refine ⟨⟨container, meets.isRoadOf⟩, ?_, ?_⟩
  · rw [meets.container_eq, tree.atOrAbove_iff meets.found]
    exact List.mem_of_getElem?
      (meets.isOuter_container.between isOuter withinCeiling).getElem?_outward
  · rw [meets.container_eq, tree.above_iff found]
    exact meets.isOuter_container.mem_ancestors

/-- A box with another one inside is a container. -/
theorem isContainer_of_isOuter
    {id : NodeId}
    {node outer : Node α}
    {level : Nat}
    (found : graph.get? id = some node)
    (isOuter : graph.IsOuter node (level + 1) outer) :
    outer.isContainer = true := by
  have depths := isOuter.depth_eq
  obtain ⟨_, _, container, meets⟩ :=
    tree.exists_meetsRoad found .main (show level < node.depth by omega)
  rw [isOuter.unique meets.isOuter_container]
  exact meets.holds.isContainer

/-- A road from whose container another road is met leads into it. -/
theorem leadsOutward_of_meets
    {node common below container : Node α}
    {direction : Direction}
    {axis : Axis}
    {level ceiling : Nat}
    {road next : Road}
    (roadOf : graph.get? road.container = some node)
    (fixes : graph.fixedAxis road = .ok axis)
    (along : direction.axis ≠ axis)
    (isOuter : graph.IsOuter node ceiling common)
    (meets : graph.MeetsRoad node direction level next below container)
    (withinBoundary : level < node.boundary.toward direction)
    (withinCeiling : level < ceiling) :
    graph.LeadsOutward common.id road next := by
  obtain ⟨exits, listed, member⟩ :=
    tree.exists_exitRoads_of_meets roadOf meets withinBoundary withinCeiling
  exact ⟨axis, direction, ceiling, exits, fixes, along, isOuter.climb_eq roadOf, listed,
    member⟩

end IsTree

end Graph

end BoxDiagram
