import BoxDiagram.Proofs.Graph.Ancestors
import BoxDiagram.Road.Basic
import Mathlib.Data.List.ReduceOption

namespace BoxDiagram

/-!
# Roads next to boxes

A line that leaves a box in one direction passes containers until it meets the
gap between two siblings.  On its way it can turn into the road next to each
container that it leaves.  `Graph.MeetsRoad` names the road at each level, and the
roads that the planners compute are exactly these.
-/

variable {α : Type} {graph : Graph α}

/-- A direction is perpendicular to the frame axis that its counterpart in the frame fixes. -/
@[simp] theorem Compass.axis_axisDirection_relativeOf
    (compass : Compass)
    (direction : Direction) :
    (compass.axisDirection (compass.relativeOf direction).axis).axis = direction.axis := by
  obtain ⟨first, second, crossing⟩ := compass
  revert crossing
  cases first <;> cases second <;> cases direction <;> decide

/-- The two axes of a frame run along different axes of the canvas. -/
theorem Compass.axis_axisDirection_ne
    (compass : Compass)
    {first second : Axis}
    (different : first ≠ second) :
    (compass.axisDirection first).axis ≠ (compass.axisDirection second).axis := by
  cases first <;> cases second
  · exact absurd rfl different
  · exact compass.crossing
  · exact compass.crossing.symm
  · exact absurd rfl different

theorem mem_take_zipIdx_one_iff
    {β : Type}
    {items : List β}
    {count number : Nat}
    {item : β} :
    (item, number) ∈ (items.take count).zipIdx 1 ↔
      ∃ position, number = position + 1 ∧ position < count ∧ items[position]? = some item := by
  rw [List.mem_zipIdx_iff_le_and_getElem?_sub, List.getElem?_take]
  constructor
  · rintro ⟨positive, listed⟩
    by_cases inside : number - 1 < count
    · exact ⟨number - 1, by simp at positive; omega, inside, by simpa [inside] using listed⟩
    · simp [inside] at listed
  · rintro ⟨position, rfl, inside, listed⟩
    exact ⟨by simp, by simpa [inside] using listed⟩

/-- The road of a container next to one of its children in a direction. -/
def Road.beside (container child : Node α) (direction : Direction) : Road :=
  match container.itemFrame.relativeOf direction with
  | .main => .main container.id (child.index + 1)
  | .mainReverse => .main container.id child.index
  | .cross => .cross container.id 1
  | .crossReverse => .cross container.id 0

/-- The road beside a box lies in its container. -/
@[simp] theorem Road.container_beside
    (container child : Node α)
    (direction : Direction) :
    (Road.beside container child direction).container = container.id := by
  rw [Road.beside]
  cases container.itemFrame.relativeOf direction <;> rfl

/-- The road beside a box has the axis of the direction in which it lies. -/
@[simp] theorem Road.axis_beside
    (container child : Node α)
    (direction : Direction) :
    (Road.beside container child direction).axis =
      (container.itemFrame.relativeOf direction).axis := by
  rw [Road.beside]
  cases container.itemFrame.relativeOf direction <;> rfl

namespace Graph

/-- A road is one of the roads of a container of the graph. -/
structure IsRoadOf (graph : Graph α) (container : Node α) (road : Road) : Prop where
  found : graph.get? road.container = some container
  isContainer : container.isContainer = true
  avenue :
    match road.axis with
    | .main => road.avenue ≤ container.children.length
    | .cross => road.avenue < 2

/-- The roads of a container are those between its children and its two edges. -/
theorem isRoadOf_iff
    {graph : Graph α}
    {container : Node α}
    {road : Road}
    (found : graph.get? road.container = some container)
    (isContainer : container.isContainer = true) :
    graph.IsRoadOf container road ↔
      match road.axis with
      | .main => road.avenue ≤ container.children.length
      | .cross => road.avenue < 2 :=
  ⟨fun isRoad => isRoad.avenue, fun avenue => ⟨found, isContainer, avenue⟩⟩

/-- A road exists in the graph. -/
def HasRoad (graph : Graph α) (road : Road) : Prop :=
  ∃ container, graph.IsRoadOf container road

/-- A box that goes outward in a direction meets a road after a number of levels. -/
structure MeetsRoad
    (graph : Graph α)
    (node : Node α)
    (direction : Direction)
    (level : Nat)
    (road : Road)
    (below container : Node α) : Prop where
  isOuter : graph.IsOuter node level below
  found : graph.get? container.id = some container
  holds : container.Holds below
  road_eq : road = Road.beside container below direction

/-- A road fixes the coordinate along its axis in the frame of its container. -/
theorem IsRoadOf.fixedAxis_eq
    {container : Node α}
    {road : Road}
    (isRoad : graph.IsRoadOf container road) :
    graph.fixedAxis road = .ok (container.itemFrame.axisDirection road.axis).axis := by
  rw [fixedAxis, find_eq_ok_iff.mpr isRoad.found]
  rfl

namespace MeetsRoad

variable
  {node below container : Node α}
  {direction : Direction}
  {level : Nat}
  {road : Road}

/-- The container of a road that is met is one level further out than the box below it. -/
theorem isOuter_container
    (meets : graph.MeetsRoad node direction level road below container) :
    graph.IsOuter node (level + 1) container :=
  meets.isOuter.trans (.of_holds meets.found meets.holds)

/-- A road is met below the root. -/
theorem level_lt
    (meets : graph.MeetsRoad node direction level road below container) :
    level < node.depth := by
  have := meets.isOuter_container.depth_eq
  omega

/-- A road that is met lies in the container at its level. -/
@[simp] theorem container_eq
    (meets : graph.MeetsRoad node direction level road below container) :
    road.container = container.id := by
  rw [meets.road_eq, Road.container_beside]

/-- A road that is met is one of its container. -/
theorem isRoadOf
    (meets : graph.MeetsRoad node direction level road below container) :
    graph.IsRoadOf container road where
  found := by
    rw [meets.container_eq]
    exact meets.found
  isContainer := meets.holds.isContainer
  avenue := by
    have inside := meets.holds.index_lt
    rw [meets.road_eq, Road.beside]
    cases container.itemFrame.relativeOf direction with
    | main =>
        exact inside
    | mainReverse =>
        exact Nat.le_of_lt inside
    | cross =>
        exact Nat.one_lt_two
    | crossReverse =>
        exact Nat.zero_lt_two

/-- At each level, one road is met. -/
theorem unique
    {other : Road}
    {otherBelow otherContainer : Node α}
    (meets : graph.MeetsRoad node direction level road below container)
    (otherMeets : graph.MeetsRoad node direction level other otherBelow otherContainer) :
    road = other := by
  rw [meets.road_eq, otherMeets.road_eq, meets.isOuter.unique otherMeets.isOuter,
    meets.isOuter_container.unique otherMeets.isOuter_container]

/-- A road that is met fixes the axis of the direction in which it is met. -/
theorem fixedAxis_eq
    (meets : graph.MeetsRoad node direction level road below container) :
    graph.fixedAxis road = .ok direction.axis := by
  rw [meets.isRoadOf.fixedAxis_eq, meets.road_eq, Road.axis_beside,
    Compass.axis_axisDirection_relativeOf]

end MeetsRoad

namespace IsTree

variable {id : NodeId} {node : Node α} (tree : graph.IsTree)
include tree

/-- A box that lies in another one has a road beside it in every direction. -/
theorem adjacentRoad_eq
    {container : Node α}
    (found : graph.get? id = some node)
    (containerFound : graph.get? container.id = some container)
    (holds : container.Holds node)
    (direction : Direction) :
    graph.adjacentRoad id direction = .ok (some (Road.beside container node direction)) := by
  have same := tree.id_of_get? found
  subst same
  simp only [adjacentRoad, find_eq_ok_iff.mpr found, holds.parent_eq,
    find_eq_ok_iff.mpr containerFound, Road.beside, bind, Except.bind, pure, Except.pure]
  cases container.itemFrame.relativeOf direction <;> rfl

/-- A box meets a road at every level below the root. -/
theorem exists_meetsRoad
    (found : graph.get? id = some node)
    (direction : Direction)
    {level : Nat}
    (inside : level < node.depth) :
    ∃ road below container, graph.MeetsRoad node direction level road below container := by
  obtain ⟨below, isOuter⟩ := tree.exists_isOuter found level (Nat.le_of_lt inside)
  have deep : 0 < below.depth := by
    have := isOuter.depth_eq
    omega
  obtain ⟨container, containerFound, holds⟩ := tree.exists_holds isOuter.found deep
  exact ⟨_, below, container, isOuter, containerFound, holds, rfl⟩

/-- The road that is met is found next to the box below it. -/
theorem adjacentRoadAt_of_meets
    {below container : Node α}
    {level number : Nat}
    {road : Road}
    {direction : Direction}
    (meets : graph.MeetsRoad node direction level road below container) :
    graph.adjacentRoadAt direction below.id number = .ok (some (number, road)) := by
  rw [adjacentRoadAt,
    tree.adjacentRoad_eq meets.isOuter.found meets.found meets.holds, ← meets.road_eq,
    Attempt.ok_bind]
  rfl

/-- There is no road next to the root. -/
theorem adjacentRoadAt_of_outermost
    {top : Node α}
    {number : Nat}
    {direction : Direction}
    (outermost : graph.IsOuter node node.depth top) :
    graph.adjacentRoadAt direction top.id number = .ok none := by
  have shallow : top.depth = 0 := by
    have := outermost.depth_eq
    omega
  rcases tree.parent_of_get? outermost.found with isTop | ⟨parent, _, holds⟩
  · simp only [adjacentRoadAt, adjacentRoad, find_eq_ok_iff.mpr outermost.found,
      isTop.parent_eq, bind, Except.bind, pure, Except.pure, Option.map_none]
  · have := holds.depth_eq
    omega

/-- At each level outward there is a road to be met, or the level is that of the root. -/
theorem exists_adjacentRoadAt
    (found : graph.get? id = some node)
    (direction : Direction)
    {below : NodeId}
    {level : Nat}
    (atLevel : node.outward[level]? = some below)
    (number : Nat) :
    ∃ meeting, graph.adjacentRoadAt direction below number = .ok meeting ∧
      ∀ entry, meeting = some entry ↔
        entry.1 = number ∧
          ∃ box container, graph.MeetsRoad node direction level entry.2 box container := by
  have inside : level < node.outward.length := (List.getElem?_eq_some_iff.mp atLevel).1
  rw [Node.length_outward] at inside
  by_cases outermost : level = node.depth
  · subst level
    obtain ⟨top, isOuter⟩ := tree.exists_isOuter found node.depth (Nat.le_refl _)
    obtain rfl := Option.some.inj (isOuter.getElem?_outward.symm.trans atLevel)
    refine ⟨none, tree.adjacentRoadAt_of_outermost isOuter, ?_⟩
    rintro ⟨other, road⟩
    constructor
    · intro impossible
      cases impossible
    · rintro ⟨_, box, container, meets⟩
      exact absurd meets.level_lt (Nat.lt_irrefl _)
  · obtain ⟨road, box, container, meets⟩ :=
      tree.exists_meetsRoad found direction (show level < node.depth by omega)
    obtain rfl := Option.some.inj (meets.isOuter.getElem?_outward.symm.trans atLevel)
    refine ⟨some (number, road), tree.adjacentRoadAt_of_meets meets, ?_⟩
    rintro ⟨other, otherRoad⟩
    constructor
    · intro same
      cases same
      exact ⟨rfl, box, container, meets⟩
    · rintro ⟨rfl, otherBox, otherContainer, otherMeets⟩
      rw [meets.unique otherMeets]

/-- The roads that a box reaches when it leaves in a direction can always be listed. -/
theorem exists_exitRoads
    (found : graph.get? id = some node)
    (direction : Direction)
    (ceiling : Nat) :
    ∃ roads, graph.exitRoads id direction ceiling = .ok roads := by
  rw [exitRoads, find_eq_ok_iff.mpr found, Attempt.ok_bind]
  have met :
      ∀ entry ∈ (node.outward.take (min (node.boundary.toward direction) ceiling)).zipIdx 1,
        ∃ meeting, graph.adjacentRoadAt direction entry.1 entry.2 = .ok meeting := by
    rintro ⟨below, number⟩ member
    obtain ⟨level, _, _, atLevel⟩ := mem_take_zipIdx_one_iff.mp member
    obtain ⟨meeting, succeeds, _⟩ :=
      tree.exists_adjacentRoadAt found direction atLevel number
    exact ⟨meeting, succeeds⟩
  obtain ⟨meetings, succeed⟩ := Attempt.exists_mapM_eq_ok met
  exact ⟨meetings.reduceOption, Attempt.bind_eq_ok_iff.mpr ⟨meetings, succeed, rfl⟩⟩

/--
The roads that a box reaches are those that it meets up to its boundary number and
the ceiling.
-/
theorem mem_exitRoads_iff
    (found : graph.get? id = some node)
    {direction : Direction}
    {ceiling number : Nat}
    {road : Road}
    {roads : List (Nat × Road)}
    (succeeded : graph.exitRoads id direction ceiling = .ok roads) :
    (number, road) ∈ roads ↔
      ∃ level below container,
        number = level + 1 ∧ level < node.boundary.toward direction ∧ level < ceiling ∧
          graph.MeetsRoad node direction level road below container := by
  rw [exitRoads, find_eq_ok_iff.mpr found, Attempt.ok_bind] at succeeded
  obtain ⟨meetings, met, same⟩ := Attempt.bind_eq_ok_iff.mp succeeded
  cases same
  rw [List.reduceOption_mem_iff]
  constructor
  · intro member
    obtain ⟨⟨below, position⟩, listed, meeting⟩ := Attempt.exists_of_mem_mapM met member
    obtain ⟨level, rfl, inside, atLevel⟩ := mem_take_zipIdx_one_iff.mp listed
    obtain ⟨expected, succeeds, isMeeting⟩ :=
      tree.exists_adjacentRoadAt found direction atLevel (level + 1)
    obtain rfl := Except.ok.inj (succeeds.symm.trans meeting)
    obtain ⟨rfl, box, container, meets⟩ := (isMeeting _).mp rfl
    exact ⟨level, box, container, rfl, by omega, by omega, meets⟩
  · rintro ⟨level, below, container, rfl, withinBoundary, withinCeiling, meets⟩
    have listed :
        (below.id, level + 1) ∈
          (node.outward.take (min (node.boundary.toward direction) ceiling)).zipIdx 1 :=
      mem_take_zipIdx_one_iff.mpr ⟨level, rfl, by omega, meets.isOuter.getElem?_outward⟩
    obtain ⟨meeting, member, succeeds⟩ := Attempt.exists_result_of_mem met listed
    obtain rfl := Except.ok.inj (succeeds.symm.trans (tree.adjacentRoadAt_of_meets meets))
    exact member

end IsTree

end Graph

end BoxDiagram
