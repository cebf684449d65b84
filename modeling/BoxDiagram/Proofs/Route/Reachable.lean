import BoxDiagram.Proofs.Route.Climb
import BoxDiagram.Proofs.Route.Goals
import BoxDiagram.Proofs.Route.Search

namespace BoxDiagram

/-!
# A goal can be reached

Whatever the places of the roads are, a search could walk from each road onto which its
source leaves to a goal: out of one container after the other up to the common one, and
from there into one container after the other down to the target.  Within a container
each road leads to all others, at once or by one road between.
-/

/-- Each axis of the canvas is the one that the roads across some axis of a frame fix. -/
theorem Compass.exists_axis_axisDirection_eq
    (frame : Compass)
    (fixed : Axis) :
    ∃ axis, (frame.axisDirection axis).axis = fixed := by
  have crossing : (frame.axisDirection .main).axis ≠ (frame.axisDirection .cross).axis :=
    frame.crossing
  by_cases isMain : (frame.axisDirection .main).axis = fixed
  · exact ⟨.main, isMain⟩
  · refine ⟨.cross, ?_⟩
    cases first : (frame.axisDirection .main).axis <;>
      cases second : (frame.axisDirection .cross).axis <;> cases fixed <;> simp_all

namespace Search

open Search.Task (lateralRoads)
open Task.IsSound (IsPassable)
open Relation (ReflTransGen)

variable
  {α : Type}
  {task : Task α}
  {source target common container : Node α}
  {climb descent level : Nat}
  {road next : Road}

/-- The roads of one container are passed by the same links. -/
theorem passable_of_isRoadOf
    (sound : task.IsSound source target common climb descent)
    (passable : IsPassable task road)
    (isRoad : task.graph.IsRoadOf container road)
    (isNext : task.graph.IsRoadOf container next) :
    IsPassable task next := by
  have sameContainer : next.container = road.container :=
    (sound.tree.id_of_get? isNext.found).symm.trans (sound.tree.id_of_get? isRoad.found)
  refine ⟨⟨container, isNext⟩, ?_⟩
  rw [sameContainer]
  exact passable.2

variable [Scalar α]

/-- A road is one of those that may follow another one on a walk. -/
def Task.LeadsTo (task : Task α) (road next : Road) : Prop :=
  ∃ roads, task.nextRoads road = .ok roads ∧ next ∈ roads

/-- A road that is led to is passable. -/
theorem Task.LeadsTo.passable
    (leads : task.LeadsTo road next)
    (sound : task.IsSound source target common climb descent)
    (passable : IsPassable task road) :
    IsPassable task next := by
  obtain ⟨roads, nextFound, member⟩ := leads
  obtain ⟨others, othersFound, areTurns⟩ := sound.exists_nextRoads passable
  obtain rfl := Except.ok.inj (nextFound.symm.trans othersFound)
  exact (areTurns next member).2

/-- All roads that are led to, however far, are passable. -/
theorem passable_of_leadsTo
    (leads : ReflTransGen task.LeadsTo road next)
    (sound : task.IsSound source target common climb descent)
    (passable : IsPassable task road) :
    IsPassable task next := by
  induction leads with
  | refl =>
      exact passable
  | tail _ leads inductionHypothesis =>
      exact leads.passable sound inductionHypothesis

/-- A road leads to each other road that is listed for it. -/
theorem leadsTo_of_listed
    (sound : task.IsSound source target common climb descent)
    (isRoad : task.graph.IsRoadOf container road)
    (passable : IsPassable task road)
    (differ : next ≠ road)
    (listed :
      next ∈ lateralRoads container road ∨
        (∃ outward, task.outwardRoads container road = .ok outward ∧ next ∈ outward) ∨
          ∃ inward, task.inwardRoads road = .ok inward ∧ next ∈ inward) :
    task.LeadsTo road next := by
  obtain ⟨outward, outwardFound, _⟩ := sound.exists_outwardRoads isRoad passable
  obtain ⟨inward, inwardFound, _⟩ := sound.exists_inwardRoads road
  refine ⟨_, Task.IsSound.nextRoads_eq isRoad outwardFound inwardFound, ?_⟩
  rw [RoadMap.mem_distinct_iff, List.mem_filter]
  refine ⟨?_, bne_iff_ne.mpr differ⟩
  rcases listed with isLateral | ⟨others, othersFound, isOutward⟩ | ⟨others, othersFound, isInward⟩
  · exact List.mem_append_left _ (List.mem_append_left _ isLateral)
  · obtain rfl := Except.ok.inj (outwardFound.symm.trans othersFound)
    exact List.mem_append_left _ (List.mem_append_right _ isOutward)
  · obtain rfl := Except.ok.inj (inwardFound.symm.trans othersFound)
    exact List.mem_append_right _ isInward

/-- A road leads to each road across it in its container. -/
theorem leadsTo_of_axis_ne
    (sound : task.IsSound source target common climb descent)
    (passable : IsPassable task road)
    (isRoad : task.graph.IsRoadOf container road)
    (isNext : task.graph.IsRoadOf container next)
    (differ : next.axis ≠ road.axis) :
    task.LeadsTo road next := by
  refine leadsTo_of_listed sound isRoad passable (fun same => differ (by rw [same])) (.inl ?_)
  have nextId := sound.tree.id_of_get? isNext.found
  have inside := isNext.avenue
  obtain ⟨other, axis, avenue⟩ := next
  obtain rfl : container.id = other := nextId
  rw [lateralRoads]
  cases isAxis : road.axis with
  | main =>
      obtain rfl : axis = .cross := by
        cases axis with
        | main =>
            exact absurd isAxis.symm differ
        | cross =>
            rfl
      obtain rfl | rfl : avenue = 0 ∨ avenue = 1 := by
        simp only at inside
        omega
      · exact List.mem_cons_self
      · exact List.mem_cons_of_mem _ List.mem_cons_self
  | cross =>
      obtain rfl : axis = .main := by
        cases axis with
        | main =>
            rfl
        | cross =>
            exact absurd isAxis.symm differ
      exact List.mem_map_of_mem (List.mem_range.mpr (Nat.lt_succ_of_le inside))

/-- All roads of a container can be reached from each of them, over one road between at most. -/
theorem reaches_of_isRoadOf
    (sound : task.IsSound source target common climb descent)
    (passable : IsPassable task road)
    (isRoad : task.graph.IsRoadOf container road)
    (isNext : task.graph.IsRoadOf container next) :
    ReflTransGen task.LeadsTo road next := by
  by_cases differ : next.axis = road.axis
  · have isMiddle : task.graph.IsRoadOf container ⟨road.container, road.axis.other, 0⟩ := by
      refine ⟨isRoad.found, isRoad.isContainer, ?_⟩
      cases road.axis with
      | main =>
          exact Nat.zero_lt_two
      | cross =>
          exact Nat.zero_le _
    have otherAxis : road.axis.other ≠ road.axis := by
      cases road.axis <;> decide
    refine .tail (.single (leadsTo_of_axis_ne sound passable isRoad isMiddle otherAxis)) ?_
    refine leadsTo_of_axis_ne sound ?_ isMiddle isNext ?_
    · exact passable_of_isRoadOf sound passable isRoad isMiddle
    · rw [differ]
      exact otherAxis.symm
  · exact .single (leadsTo_of_axis_ne sound passable isRoad isNext differ)

/-- A road below the common container leads into a road of the next container outward. -/
theorem exists_leadsTo_outward
    {holder : Node α}
    (sound : task.IsSound source target common climb descent)
    (passable : IsPassable task road)
    (isRoad : task.graph.IsRoadOf container road)
    (isOuter : task.graph.IsOuter container (level + 1) common)
    (holderFound : task.graph.get? holder.id = some holder)
    (holds : holder.Holds container) :
    ∃ next, task.graph.IsRoadOf holder next ∧ task.LeadsTo road next := by
  have containerFound := sound.tree.get?_id isRoad.found
  have levels : container.depth - task.top = level + 1 := by
    have := isOuter.depth_eq
    rw [sound.top_eq]
    omega
  obtain ⟨edge, outward_eq⟩ :
      ∃ edge, task.outwardRoads container road = do
        let found ← Failure.ofGraph
          (exits task.graph container.id (level + 1) [edge, edge.reverse])
        return found.map (·.2) := by
    rw [Task.outwardRoads, levels]
    exact ⟨_, if_neg (Nat.succ_ne_zero level)⟩
  have meets :
      task.graph.MeetsRoad container edge 0 (.beside holder container edge) container holder :=
    ⟨sound.tree.isOuter_self containerFound, holderFound, holds, rfl⟩
  obtain ⟨roads, listed, member⟩ :=
    sound.tree.exists_exitRoads_of_meets containerFound meets
      (sound.tree.boundary_pos containerFound edge) (Nat.succ_pos level)
  obtain ⟨exitsOf, exitsFound, _⟩ :=
    exists_exits sound.tree containerFound (level + 1) [edge, edge.reverse]
  refine ⟨_, meets.isRoadOf, leadsTo_of_listed sound isRoad passable ?_ (.inr (.inl ?_))⟩
  · intro same
    have sameContainer := congrArg Road.container same
    rw [meets.container_eq, ← sound.tree.id_of_get? isRoad.found] at sameContainer
    exact Nat.ne_of_lt holds.before sameContainer
  · refine ⟨exitsOf.map (·.2), ?_, ?_⟩
    · rw [outward_eq]
      exact Attempt.bind_eq_ok_iff.mpr ⟨exitsOf, Attempt.ofGraph_eq_ok_iff.mpr exitsFound, rfl⟩
    · exact List.mem_map.mpr
        ⟨_, mem_exits exitsFound List.mem_cons_self listed member, rfl⟩

/-- A container around the target can be entered from a road of the next container outward. -/
theorem exists_leadsTo_inward
    {holder : Node α}
    {distance : Nat}
    (sound : task.IsSound source target common climb descent)
    (aware : task.IsAware target common)
    (isOuter : task.graph.IsOuter container (level + 1) common)
    (around : task.graph.IsOuter target (distance + 1) container)
    (holderFound : task.graph.get? holder.id = some holder)
    (holds : holder.Holds container) :
    ∃ road next, task.graph.IsRoadOf holder road ∧ task.graph.IsRoadOf container next ∧
      (IsPassable task road → task.LeadsTo road next) := by
  have containerFound := around.found
  have meets :
      task.graph.MeetsRoad container .main 0 (.beside holder container .main) container holder :=
    ⟨sound.tree.isOuter_self containerFound, holderFound, holds, rfl⟩
  obtain ⟨roads, listed, member⟩ :=
    sound.tree.exists_exitRoads_of_meets containerFound meets
      (sound.tree.boundary_pos containerFound _) (Nat.succ_pos level)
  have isEntrance :
      IsEntrance task.graph target common (.beside holder container .main)
        (.main, container.id) :=
    ⟨container, distance, level + 1, roads, around, rfl, isOuter, listed, member⟩
  obtain ⟨entrances, areEntrances, isKnown⟩ :=
    aware.entrances ⟨holder, meets.isRoadOf⟩ isEntrance
  obtain ⟨axis, isAcross⟩ :=
    container.itemFrame.exists_axis_axisDirection_eq Direction.main.axis.other
  have isNext : task.graph.IsRoadOf container ⟨container.id, axis, 0⟩ := by
    refine ⟨containerFound, sound.tree.isContainer_of_isOuter sound.checked.targetFound around, ?_⟩
    cases axis with
    | main =>
        exact Nat.zero_le _
    | cross =>
        exact Nat.zero_lt_two
  refine ⟨_, _, meets.isRoadOf, isNext, fun passable => ?_⟩
  refine leadsTo_of_listed sound meets.isRoadOf passable ?_ (.inr (.inr ?_))
  · intro same
    have sameContainer := congrArg Road.container same
    rw [meets.container_eq] at sameContainer
    exact Nat.ne_of_lt holds.before sameContainer.symm
  · obtain ⟨inward, inwardFound, _⟩ :=
      sound.exists_inwardRoads (.beside holder container .main)
    obtain ⟨other, entered, otherFound, enteredFound, mem_entered_iff⟩ :=
      sound.exists_entranceRoads isEntrance
    obtain rfl := Option.some.inj (containerFound.symm.trans otherFound)
    have isEntered := (mem_entered_iff _).mpr ⟨isNext, rfl, isNext.fixedAxis_eq.trans (by
      rw [isAcross])⟩
    refine ⟨inward, inwardFound, ?_⟩
    rw [Task.inwardRoads, areEntrances] at inwardFound
    obtain ⟨lists, listsFound, same⟩ := Attempt.bind_eq_ok_iff.mp inwardFound
    cases same
    obtain ⟨list, listMember, isList⟩ := Attempt.exists_result_of_mem listsFound isKnown
    obtain rfl := Except.ok.inj (isList.symm.trans enteredFound)
    exact List.mem_flatten.mpr ⟨_, listMember, isEntered⟩

/-- From a road below the common container, a road of the common container can be reached. -/
theorem exists_reaches_common
    (sound : task.IsSound source target common climb descent)
    (passable : IsPassable task road)
    (isRoad : task.graph.IsRoadOf container road)
    (isOuter : task.graph.IsOuter container level common) :
    ∃ last, task.graph.IsRoadOf common last ∧ ReflTransGen task.LeadsTo road last := by
  induction level generalizing container road with
  | zero =>
      obtain rfl := isOuter.unique (sound.tree.isOuter_self isRoad.found)
      exact ⟨road, isRoad, .refl⟩
  | succ level inductionHypothesis =>
      have depths := isOuter.depth_eq
      obtain ⟨holder, holderFound, holds⟩ := sound.tree.exists_holds isRoad.found (by omega)
      have isHolder : task.graph.IsOuter container 1 holder := .of_holds holderFound holds
      obtain ⟨next, isNext, leads⟩ :=
        exists_leadsTo_outward sound passable isRoad isOuter holderFound holds
      obtain ⟨last, isLast, reaches⟩ :=
        inductionHypothesis (leads.passable sound passable) isNext
          (isHolder.between isOuter (Nat.le_add_left 1 level))
      exact ⟨last, isLast, .head leads reaches⟩

/-- From a road of the common container, each road around the target below it can be reached. -/
theorem reaches_of_around
    {distance : Nat}
    (sound : task.IsSound source target common climb descent)
    (aware : task.IsAware target common)
    (passable : IsPassable task road)
    (isRoad : task.graph.IsRoadOf common road)
    (isOuter : task.graph.IsOuter container level common)
    (around : task.graph.IsOuter target (distance + 1) container)
    (isNext : task.graph.IsRoadOf container next) :
    ReflTransGen task.LeadsTo road next := by
  -- From the common container inward: the container around this one is reached before.
  induction level generalizing container distance next with
  | zero =>
      obtain rfl := isOuter.unique (sound.tree.isOuter_self around.found)
      exact reaches_of_isRoadOf sound passable isRoad isNext
  | succ level inductionHypothesis =>
      have depths := isOuter.depth_eq
      obtain ⟨holder, holderFound, holds⟩ := sound.tree.exists_holds around.found (by omega)
      have isHolder : task.graph.IsOuter container 1 holder := .of_holds holderFound holds
      obtain ⟨before, entry, isBefore, isEntry, leads⟩ :=
        exists_leadsTo_inward sound aware isOuter around holderFound holds
      have reaches :=
        inductionHypothesis (isHolder.between isOuter (Nat.le_add_left 1 level))
          (around.trans isHolder) isBefore
      have entered := reaches.tail (leads (passable_of_leadsTo reaches sound passable))
      exact entered.trans
        (reaches_of_isRoadOf sound (passable_of_leadsTo entered sound passable) isEntry isNext)

omit [Scalar α] in
/-- An end of a link leaves onto a road of the container that holds it. -/
theorem exists_leavesOnto_holder
    {graph : Graph α}
    {endpoint : Endpoint}
    {node : Node α}
    (tree : graph.IsTree)
    (found : graph.get? endpoint.node = some node)
    (isOuter : graph.IsOuter node (level + 1) common) :
    ∃ holder exit road,
      graph.IsOuter node 1 holder ∧ graph.IsOuter holder level common ∧
        graph.IsRoadOf holder road ∧ graph.LeavesOnto common.id endpoint exit road := by
  have depths := isOuter.depth_eq
  obtain ⟨holder, holderFound, holds⟩ := tree.exists_holds found (by omega)
  have isHolder : graph.IsOuter node 1 holder := .of_holds holderFound holds
  obtain ⟨allowed, allows, some_allowed⟩ := LinkEnds.exists_allowedExits found
  obtain ⟨exit, isAllowed⟩ := List.exists_mem_of_ne_nil allowed some_allowed
  have meets : graph.MeetsRoad node exit 0 (.beside holder node exit) node holder :=
    ⟨tree.isOuter_self found, holderFound, holds, rfl⟩
  obtain ⟨roads, listed, member⟩ :=
    tree.exists_exitRoads_of_meets found meets (tree.boundary_pos found exit)
      (Nat.succ_pos level)
  exact ⟨holder, exit, _, isHolder, isHolder.between isOuter (Nat.le_add_left 1 level),
    meets.isRoadOf, allowed, level + 1, roads, allows, isAllowed, isOuter.climb_eq found, listed,
    member⟩

/-- From each road onto which the source leaves, a goal can be reached. -/
theorem exists_reaches_goal
    {first : Direction}
    (sound : task.IsSound source target common climb descent)
    (aware : task.IsAware target common)
    (leaves : task.graph.LeavesOnto task.ends.common task.ends.source first road) :
    ∃ goal exit, ReflTransGen task.LeadsTo road goal ∧
      task.goals.get? goal = some (some exit) := by
  have passable := sound.passable_of_leavesOnto leaves
  obtain ⟨container, isRoad⟩ := passable.1
  obtain ⟨level, isOuter⟩ := sound.exists_isOuter_common isRoad passable
  obtain ⟨middle, isMiddle, toCommon⟩ := exists_reaches_common sound passable isRoad isOuter
  obtain ⟨holder, exit, goal, around, below, isGoal, arrives⟩ :=
    exists_leavesOnto_holder sound.tree sound.checked.targetFound sound.checked.targetBelow
  rw [sound.checked.common_id] at arrives
  obtain ⟨last, isLast⟩ := aware.goals ⟨holder, isGoal⟩ arrives
  have toGoal :=
    reaches_of_around sound aware (passable_of_leadsTo toCommon sound passable) isMiddle below
      around isGoal
  exact ⟨goal, last, toCommon.trans toGoal, isLast⟩

omit [Scalar α] in
/-- The source of a search leaves onto some road. -/
theorem exists_leavesOnto_source
    (sound : task.IsSound source target common climb descent) :
    ∃ first road, task.graph.LeavesOnto task.ends.common task.ends.source first road := by
  obtain ⟨_, first, road, _, _, _, leaves⟩ :=
    exists_leavesOnto_holder sound.tree sound.checked.sourceFound sound.checked.sourceBelow
  rw [sound.checked.common_id] at leaves
  exact ⟨first, road, leaves⟩

end Search

end BoxDiagram
