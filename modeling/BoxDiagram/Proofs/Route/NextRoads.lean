import BoxDiagram.Proofs.Road.Map
import BoxDiagram.Proofs.Route.Ends
import BoxDiagram.Route.Search

namespace BoxDiagram

/-!
# The roads that a search may step onto

A search moves from road to road without looking at their places: to the roads
that cross within a container, outward to the roads that the container reaches,
and inward where a container around the target reaches the road.  Each of these
moves is a turn that a walk may take.
-/

/-- The direction of a frame on the other axis lies on another axis of the canvas. -/
theorem Compass.axis_otherDirection_ne
    (frame : Compass)
    (axis : Axis) :
    (match axis with
      | .main => frame.cross
      | .cross => frame.main).axis ≠ (frame.axisDirection axis).axis := by
  cases axis with
  | main =>
      exact frame.crossing.symm
  | cross =>
      exact frame.crossing

namespace Search

section Exits

variable {α : Type} {graph : Graph α}

/-- The roads onto which a box leaves in several directions. -/
theorem exists_exits
    (tree : graph.IsTree)
    {id : NodeId}
    {node : Node α}
    (found : graph.get? id = some node)
    (ceiling : Nat)
    (directions : List Direction) :
    ∃ listed, exits graph id ceiling directions = .ok listed ∧
      ∀ {direction : Direction} {road : Road}, (direction, road) ∈ listed →
        direction ∈ directions ∧
          ∃ roads, graph.exitRoads id direction ceiling = .ok roads ∧
            road ∈ roads.map (·.2) := by
  have each :
      ∀ direction ∈ directions, ∃ listed,
        (do
          return (← graph.exitRoads id direction ceiling).map fun entry =>
            (direction, entry.2) : Except GraphFault (List (Direction × Road))) =
          .ok listed := by
    intro direction _
    obtain ⟨roads, succeeded⟩ := tree.exists_exitRoads found direction ceiling
    exact ⟨_, by rw [succeeded]; rfl⟩
  obtain ⟨lists, succeeded⟩ := Attempt.exists_mapM_eq_ok each
  refine ⟨lists.flatten, Attempt.bind_eq_ok_iff.mpr ⟨lists, succeeded, rfl⟩, ?_⟩
  intro direction road member
  obtain ⟨list, listMember, pairMember⟩ := List.mem_flatten.mp member
  obtain ⟨other, otherMember, isList⟩ := Attempt.exists_of_mem_mapM succeeded listMember
  obtain ⟨roads, isRoads, same⟩ := Attempt.bind_eq_ok_iff.mp isList
  cases same
  obtain ⟨⟨number, found⟩, foundMember, same⟩ := List.mem_map.mp pairMember
  cases same
  exact ⟨otherMember, roads, isRoads, List.mem_map.mpr ⟨_, foundMember, rfl⟩⟩

/-- An exit that is kept was listed. -/
theorem mem_of_firstExits
    {listed : List (Direction × Road)}
    {road : Road}
    {direction : Direction}
    (kept : (firstExits graph listed).get? road = some (some direction)) :
    (direction, road) ∈ listed := by
  induction listed with
  | nil =>
      obtain ⟨_, impossible⟩ := RoadMap.get?_ofGraph_eq_some_iff.mp kept
      cases impossible
  | cons entry rest inductionHypothesis =>
      obtain ⟨first, other⟩ := entry
      change ((firstExits graph rest).set other (some first)).get? road = _ at kept
      rw [RoadMap.get?_set] at kept
      split at kept
      · subst other
        obtain ⟨_, _, same⟩ := Option.map_eq_some_iff.mp kept
        cases same
        exact List.mem_cons_self
      · exact List.mem_cons_of_mem _ (inductionHypothesis kept)

/-- An entrance that is kept was listed. -/
theorem mem_of_entrances
    {listed : List (Road × Direction × NodeId)}
    {road : Road}
    {entrances : List (Direction × NodeId)}
    {entrance : Direction × NodeId}
    (kept :
      (listed.foldr
          (fun entry (map : RoadMap (List (Direction × NodeId))) =>
            map.modify entry.1 (entry.2 :: ·))
          (.ofGraph graph [])).get? road = some entrances)
    (member : entrance ∈ entrances) :
    (road, entrance) ∈ listed := by
  induction listed generalizing entrances with
  | nil =>
      obtain ⟨_, same⟩ := RoadMap.get?_ofGraph_eq_some_iff.mp kept
      subst same
      cases member
  | cons entry rest inductionHypothesis =>
      obtain ⟨other, first⟩ := entry
      rw [List.foldr_cons, RoadMap.get?_modify] at kept
      split at kept
      · rename_i same
        obtain ⟨earlier, isEarlier, rfl⟩ := Option.map_eq_some_iff.mp kept
        rcases List.mem_cons.mp member with isFirst | isLater
        · subst isFirst
          change other = road at same
          rw [same]
          exact List.mem_cons_self
        · exact List.mem_cons_of_mem _ (inductionHypothesis isEarlier isLater)
      · exact List.mem_cons_of_mem _ (inductionHypothesis kept member)

end Exits

variable {α : Type}

/-- A container around the target of a link, below the common one, that leaves onto a road. -/
def IsEntrance
    (graph : Graph α)
    (target common : Node α)
    (road : Road)
    (entrance : Direction × NodeId) : Prop :=
  ∃ container level ceiling roads,
    graph.IsOuter target (level + 1) container ∧ container.id = entrance.2 ∧
      graph.IsOuter container ceiling common ∧
        graph.exitRoads entrance.2 entrance.1 ceiling = .ok roads ∧ road ∈ roads.map (·.2)

/-- A search knows where the target of its link may be reached. -/
structure Task.IsSound
    (task : Task α)
    (source target common : Node α)
    (climb descent : Nat) : Prop where
  tree : task.graph.IsTree
  checked : task.ends.AreChecked task.graph source target common climb descent
  top_eq : task.top = common.depth
  goals :
    ∀ {road : Road} {exit : Direction},
      task.goals.get? road = some (some exit) →
        task.graph.LeavesOnto task.ends.common task.ends.target exit road
  entrances :
    ∀ {road : Road} {entrances : List (Direction × NodeId)},
      task.entrances.get? road = some entrances → ∀ entrance ∈ entrances,
        IsEntrance task.graph target common road entrance

section Goals

variable
  {graph : Graph α}
  {ends : LinkEnds}
  {source target common : Node α}
  {climb descent : Nat}

/-- The containers between the common one and the target lie around the target. -/
theorem isOuter_of_mem_innerContainers
    (tree : graph.IsTree)
    (checked : ends.AreChecked graph source target common climb descent)
    {id : NodeId}
    (member : id ∈ target.ancestors.drop (common.depth + 1)) :
    ∃ container level ceiling,
      graph.IsOuter target (level + 1) container ∧ container.id = id ∧
        graph.IsOuter container ceiling common := by
  obtain ⟨position, atPosition⟩ := List.mem_iff_getElem?.mp member
  rw [List.getElem?_drop] at atPosition
  have inside : common.depth + 1 + position < target.depth :=
    (List.getElem?_eq_some_iff.mp atPosition).1
  have depths := checked.targetBelow.depth_eq
  have split :
      target.depth - (common.depth + 1 + position) =
        target.depth - (common.depth + 1 + position) - 1 + 1 := by
    omega
  obtain ⟨container, isOuter⟩ :=
    tree.exists_isOuter checked.targetFound (target.depth - (common.depth + 1 + position))
      (by omega)
  have containerDepth : container.depth = common.depth + 1 + position := by
    have := isOuter.depth_eq
    omega
  rw [split] at isOuter
  have stored := isOuter.getElem?_ancestors
  rw [containerDepth] at stored
  exact ⟨container, _, _, isOuter, Option.some.inj (stored.symm.trans atPosition),
    isOuter.between checked.targetBelow (by omega)⟩

/-- The entrances of the target are found, with the road of each. -/
theorem exists_findEntrances
    (tree : graph.IsTree)
    (checked : ends.AreChecked graph source target common climb descent) :
    ∃ containers found,
      innerContainers graph ends common.depth = .ok containers ∧
        findEntrances graph ends containers = .ok found ∧
          ∀ {road : Road} {entrances : List (Direction × NodeId)},
            found.get? road = some entrances → ∀ entrance ∈ entrances,
              IsEntrance graph target common road entrance := by
  refine ⟨target.ancestors.drop (common.depth + 1), ?_⟩
  have containersFound :
      innerContainers graph ends common.depth =
        .ok (target.ancestors.drop (common.depth + 1)) := by
    rw [innerContainers, Graph.find_eq_ok_iff.mpr checked.targetFound]
    rfl
  have around :
      ∀ id ∈ target.ancestors.drop (common.depth + 1), ∃ container level ceiling listed,
        graph.IsOuter target (level + 1) container ∧ container.id = id ∧
          graph.IsOuter container ceiling common ∧
            graph.climb ends.common id = .ok ceiling ∧
              exits graph id ceiling Direction.all = .ok listed ∧
                ∀ {direction : Direction} {road : Road}, (direction, road) ∈ listed →
                  direction ∈ Direction.all ∧
                    ∃ roads, graph.exitRoads id direction ceiling = .ok roads ∧
                      road ∈ roads.map (·.2) := by
    intro id member
    obtain ⟨container, level, ceiling, isOuter, rfl, below⟩ :=
      isOuter_of_mem_innerContainers tree checked member
    obtain ⟨listed, succeeded, isListed⟩ :=
      exists_exits tree isOuter.found ceiling Direction.all
    refine ⟨container, level, ceiling, listed, isOuter, rfl, below, ?_, succeeded, isListed⟩
    rw [← checked.common_id]
    exact below.climb_eq isOuter.found
  have each :
      ∀ id ∈ target.ancestors.drop (common.depth + 1), ∃ listed,
        (do
          let ceiling ← graph.climb ends.common id
          return (← exits graph id ceiling Direction.all).map fun entry =>
            (entry.2, entry.1, id) :
          Except GraphFault (List (Road × Direction × NodeId))) = .ok listed := by
    intro id member
    obtain ⟨_, _, ceiling, listed, _, _, _, climbed, succeeded, _⟩ := around id member
    exact ⟨_, by rw [climbed, Attempt.ok_bind, succeeded]; rfl⟩
  obtain ⟨lists, succeeded⟩ := Attempt.exists_mapM_eq_ok each
  refine ⟨_, containersFound, Attempt.bind_eq_ok_iff.mpr ⟨lists, succeeded, rfl⟩, ?_⟩
  intro road entrances kept entrance member
  have listed : (road, entrance) ∈ lists.flatten := mem_of_entrances kept member
  obtain ⟨list, listMember, pairMember⟩ := List.mem_flatten.mp listed
  obtain ⟨id, idMember, isList⟩ := Attempt.exists_of_mem_mapM succeeded listMember
  obtain ⟨container, level, ceiling, known, isOuter, sameId, below, climbed, exitsFound,
    isKnown⟩ := around id idMember
  rw [climbed, Attempt.ok_bind, exitsFound] at isList
  cases isList
  obtain ⟨⟨direction, other⟩, otherMember, same⟩ := List.mem_map.mp pairMember
  cases same
  obtain ⟨_, roads, isRoads, roadMember⟩ := isKnown otherMember
  exact ⟨container, level, ceiling, roads, isOuter, sameId, below, isRoads, roadMember⟩

end Goals

section SetUp

variable
  [Scalar α]
  {source target common : Node α}
  {climb descent : Nat}

/-- A search is set up as soon as both ends of its link have a middle. -/
theorem Task.exists_ofEnds_eq
    {graph : Graph α}
    {ends : LinkEnds}
    (tree : graph.IsTree)
    (checked : ends.AreChecked graph source target common climb descent)
    (reference : Reference α)
    (config : RouteConfig) :
    ∃ setUp : Point α → Point α → Task α,
      (∀ first last,
        (setUp first last).IsSound source target common climb descent ∧
          (setUp first last).graph = graph ∧ (setUp first last).ends = ends ∧
            (setUp first last).reference = reference) ∧
      Task.ofEnds graph reference config ends =
        (do
          let first ← center graph reference.layout ends.source.node
          let last ← center graph reference.layout ends.target.node
          return setUp first last) := by
  obtain ⟨allowed, allows, _⟩ := LinkEnds.exists_allowedExits checked.targetFound
  obtain ⟨listed, exitsFound, isListed⟩ :=
    exists_exits tree checked.targetFound (descent + 1) allowed
  obtain ⟨containers, entrances, containersFound, entrancesFound, areEntrances⟩ :=
    exists_findEntrances tree checked
  have climbed : graph.climb ends.common ends.target.node = .ok (descent + 1) := by
    rw [← checked.common_id]
    exact checked.targetBelow.climb_eq checked.targetFound
  refine ⟨fun first last =>
    { graph, reference, ends, config, top := common.depth, source := first, target := last,
      goals := firstExits graph listed, entrances }, ?_, ?_⟩
  · intro first last
    refine ⟨⟨tree, checked, rfl, ?_, areEntrances⟩, rfl, rfl, rfl⟩
    intro road exit kept
    obtain ⟨isAllowed, roads, isRoads, member⟩ := isListed (mem_of_firstExits kept)
    exact ⟨allowed, descent + 1, roads, allows, isAllowed, climbed, isRoads, member⟩
  · rw [Task.ofEnds, Graph.find_eq_ok_iff.mpr checked.commonFound]
    simp only [Attempt.ofGraph_ok, Attempt.ok_bind, allows, climbed, exitsFound,
      containersFound, entrancesFound]

end SetUp

namespace Task.IsSound

variable
  {task : Task α}
  {source target common : Node α}
  {climb descent : Nat}
  {road next : Road}

/-- A road of a walk of a search: it may stand between the ends of the link. -/
abbrev IsPassable (task : Task α) (road : Road) : Prop :=
  task.graph.IsRoadBetween task.ends.common task.ends.source.node task.ends.target.node road

/-- A road across in the same container can be turned to. -/
theorem turns_lateral
    (sound : task.IsSound source target common climb descent)
    {container : Node α}
    (isRoad : task.graph.IsRoadOf container road)
    (passable : IsPassable task road)
    (member : next ∈ lateralRoads container road) :
    task.graph.Turns task.ends.common road next ∧ IsPassable task next := by
  have sameId := sound.tree.id_of_get? isRoad.found
  have crossing :
      task.graph.IsRoadOf container next ∧ next.container = road.container ∧
        road.axis ≠ next.axis := by
    rw [lateralRoads] at member
    cases axis : road.axis with
    | main =>
        simp only [axis, List.mem_cons, List.not_mem_nil, or_false] at member
        rcases member with rfl | rfl
        · exact ⟨⟨by simpa [Road.cross, sameId] using isRoad.found, isRoad.isContainer,
            Nat.zero_lt_two⟩, sameId, by simp [Road.cross]⟩
        · exact ⟨⟨by simpa [Road.cross, sameId] using isRoad.found, isRoad.isContainer,
            Nat.one_lt_two⟩, sameId, by simp [Road.cross]⟩
    | cross =>
        simp only [axis, List.mem_map, List.mem_range] at member
        obtain ⟨avenue, inside, rfl⟩ := member
        exact ⟨⟨by simpa [Road.main, sameId] using isRoad.found, isRoad.isContainer,
          Nat.le_of_lt_succ inside⟩, sameId, by simp [Road.main]⟩
  obtain ⟨nextOf, sameContainer, different⟩ := crossing
  refine ⟨Graph.turns_of_axis_ne isRoad nextOf sameContainer.symm different,
    ⟨container, nextOf⟩, ?_, ?_⟩
  · rw [sameContainer]
    exact passable.2.1
  · rw [sameContainer]
    exact passable.2.2

/-- A road to which another one leads outward is a turn. -/
theorem turns_outward
    (sound : task.IsSound source target common climb descent)
    {container : Node α}
    {direction : Direction}
    {ceiling : Nat}
    {roads : List (Nat × Road)}
    (isRoad : task.graph.IsRoadOf container road)
    (passable : IsPassable task road)
    (isOuter : task.graph.IsOuter container ceiling common)
    (along : direction.axis ≠ (container.itemFrame.axisDirection road.axis).axis)
    (listed : task.graph.exitRoads road.container direction ceiling = .ok roads)
    (member : next ∈ roads.map (·.2)) :
    task.graph.Turns task.ends.common road next ∧ IsPassable task next := by
  obtain ⟨⟨number, other⟩, entryMember, same⟩ := List.mem_map.mp member
  obtain rfl : other = next := same
  obtain ⟨level, below, outer, rfl, withinBoundary, withinCeiling, meets⟩ :=
    (sound.tree.mem_exitRoads_iff isRoad.found listed).mp entryMember
  obtain ⟨exists_road, atOrBelow, above⟩ :=
    sound.tree.between_of_meets isRoad.found isOuter meets withinCeiling
  rw [← sound.checked.common_id]
  refine ⟨⟨⟨_, _, isRoad.fixedAxis_eq, meets.fixedAxis_eq, along.symm⟩, .inr (.inl ?_)⟩,
    exists_road, ?_, ?_⟩
  · exact ⟨_, direction, ceiling, roads, isRoad.fixedAxis_eq, along,
      isOuter.climb_eq isRoad.found, listed, member⟩
  · rw [← sound.checked.common_id]
    exact atOrBelow
  · rcases passable.2.2 with aroundSource | aroundTarget
    · exact .inl (Relation.TransGen.trans above aroundSource)
    · exact .inr (Relation.TransGen.trans above aroundTarget)

/-- A road of a container around the target that leads outward to a road is a turn. -/
theorem turns_inward
    (sound : task.IsSound source target common climb descent)
    {entrance : Direction × NodeId}
    {container : Node α}
    (isEntrance : IsEntrance task.graph target common road entrance)
    (isRoad : task.graph.IsRoadOf container next)
    (ofContainer : next.container = entrance.2)
    (along : task.graph.fixedAxis next = .ok entrance.1.axis.other) :
    task.graph.Turns task.ends.common road next ∧ IsPassable task next := by
  obtain ⟨entered, level, ceiling, roads, isOuter, sameId, below, listed, member⟩ := isEntrance
  have enteredFound : task.graph.get? entrance.2 = some entered := sameId ▸ isOuter.found
  have different : entrance.1.axis ≠ entrance.1.axis.other := by
    cases entrance.1.axis <;> decide
  obtain ⟨⟨number, other⟩, entryMember, same⟩ := List.mem_map.mp member
  obtain rfl : other = road := same
  obtain ⟨passed, inner, outer, rfl, withinBoundary, withinCeiling, meets⟩ :=
    (sound.tree.mem_exitRoads_iff enteredFound listed).mp entryMember
  rw [← sound.checked.common_id]
  refine ⟨⟨⟨_, _, meets.fixedAxis_eq, along, different⟩, .inr (.inr ?_)⟩,
    ⟨container, isRoad⟩, ?_, .inr ?_⟩
  · rw [← ofContainer] at listed enteredFound
    exact ⟨_, entrance.1, ceiling, roads, along, different, below.climb_eq enteredFound,
      listed, member⟩
  · rw [ofContainer, ← sound.checked.common_id, sound.tree.atOrAbove_iff enteredFound]
    exact List.mem_of_getElem? below.getElem?_outward
  · rw [ofContainer, sound.tree.above_iff sound.checked.targetFound, ← sameId]
    exact isOuter.mem_ancestors

/-- The container of a road of a walk lies a number of levels below the common container. -/
theorem exists_isOuter_common
    (sound : task.IsSound source target common climb descent)
    {container : Node α}
    (isRoad : task.graph.IsRoadOf container road)
    (passable : IsPassable task road) :
    ∃ level, task.graph.IsOuter container level common := by
  obtain ⟨level, outermost, _, sameCommon, isOuter⟩ :=
    sound.tree.exists_isOuter_of_mem isRoad.found
      ((sound.tree.atOrAbove_iff isRoad.found).mp passable.2.1)
  obtain rfl : outermost = common := by
    have commonFound := sound.checked.commonFound
    rw [← sameCommon, isOuter.found] at commonFound
    exact Option.some.inj commonFound
  exact ⟨level, isOuter⟩

/-- The roads to which a road leads outward are turns. -/
theorem exists_outwardRoads
    (sound : task.IsSound source target common climb descent)
    {container : Node α}
    (isRoad : task.graph.IsRoadOf container road)
    (passable : IsPassable task road) :
    ∃ roads, task.outwardRoads container road = .ok roads ∧
      ∀ next ∈ roads, task.graph.Turns task.ends.common road next ∧ IsPassable task next := by
  have sameId := sound.tree.id_of_get? isRoad.found
  obtain ⟨ceiling, isOuter⟩ := sound.exists_isOuter_common isRoad passable
  have depths := isOuter.depth_eq
  rw [outwardRoads, sound.top_eq]
  dsimp only
  have levels : container.depth - common.depth = ceiling := by omega
  rw [levels]
  by_cases isCommon : ceiling = 0
  · rw [if_pos isCommon]
    exact ⟨[], rfl, fun next impossible => absurd impossible List.not_mem_nil⟩
  · rw [if_neg isCommon]
    have edgeAcross := container.itemFrame.axis_otherDirection_ne road.axis
    obtain ⟨listed, succeeded, isListed⟩ :=
      exists_exits sound.tree (show task.graph.get? container.id = some container from
        sameId ▸ isRoad.found) ceiling _
    refine ⟨listed.map (·.2), ?_, ?_⟩
    · exact Attempt.bind_eq_ok_iff.mpr
        ⟨listed, Attempt.ofGraph_eq_ok_iff.mpr succeeded, rfl⟩
    · intro next member
      obtain ⟨⟨direction, other⟩, entryMember, same⟩ := List.mem_map.mp member
      obtain rfl : other = next := same
      obtain ⟨isSide, roads, exitsFound, roadMember⟩ := isListed entryMember
      rw [sameId] at exitsFound
      simp only [List.mem_cons, List.not_mem_nil, or_false] at isSide
      have across :
          direction.axis ≠ (container.itemFrame.axisDirection road.axis).axis := by
        rcases isSide with rfl | rfl
        · exact edgeAcross
        · rw [Direction.axis_reverse]
          exact edgeAcross
      exact sound.turns_outward isRoad passable isOuter across exitsFound roadMember

/-- The gaps and the cross edges of a container are all of its roads. -/
theorem mem_gaps_append_edges_iff
    {graph : Graph α}
    {id : NodeId}
    {container : Node α}
    (found : graph.get? id = some container)
    (isContainer : container.isContainer = true) :
    next ∈ (List.range container.mainAvenues).map (Road.main id) ++
        [Road.cross id 0, Road.cross id 1] ↔
      graph.IsRoadOf container next ∧ next.container = id := by
  obtain ⟨other, axis, avenue⟩ := next
  constructor
  · intro member
    rcases List.mem_append.mp member with isGap | isEdge
    · obtain ⟨number, inside, same⟩ := List.mem_map.mp isGap
      cases same
      exact ⟨⟨found, isContainer, Nat.le_of_lt_succ (List.mem_range.mp inside)⟩, rfl⟩
    · simp only [List.mem_cons, List.not_mem_nil, or_false] at isEdge
      rcases isEdge with same | same
      · cases same
        exact ⟨⟨found, isContainer, Nat.zero_lt_two⟩, rfl⟩
      · cases same
        exact ⟨⟨found, isContainer, Nat.one_lt_two⟩, rfl⟩
  · rintro ⟨isRoad, rfl⟩
    have inside := isRoad.avenue
    cases axis with
    | main =>
        exact List.mem_append_left _
          (List.mem_map_of_mem (List.mem_range.mpr (Nat.lt_succ_of_le inside)))
    | cross =>
        refine List.mem_append_right _ ?_
        obtain rfl | rfl : avenue = 0 ∨ avenue = 1 := by
          simp only at inside
          omega
        · exact List.mem_cons_self
        · exact List.mem_cons_of_mem _ List.mem_cons_self

/-- The roads of a container that are met when it is entered are those that cross the way in. -/
theorem exists_entranceRoads
    [Scalar α]
    (sound : task.IsSound source target common climb descent)
    {entrance : Direction × NodeId}
    (isEntrance : IsEntrance task.graph target common road entrance) :
    ∃ container roads, task.graph.get? entrance.2 = some container ∧
      task.entranceRoads entrance = .ok roads ∧
        ∀ next, next ∈ roads ↔
          task.graph.IsRoadOf container next ∧ next.container = entrance.2 ∧
            task.graph.fixedAxis next = .ok entrance.1.axis.other := by
  obtain ⟨container, level, _, _, isOuter, sameId, _⟩ := isEntrance
  have found : task.graph.get? entrance.2 = some container := sameId ▸ isOuter.found
  have isContainer :=
    sound.tree.isContainer_of_isOuter sound.checked.targetFound isOuter
  have answered :
      ∀ next ∈ (List.range container.mainAvenues).map (Road.main entrance.2) ++
          [Road.cross entrance.2 0, Road.cross entrance.2 1],
        ∃ answer,
          (do
            return (← Failure.ofGraph (task.graph.fixedAxis next)) == entrance.1.axis.other :
            Except Failure Bool) = .ok answer := by
    intro next member
    rw [((mem_gaps_append_edges_iff found isContainer).mp member).1.fixedAxis_eq]
    exact ⟨_, rfl⟩
  obtain ⟨kept, succeeded, mem_kept_iff⟩ := Attempt.exists_filterM_eq_ok answered
  refine ⟨container, kept, found, ?_, fun next => ?_⟩
  · rw [entranceRoads, Graph.find_eq_ok_iff.mpr found]
    exact succeeded
  · rw [mem_kept_iff, mem_gaps_append_edges_iff found isContainer, and_assoc]
    refine and_congr_right fun isRoad => and_congr_right fun _ => ?_
    rw [isRoad.fixedAxis_eq]
    constructor
    · intro holds
      exact congrArg Except.ok (beq_iff_eq.mp (Except.ok.inj holds))
    · intro along
      rw [Except.ok.inj along]
      exact congrArg Except.ok (beq_iff_eq.mpr rfl)

/-- The roads of containers around the target into which a road leads are turns. -/
theorem exists_inwardRoads
    [Scalar α]
    (sound : task.IsSound source target common climb descent)
    (road : Road) :
    ∃ roads, task.inwardRoads road = .ok roads ∧
      ∀ next ∈ roads, task.graph.Turns task.ends.common road next ∧ IsPassable task next := by
  have areEntrances :
      ∀ entrance ∈ (task.entrances.get? road).getD [],
        IsEntrance task.graph target common road entrance := by
    intro entrance member
    cases known : task.entrances.get? road with
    | none =>
        simp [known] at member
    | some entrances =>
        rw [known] at member
        exact sound.entrances known entrance member
  obtain ⟨lists, succeeded⟩ :=
    Attempt.exists_mapM_eq_ok fun entrance member =>
      let ⟨_, roads, _, isRoads, _⟩ := sound.exists_entranceRoads (areEntrances entrance member)
      ⟨roads, isRoads⟩
  refine ⟨lists.flatten, Attempt.bind_eq_ok_iff.mpr ⟨lists, succeeded, rfl⟩, ?_⟩
  intro next member
  obtain ⟨list, listMember, nextMember⟩ := List.mem_flatten.mp member
  obtain ⟨entrance, entranceMember, isList⟩ := Attempt.exists_of_mem_mapM succeeded listMember
  have isEntrance := areEntrances entrance entranceMember
  obtain ⟨container, roads, _, isRoads, mem_roads_iff⟩ := sound.exists_entranceRoads isEntrance
  obtain rfl := Except.ok.inj (isList.symm.trans isRoads)
  obtain ⟨isRoad, ofContainer, along⟩ := (mem_roads_iff next).mp nextMember
  exact sound.turns_inward isEntrance isRoad ofContainer along

/-- The roads that may follow a road are the three kinds of roads that it leads to. -/
theorem nextRoads_eq
    [Scalar α]
    {container : Node α}
    {outward inward : List Road}
    (isRoad : task.graph.IsRoadOf container road)
    (outwardFound : task.outwardRoads container road = .ok outward)
    (inwardFound : task.inwardRoads road = .ok inward) :
    task.nextRoads road =
      .ok (RoadMap.distinct task.graph
        ((lateralRoads container road ++ outward ++ inward).filter (· != road))) := by
  rw [nextRoads, Graph.find_eq_ok_iff.mpr isRoad.found, Attempt.ofGraph_ok, Attempt.ok_bind,
    outwardFound, Attempt.ok_bind, inwardFound]
  rfl

/-- The roads that may follow a road of a walk can be listed, and each is a turn. -/
theorem exists_nextRoads
    [Scalar α]
    (sound : task.IsSound source target common climb descent)
    (passable : IsPassable task road) :
    ∃ roads, task.nextRoads road = .ok roads ∧
      ∀ next ∈ roads, task.graph.Turns task.ends.common road next ∧ IsPassable task next := by
  obtain ⟨container, isRoad⟩ := passable.1
  obtain ⟨outward, outwardFound, areOutward⟩ := sound.exists_outwardRoads isRoad passable
  obtain ⟨inward, inwardFound, areInward⟩ := sound.exists_inwardRoads road
  refine ⟨_, nextRoads_eq isRoad outwardFound inwardFound, ?_⟩
  intro next member
  have isListed := List.mem_of_mem_filter (RoadMap.mem_of_mem_keepUnmarked member)
  rcases List.mem_append.mp isListed with isLateralOrOutward | isInward
  · rcases List.mem_append.mp isLateralOrOutward with isLateral | isOutward
    · exact sound.turns_lateral isRoad passable isLateral
    · exact areOutward next isOutward
  · exact areInward next isInward

end Task.IsSound

end Search

end BoxDiagram
