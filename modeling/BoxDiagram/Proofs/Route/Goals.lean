import BoxDiagram.Proofs.Route.NextRoads

namespace BoxDiagram

/-!
# What a search knows of its target

A search is set up with all roads onto which its target leaves, and with all roads
onto which the containers around the target leave, so that it misses neither a goal
nor a way into a container.
-/

namespace Search

variable {α : Type} {graph : Graph α}

/-- A box that leaves onto a road in a direction is listed with both. -/
theorem mem_exits
    {id : NodeId}
    {ceiling : Nat}
    {directions : List Direction}
    {listed : List (Direction × Road)}
    {direction : Direction}
    {roads : List (Nat × Road)}
    {road : Road}
    (succeeded : exits graph id ceiling directions = .ok listed)
    (isAllowed : direction ∈ directions)
    (isExit : graph.exitRoads id direction ceiling = .ok roads)
    (member : road ∈ roads.map (·.2)) :
    (direction, road) ∈ listed := by
  obtain ⟨lists, listsFound, same⟩ := Attempt.bind_eq_ok_iff.mp succeeded
  cases same
  obtain ⟨list, listMember, isList⟩ := Attempt.exists_result_of_mem listsFound isAllowed
  rw [isExit, Attempt.ok_bind] at isList
  cases isList
  obtain ⟨entry, entryMember, rfl⟩ := List.mem_map.mp member
  exact List.mem_flatten.mpr ⟨_, listMember, List.mem_map_of_mem entryMember⟩

/-- Exits are listed road by road. -/
theorem isOver_firstExits
    (graph : Graph α)
    (listed : List (Direction × Road)) :
    (firstExits graph listed).IsOver graph := by
  induction listed with
  | nil =>
      exact .ofGraph graph none
  | cons entry rest inductionHypothesis =>
      exact inductionHypothesis.set entry.2 (some entry.1)

/-- A road of the graph gets the first direction with which it is listed. -/
theorem exists_firstExits
    {listed : List (Direction × Road)}
    {direction : Direction}
    {road : Road}
    (hasRoad : graph.HasRoad road)
    (member : (direction, road) ∈ listed) :
    ∃ first, (firstExits graph listed).get? road = some (some first) := by
  induction listed with
  | nil =>
      cases member
  | cons entry rest inductionHypothesis =>
      obtain ⟨first, other⟩ := entry
      change ∃ exit, ((firstExits graph rest).set other (some first)).get? road = _
      rw [RoadMap.get?_set]
      split
      · obtain ⟨value, isValue⟩ := (isOver_firstExits graph rest).exists_get?_iff.mpr hasRoad
        exact ⟨first, by rw [isValue]; rfl⟩
      · rename_i differ
        refine inductionHypothesis ((List.mem_cons.mp member).resolve_left fun same => ?_)
        exact differ (congrArg Prod.snd same).symm

/-- A road of the graph gets all entrances with which it is listed. -/
theorem exists_entrances
    {listed : List (Road × Direction × NodeId)}
    {road : Road}
    {entrance : Direction × NodeId}
    (hasRoad : graph.HasRoad road)
    (member : (road, entrance) ∈ listed) :
    ∃ entrances,
      (listed.foldr
          (fun entry (map : RoadMap (List (Direction × NodeId))) =>
            map.modify entry.1 (entry.2 :: ·))
          (.ofGraph graph [])).get? road = some entrances ∧ entrance ∈ entrances := by
  have isOver :
      ∀ others : List (Road × Direction × NodeId),
        (others.foldr
          (fun entry (map : RoadMap (List (Direction × NodeId))) =>
            map.modify entry.1 (entry.2 :: ·))
          (.ofGraph graph [])).IsOver graph := by
    intro others
    induction others with
    | nil =>
        exact .ofGraph graph []
    | cons entry rest inductionHypothesis =>
        exact inductionHypothesis.modify entry.1 _
  induction listed with
  | nil =>
      cases member
  | cons entry rest inductionHypothesis =>
      rw [List.foldr_cons, RoadMap.get?_modify]
      rcases List.mem_cons.mp member with isEntry | isLater
      · obtain ⟨earlier, isEarlier⟩ := (isOver rest).exists_get?_iff.mpr hasRoad
        rw [← isEntry, if_pos rfl, isEarlier]
        exact ⟨_, rfl, List.mem_cons_self⟩
      · obtain ⟨earlier, isEarlier, isKnown⟩ := inductionHypothesis isLater
        rw [isEarlier]
        split
        · exact ⟨_, rfl, List.mem_cons_of_mem _ isKnown⟩
        · exact ⟨_, rfl, isKnown⟩

variable {source target common : Node α} {climb descent : Nat} {ends : LinkEnds}

/-- A search misses no goal, and no way into a container around its target. -/
structure Task.IsAware (task : Task α) (target common : Node α) : Prop where
  goals :
    ∀ {exit road}, task.graph.HasRoad road →
      task.graph.LeavesOnto task.ends.common task.ends.target exit road →
        ∃ first, task.goals.get? road = some (some first)
  entrances :
    ∀ {road entrance}, task.graph.HasRoad road →
      IsEntrance task.graph target common road entrance →
        ∃ entrances, task.entrances.get? road = some entrances ∧ entrance ∈ entrances

/-- The ways into containers around the target are all found. -/
theorem exists_mem_findEntrances
    (tree : graph.IsTree)
    (checked : ends.AreChecked graph source target common climb descent)
    {containers : List NodeId}
    {found : RoadMap (List (Direction × NodeId))}
    (areContainers : innerContainers graph ends common.depth = .ok containers)
    (succeeded : findEntrances graph ends containers = .ok found)
    {road : Road}
    {entrance : Direction × NodeId}
    (hasRoad : graph.HasRoad road)
    (isEntrance : IsEntrance graph target common road entrance) :
    ∃ entrances, found.get? road = some entrances ∧ entrance ∈ entrances := by
  obtain ⟨container, level, ceiling, roads, isOuter, sameId, below, isExit, member⟩ := isEntrance
  have enteredFound : graph.get? entrance.2 = some container := sameId ▸ isOuter.found
  have climbs : graph.climb ends.common entrance.2 = .ok ceiling := by
    rw [← checked.common_id]
    exact below.climb_eq enteredFound
  have deep : common.depth + 1 ≤ container.depth := by
    obtain ⟨⟨number, _⟩, entryMember, _⟩ := List.mem_map.mp member
    obtain ⟨_, _, _, _, _, withinCeiling, _⟩ :=
      (tree.mem_exitRoads_iff enteredFound isExit).mp entryMember
    have := below.depth_eq
    omega
  have isInner : entrance.2 ∈ containers := by
    rw [innerContainers, Graph.find_eq_ok_iff.mpr checked.targetFound] at areContainers
    cases areContainers
    refine List.mem_of_getElem? (i := container.depth - (common.depth + 1)) ?_
    rw [List.getElem?_drop, Nat.add_sub_cancel' deep, ← sameId]
    exact isOuter.getElem?_ancestors
  obtain ⟨lists, listsFound, same⟩ := Attempt.bind_eq_ok_iff.mp succeeded
  cases same
  obtain ⟨list, listMember, isList⟩ := Attempt.exists_result_of_mem listsFound isInner
  rw [climbs, Attempt.ok_bind] at isList
  obtain ⟨listed, exitsFound, same⟩ := Attempt.bind_eq_ok_iff.mp isList
  cases same
  have isListed := mem_exits exitsFound entrance.1.mem_all isExit member
  exact exists_entrances hasRoad
    (List.mem_flatten.mpr ⟨_, listMember, List.mem_map_of_mem isListed⟩)

/-- A search that was set up knows the middles of both boxes and a way to each goal. -/
theorem Task.of_ofEnds
    [Scalar α]
    {reference : Reference α}
    {config : RouteConfig}
    {ends : LinkEnds}
    {task : Task α}
    (succeeded : Task.ofEnds graph reference config ends = .ok task) :
    center graph reference.layout ends.source.node = .ok task.source ∧
      center graph reference.layout ends.target.node = .ok task.target ∧
        ∀ {exit road}, graph.HasRoad road → graph.LeavesOnto ends.common ends.target exit road →
          ∃ first, task.goals.get? road = some (some first) := by
  obtain ⟨common, _, succeeded⟩ := Attempt.bind_eq_ok_iff.mp succeeded
  obtain ⟨sides, allows, succeeded⟩ := Attempt.bind_eq_ok_iff.mp succeeded
  obtain ⟨ceiling, climbs, succeeded⟩ := Attempt.bind_eq_ok_iff.mp succeeded
  obtain ⟨listed, exitsFound, succeeded⟩ := Attempt.bind_eq_ok_iff.mp succeeded
  obtain ⟨containers, _, succeeded⟩ := Attempt.bind_eq_ok_iff.mp succeeded
  obtain ⟨entrances, _, succeeded⟩ := Attempt.bind_eq_ok_iff.mp succeeded
  obtain ⟨source, isSource, succeeded⟩ := Attempt.bind_eq_ok_iff.mp succeeded
  obtain ⟨target, isTarget, same⟩ := Attempt.bind_eq_ok_iff.mp succeeded
  cases same
  rw [Attempt.ofGraph_eq_ok_iff] at allows climbs exitsFound
  refine ⟨isSource, isTarget, ?_⟩
  rintro exit road hasRoad ⟨allowed, levels, roads, otherAllows, isAllowed, otherClimbs, isExit,
    member⟩
  obtain rfl := Except.ok.inj (allows.symm.trans otherAllows)
  obtain rfl := Except.ok.inj (climbs.symm.trans otherClimbs)
  exact exists_firstExits hasRoad (mem_exits exitsFound isAllowed isExit member)

/-- A task is aware of all entrances of its target. -/
theorem Task.isAware_of_ofEnds
    [Scalar α]
    {reference : Reference α}
    {config : RouteConfig}
    {task : Task α}
    (tree : graph.IsTree)
    (checked : ends.AreChecked graph source target common climb descent)
    (succeeded : Task.ofEnds graph reference config ends = .ok task) :
    task.IsAware target common := by
  obtain ⟨_, _, exists_goal⟩ := Task.of_ofEnds succeeded
  rw [Task.ofEnds, Graph.find_eq_ok_iff.mpr checked.commonFound, Attempt.ofGraph_ok,
    Attempt.ok_bind] at succeeded
  obtain ⟨sides, _, succeeded⟩ := Attempt.bind_eq_ok_iff.mp succeeded
  obtain ⟨ceiling, _, succeeded⟩ := Attempt.bind_eq_ok_iff.mp succeeded
  obtain ⟨listed, _, succeeded⟩ := Attempt.bind_eq_ok_iff.mp succeeded
  obtain ⟨containers, areContainers, succeeded⟩ := Attempt.bind_eq_ok_iff.mp succeeded
  obtain ⟨entrances, entrancesFound, succeeded⟩ := Attempt.bind_eq_ok_iff.mp succeeded
  obtain ⟨first, _, succeeded⟩ := Attempt.bind_eq_ok_iff.mp succeeded
  obtain ⟨last, _, same⟩ := Attempt.bind_eq_ok_iff.mp succeeded
  cases same
  rw [Attempt.ofGraph_eq_ok_iff] at areContainers entrancesFound
  exact {
    goals := exists_goal
    entrances := exists_mem_findEntrances tree checked areContainers entrancesFound }

end Search

end BoxDiagram
