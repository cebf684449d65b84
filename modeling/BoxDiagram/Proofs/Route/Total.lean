import BoxDiagram.Proofs.Route.Planner

namespace BoxDiagram

/-!
# Every link has a route

Planning fails for no link of a resolved diagram: a layout of all boxes and roads
is enough for a search, and where that gives up a climb with as many turns as
boxes may be nested finds a way.
-/

variable {α : Type}

/-- A layout shows all boxes and roads of a graph, in order. -/
structure Layout.IsComplete (graph : Graph α) (layout : Layout α) : Prop where
  ids_eq : layout.nodes.map (·.id) = List.range graph.size
  roads_eq : layout.roads.map (·.road) = (RoadMap.ofGraph graph ()).keys

namespace Layout.IsComplete

variable {graph : Graph α} {layout : Layout α}

/-- A complete layout shows each box. -/
theorem exists_node?
    (complete : layout.IsComplete graph)
    {id : NodeId}
    {node : Node α}
    (found : graph.get? id = some node) :
    ∃ shown, layout.node? id = some shown := by
  have inside : id < graph.size := Graph.exists_get?_iff.mp ⟨node, found⟩
  have numbered := congrArg (·[id]?) complete.ids_eq
  simp only [List.getElem?_map, List.getElem?_range inside] at numbered
  obtain ⟨shown, isShown, sameId⟩ := Option.map_eq_some_iff.mp numbered
  exact ⟨shown, by simp [Layout.node?, isShown, sameId]⟩

variable [Scalar α]

/-- A complete layout shows where the middle of each box is. -/
theorem exists_center
    (complete : layout.IsComplete graph)
    {id : NodeId}
    {node : Node α}
    (found : graph.get? id = some node) :
    ∃ point, Search.center graph layout id = .ok point := by
  obtain ⟨shown, isShown⟩ := complete.exists_node? found
  exact ⟨_, by rw [Search.center, isShown]; rfl⟩

/-- The line of a road in the reference is the middle of the road in the layout. -/
theorem exists_line
    (complete : layout.IsComplete graph)
    {road : Road}
    (exists_road : graph.HasRoad road) :
    ∃ shown ∈ layout.roads, shown.road = road ∧
      ((Reference.ofLayout graph layout).lines.get? road).join =
        some (shown.fixedAxis, shown.centerLine) := by
  let line (shown : RoadLayout α) : Road × Option (Axis × α) :=
    (shown.road, some (shown.fixedAxis, shown.centerLine))
  have sameRoads : (layout.roads.map line).map (·.1) = (RoadMap.ofGraph graph ()).keys := by
    rw [List.map_map]
    exact complete.roads_eq
  have isKey : road ∈ layout.roads.map (·.road) := by
    rw [complete.roads_eq]
    exact List.mem_map.mpr
      ⟨(road, ()), RoadMap.mem_toList_iff.mpr (RoadMap.get?_ofGraph exists_road ()), rfl⟩
  obtain ⟨shown, isShown, rfl⟩ := List.mem_map.mp isKey
  have entered :=
    RoadMap.get?_foldl_set (sameRoads ▸ RoadMap.nodup_keys _) (List.mem_map_of_mem isShown)
      (show ((RoadMap.ofGraph graph none).get? (line shown).1).isSome by
        rw [RoadMap.get?_ofGraph exists_road none]
        rfl)
  rw [List.foldl_map] at entered
  exact ⟨shown, isShown, rfl, by
    rw [Reference.ofLayout]
    exact congrArg Option.join entered⟩

end Layout.IsComplete

/-- Two boxes that lie apart have a route that is planned by the tree alone. -/
theorem Topological.exists_planLink
    {graph : Graph α}
    {limit : Nat}
    {link : Link}
    {source target : Node α}
    (tree : graph.IsTree)
    (enough : maxNesting ≤ limit)
    (id : LinkId)
    (sourceFound : graph.get? link.source.node = some source)
    (targetFound : graph.get? link.target.node = some target)
    (apart : source.isRelatedTo target = false) :
    ∃ route, planLink graph limit id link = .ok route := by
  obtain ⟨ends, isChecked⟩ := LinkEnds.exists_ofLink tree id sourceFound targetFound apart
  obtain ⟨_, _, _, first, last, common, climb, descent, checked⟩ :=
    LinkEnds.areChecked_of_ofLink tree isChecked
  have sourceDepth := tree.depth_le checked.sourceFound
  have targetDepth := tree.depth_le checked.targetFound
  obtain ⟨route, routed⟩ : ∃ route, routeLink graph ends limit = .ok route :=
    exists_routeLink tree checked (by omega) (by omega)
  obtain ⟨sourceExit, targetExit, roads, rfl, isWalk⟩ := isWalk_of_routeLink tree checked routed
  have verified := checked.verify_route tree isWalk
  exact ⟨_, by
    rw [planLink, isChecked, Attempt.ok_bind, routed, Attempt.ok_bind, verified]
    rfl⟩

/-- The search for a link is set up in a complete layout, with a middle line for each road. -/
theorem Search.Task.exists_ofEnds
    [Scalar α]
    {graph : Graph α}
    {layout : Layout α}
    {ends : LinkEnds}
    {source target common : Node α}
    {climb descent : Nat}
    (tree : graph.IsTree)
    (checked : ends.AreChecked graph source target common climb descent)
    (complete : layout.IsComplete graph)
    (config : RouteConfig) :
    ∃ task, Search.Task.ofEnds graph (Reference.ofLayout graph layout) config ends = .ok task ∧
      task.IsSound source target common climb descent ∧ task.graph = graph ∧ task.ends = ends ∧
        task.HasLines := by
  obtain ⟨setUp, areSound, isSetUp⟩ :=
    Search.Task.exists_ofEnds_eq tree checked (Reference.ofLayout graph layout) config
  obtain ⟨start, isStart⟩ := complete.exists_center checked.sourceFound
  obtain ⟨finish, isFinish⟩ := complete.exists_center checked.targetFound
  obtain ⟨sound, sameGraph, sameEnds, sameReference⟩ := areSound start finish
  refine ⟨setUp start finish, ?_, sound, sameGraph, sameEnds, ?_⟩
  · rw [isSetUp, show (Reference.ofLayout graph layout).layout = layout from rfl, isStart,
      Attempt.ok_bind, isFinish]
    rfl
  · intro road exists_road
    rw [sameGraph] at exists_road
    rw [sameReference]
    obtain ⟨_, _, _, isLine⟩ := complete.exists_line exists_road
    exact ⟨_, isLine⟩

namespace RoutePlanner

variable [Scalar α]

/-- Two boxes that lie apart have a route that is searched in a complete layout. -/
theorem exists_searchLink
    {input : PlannerInput α}
    {layout : Layout α}
    {link : Link}
    {source target : Node α}
    (tree : input.graph.IsTree)
    (enough : maxNesting ≤ input.config.depthLimit)
    (complete : layout.IsComplete input.graph)
    (id : LinkId)
    (sourceFound : input.graph.get? link.source.node = some source)
    (targetFound : input.graph.get? link.target.node = some target)
    (apart : source.isRelatedTo target = false) :
    ∃ route, searchLink input (Reference.ofLayout input.graph layout) id link = .ok route := by
  obtain ⟨ends, isChecked⟩ := LinkEnds.exists_ofLink tree id sourceFound targetFound apart
  obtain ⟨_, _, _, first, last, common, climb, descent, checked⟩ :=
    LinkEnds.areChecked_of_ofLink tree isChecked
  obtain ⟨task, isTask, sound, sameGraph, sameEnds, hasLines⟩ :=
    Search.Task.exists_ofEnds tree checked complete input.config
  obtain ⟨answer, searched⟩ := Search.exists_run sound hasLines
  cases answer with
  | some route =>
      obtain ⟨sourceExit, targetExit, roads, rfl, isWalk⟩ := Search.isWalk_of_run sound searched
      rw [sameGraph, sameEnds] at isWalk
      have verified := checked.verify_route tree isWalk
      rw [sameEnds] at searched
      exact ⟨_, by
        rw [searchLink, isChecked, Attempt.ok_bind, isTask, Attempt.ok_bind, searched,
          Attempt.ok_bind]
        dsimp only
        rw [pure_bind, verified]
        rfl⟩
  | none =>
      have sourceDepth := tree.depth_le checked.sourceFound
      have targetDepth := tree.depth_le checked.targetFound
      obtain ⟨route, routed⟩ :
          ∃ route, Topological.routeLink input.graph ends input.config.depthLimit = .ok route :=
        Topological.exists_routeLink tree checked (by omega) (by omega)
      obtain ⟨sourceExit, targetExit, roads, rfl, isWalk⟩ :=
        Topological.isWalk_of_routeLink tree checked routed
      have verified := checked.verify_route tree isWalk
      exact ⟨_, by
        rw [searchLink, isChecked, Attempt.ok_bind, isTask, Attempt.ok_bind, searched,
          Attempt.ok_bind]
        dsimp only
        rw [routed, Attempt.ok_bind, verified]
        rfl⟩

/-- Every link of a resolved diagram gets a route. -/
theorem exists_ofKind
    {diagram : Diagram α}
    {input : PlannerInput α}
    {layout : Layout α}
    (resolved : diagram.IsResolved)
    (sameGraph : input.graph = diagram.graph)
    (sameLinks : input.links = diagram.links)
    (enough : maxNesting ≤ input.config.depthLimit)
    (hasReference : input.reference () = .ok layout)
    (complete : layout.IsComplete input.graph)
    (kind : PlannerKind) :
    ∃ routes, ofKind kind input = .ok routes := by
  have tree : input.graph.IsTree := sameGraph ▸ resolved.tree
  have joined :
      ∀ entry ∈ input.links.zipIdx,
        ∃ source target,
          input.graph.get? entry.1.source.node = some source ∧
            input.graph.get? entry.1.target.node = some target ∧
              source.isRelatedTo target = false := by
    intro entry member
    rw [sameGraph]
    exact resolved.joined entry.1 (sameLinks ▸ List.fst_mem_of_mem_zipIdx member)
  cases kind with
  | geometric =>
      change ∃ routes, geometric input = .ok routes
      rw [geometric]
      split
      · exact ⟨[], rfl⟩
      · rw [hasReference, Attempt.ok_bind]
        apply Attempt.exists_mapM_eq_ok
        intro entry member
        obtain ⟨source, target, sourceFound, targetFound, apart⟩ := joined entry member
        exact exists_searchLink tree enough complete entry.2 sourceFound targetFound apart
  | topological =>
      apply Attempt.exists_mapM_eq_ok
      intro entry member
      obtain ⟨source, target, sourceFound, targetFound, apart⟩ := joined entry member
      exact Topological.exists_planLink tree enough entry.2 sourceFound targetFound apart

end RoutePlanner

end BoxDiagram
