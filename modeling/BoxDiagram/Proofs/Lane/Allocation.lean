import BoxDiagram.Proofs.Lane.Table

namespace BoxDiagram

/-!
# Lanes are neither lost nor given out twice

The roads of a graph are listed by container.  When lanes are given out, each of
these roads gets one lane for each link that passes it and empty lanes after those,
and each route gets on each of its roads the lane of its link.  This is all that
happens, unless a route passes a road that the graph does not have.
-/

variable {α : Type} {graph : Graph α}

/-- The roads of a container with a number; a cell has none. -/
def Node.roadsAt (node : Node α) (number : NodeId) : List Road :=
  if node.isContainer then
    (List.range (node.children.length + 1)).map (.main number) ++
      (List.range 2).map (.cross number)
  else []

/-- All roads of a graph: by container, the gaps in order and then the cross edges. -/
def Graph.roads (graph : Graph α) : List Road :=
  graph.nodes.toList.zipIdx.flatMap fun (node, number) => node.roadsAt number

/-- A map over a graph has exactly its roads. -/
theorem RoadMap.IsOver.keys_eq
    {β : Type}
    {roads : RoadMap β}
    (isOver : roads.IsOver graph) :
    roads.keys = graph.roads := by
  have roadsAt_eq :
      ∀ (node : Node α) (number : NodeId),
        (List.range (ContainerRoads.ofNode node ()).main.size).map (Road.main number) ++
            (List.range (ContainerRoads.ofNode node ()).cross.size).map (Road.cross number) =
          node.roadsAt number := by
    intro node number
    rw [ContainerRoads.ofNode, Node.roadsAt]
    split <;> simp [Node.mainAvenues]
  rw [RoadMap.keys_eq, isOver, RoadMap.sizes, RoadMap.ofGraph, Array.toList_map, List.map_map,
    List.zipIdx_map, List.flatMap_map, Graph.roads]
  congr 1
  funext entry
  exact roadsAt_eq entry.1 entry.2

namespace Graph

/-- The roads of a graph are listed completely. -/
theorem mem_roads_iff
    {road : Road} :
    road ∈ graph.roads ↔ graph.HasRoad road := by
  have isOver := RoadMap.IsOver.ofGraph graph ()
  rw [← isOver.keys_eq, ← isOver.exists_get?_iff]
  simp [RoadMap.keys, RoadMap.mem_toList_iff]

end Graph

namespace RoadLanes

/-- The lanes of a road have given links in order, once each, and are empty after those. -/
structure AreFor (lanes : RoadLanes) (links : List LinkId) (laneMin : Nat) : Prop where
  nodup : links.Nodup
  toList_eq : ∃ spare, lanes.toList = links.map some ++ List.replicate spare none
  count_eq : lanes.count = max links.length laneMin

/-- Lanes that are made for links hold each of them once. -/
theorem areFor_ofUsers
    {links : List LinkId}
    (nodup : links.Nodup)
    (laneMin : Nat) :
    (ofUsers laneMin links).AreFor links laneMin where
  nodup := nodup
  toList_eq := ⟨laneMin - links.length, rfl⟩
  count_eq := count_ofUsers laneMin links

/-- The lane of a link on a road is the first that the link has there. -/
structure IsLaneOf (lanes : RoadLanes) (link : LinkId) (lane : Nat) : Prop where
  laneOf?_eq : lanes.laneOf? link = some lane
  isTaken : lanes.toList[lane]? = some (some link)
  first : ∀ earlier < lane, lanes.toList[earlier]? ≠ some (some link)
  lt_count : lane < lanes.count

/-- Each link on a road has a lane. -/
theorem exists_isLaneOf
    {lanes : RoadLanes}
    {link : LinkId}
    (member : link ∈ lanes.links) :
    ∃ lane, lanes.IsLaneOf link lane := by
  obtain ⟨lane, isLane⟩ := Option.isSome_iff_exists.mp (List.isSome_idxOf?.mpr member)
  obtain ⟨inside, isLink, notEarlier⟩ := List.idxOf?_eq_some_iff.mp isLane
  have getElem?_eq {position : Nat} (isBefore : position < lanes.links.length) :
      lanes.toList[position]? = some (some lanes.links[position]) := by
    rw [toList, List.getElem?_append_left (by simpa using isBefore), List.getElem?_map,
      List.getElem?_eq_getElem isBefore]
    rfl
  refine ⟨lane, isLane, ?_, ?_, ?_⟩
  · rw [getElem?_eq inside, isLink]
  · intro earlier isEarlier isTaken
    rw [getElem?_eq (isEarlier.trans inside)] at isTaken
    exact notEarlier earlier isEarlier (Option.some.inj (Option.some.inj isTaken))
  · rw [count]
    omega

end RoadLanes

namespace Route

/-- The links whose routes pass a road, in the order of the routes. -/
def linksOn (routes : List Route) (road : Road) : List LinkId :=
  (routes.filter (road ∈ ·.roads)).map (·.link)

/-- A link uses a road once. -/
theorem nodup_linksOn
    {routes : List Route}
    (nodup : (routes.map (·.link)).Nodup)
    (road : Road) :
    (linksOn routes road).Nodup :=
  nodup.sublist (List.filter_sublist.map _)

/-- A given route is a planned one with, on each road, the lane of its link. -/
structure HasLanesOf (planned : Route) (table : RoadTable) (given : Route) : Prop where
  sameWay : { given with passages := planned.passages } = planned
  roads_eq : given.roads = planned.roads
  hasLane :
    ∀ passage ∈ given.passages, ∃ lanes lane,
      table.get? passage.road = some lanes ∧
        lanes.IsLaneOf planned.link lane ∧
          passage.lane = some lane
  sameLane :
    ∀ passage ∈ given.passages, ∀ other ∈ given.passages,
      passage.road = other.road → passage.lane = other.lane

end Route

/-- A passage is on the lane that a link has, by a table, on the road. -/
def Passage.HasLaneOf (passage : Passage) (table : RoadTable) (link : LinkId) : Prop :=
  ∃ lanes lane, table.get? passage.road = some lanes ∧ lanes.IsLaneOf link lane ∧
    passage.lane = some lane

namespace RoadTable

/-- The failure that a link passes a road which the graph does not have. -/
def noSuchRoad (link : LinkId) (road : Road) : Failure :=
  .stage .unknownRoad <|
    s!"{LinkId.display link} passes {road.describe} of {NodeId.display road.container}, " ++
      "which does not exist"

/-- A failure names a link and a road that its route passes but the graph does not have. -/
def NamesMissing (graph : Graph α) (routes : List Route) (failure : Failure) : Prop :=
  ∃ route ∈ routes, ∃ road ∈ route.roads,
    ¬ graph.HasRoad road ∧ failure = noSuchRoad route.link road

/-- The users of all roads are found, unless a route names a road that is missing. -/
theorem users_ends
    (routes : List Route) :
    Attempt.Ends (fun users => users.IsOver graph) (NamesMissing graph routes)
      (users graph routes) := by
  refine .foldlM (RoadMap.IsOver.ofGraph graph []) fun route isRoute before beforeOver => ?_
  refine .foldlM beforeOver fun road isPassed earlier earlierOver => ?_
  rw [enter]
  split
  case h_1 =>
    exact .ok (earlierOver.modify road _)
  case h_2 notFound =>
    have isMissing : ¬ graph.HasRoad road := by
      intro hasRoad
      obtain ⟨links, isFound⟩ := earlierOver.exists_get?_iff.mpr hasRoad
      cases notFound.symm.trans isFound
    exact .error ⟨route, isRoute, road, isPassed, isMissing, rfl⟩

/-- What fails when lanes are given out is named together with a link and its road. -/
theorem namesMissing_of_allocate
    {routes : List Route}
    {laneMin : Nat}
    {failure : Failure}
    (failed : allocate graph routes laneMin = .error failure) :
    NamesMissing graph routes failure := by
  have ends :
      Attempt.Ends (fun _ => True) (NamesMissing graph routes) (allocate graph routes laneMin) :=
    (users_ends routes).bind fun _ _ => .ok trivial
  exact ends.failsOnly.of_eq failed

/-- If lanes are given out, all routes keep to the roads of the graph. -/
theorem hasRoad_of_allocate
    {routes : List Route}
    {laneMin : Nat}
    {table : RoadTable}
    (succeeded : allocate graph routes laneMin = .ok table)
    {route : Route}
    (isRoute : route ∈ routes)
    {road : Road}
    (isPassed : road ∈ route.roads) :
    graph.HasRoad road := by
  obtain ⟨users, usersFound, _⟩ := Attempt.bind_eq_ok_iff.mp succeeded
  obtain ⟨before, after, beforeOver, travelled⟩ :=
    Attempt.exists_step_of_foldlM usersFound (RoadMap.IsOver.ofGraph graph [])
      (fun _ _ _ _ => isOver_of_travel) isRoute
  obtain ⟨earlier, later, earlierOver, entered⟩ :=
    Attempt.exists_step_of_foldlM travelled beforeOver (fun _ _ _ _ => isOver_of_enter) isPassed
  exact (of_enter earlierOver entered).1

/-- Lanes are given out unless a route passes a road that the graph does not have. -/
theorem allocate_eq_error_iff
    {routes : List Route}
    {laneMin : Nat} :
    (∃ failure, allocate graph routes laneMin = .error failure) ↔
      ∃ route ∈ routes, ∃ road ∈ route.roads, ¬ graph.HasRoad road := by
  constructor
  · rintro ⟨failure, failed⟩
    obtain ⟨route, isRoute, road, isPassed, isMissing, -⟩ := namesMissing_of_allocate failed
    exact ⟨route, isRoute, road, isPassed, isMissing⟩
  · rintro ⟨route, isRoute, road, isPassed, isMissing⟩
    cases allocated : allocate graph routes laneMin with
    | error failure =>
        exact ⟨failure, rfl⟩
    | ok table =>
        exact absurd (hasRoad_of_allocate allocated isRoute isPassed) isMissing

/-- A table has the lanes of routes with nothing lost and nothing given out twice. -/
structure IsAllocation
    (graph : Graph α)
    (routes : List Route)
    (laneMin : Nat)
    (table : RoadTable) : Prop where
  roads_eq : table.toList.map (·.1) = graph.roads
  hasRoad_iff : ∀ road, road ∈ table.toList.map (·.1) ↔ graph.HasRoad road
  nodup_roads : (table.toList.map (·.1)).Nodup
  areFor :
    ∀ road lanes, (road, lanes) ∈ table.toList →
      table.get? road = some lanes ∧ lanes.AreFor (Route.linksOn routes road) laneMin
  haveLanes : List.Forall₂ (Route.HasLanesOf · table) routes table.routes

/-- A route is given the lanes of its link in the table. -/
theorem hasLanesOf_assign
    {routes : List Route}
    {laneMin : Nat}
    {table : RoadTable}
    (nodup : (routes.map (·.link)).Nodup)
    (succeeded : allocate graph routes laneMin = .ok table)
    {route : Route}
    (isRoute : route ∈ routes) :
    route.HasLanesOf table (assign table.lanes route) where
  sameWay := rfl
  roads_eq := roads_assign _ _
  hasLane := by
    intro passage member
    obtain ⟨planned, isPlanned, rfl⟩ := List.mem_map.mp member
    have isPassed : planned.road ∈ route.roads := List.mem_map_of_mem isPlanned
    have isFound :=
      get?_of_allocate nodup (hasRoad_of_allocate succeeded isRoute isPassed) succeeded
    have isUser :
        route.link ∈ (RoadLanes.ofUsers laneMin (Route.linksOn routes planned.road)).links := by
      refine List.mem_map_of_mem (List.mem_filter.mpr ⟨isRoute, ?_⟩)
      simpa using isPassed
    obtain ⟨lane, isLane⟩ := RoadLanes.exists_isLaneOf isUser
    refine ⟨_, lane, isFound, isLane, ?_⟩
    rw [show table.lanes.get? planned.road = some _ from isFound]
    exact isLane.laneOf?_eq
  sameLane := by
    intro passage member other otherMember sameRoad
    obtain ⟨planned, _, rfl⟩ := List.mem_map.mp member
    obtain ⟨otherPlanned, _, rfl⟩ := List.mem_map.mp otherMember
    rw [show planned.road = otherPlanned.road from sameRoad]

/-- Each passage of a route in a table is on the lane of its link. -/
theorem hasLaneOf_of_allocate
    {routes : List Route}
    {laneMin : Nat}
    {table : RoadTable}
    (nodup : (routes.map (·.link)).Nodup)
    (succeeded : allocate graph routes laneMin = .ok table)
    {route : Route}
    (isRoute : route ∈ table.routes)
    {passage : Passage}
    (member : passage ∈ route.passages) :
    passage.HasLaneOf table route.link := by
  rw [(of_allocate succeeded).2] at isRoute
  obtain ⟨planned, isPlanned, rfl⟩ := List.mem_map.mp isRoute
  exact (hasLanesOf_assign nodup succeeded isPlanned).hasLane passage member

/-- The table holds the users of each road in the order of their routes. -/
theorem isAllocation_of_allocate
    {routes : List Route}
    {laneMin : Nat}
    {table : RoadTable}
    (nodup : (routes.map (·.link)).Nodup)
    (succeeded : allocate graph routes laneMin = .ok table) :
    table.IsAllocation graph routes laneMin := by
  obtain ⟨isOver, routesEq⟩ := of_allocate succeeded
  constructor
  case roads_eq =>
    exact isOver.keys_eq
  case hasRoad_iff =>
    intro road
    rw [show table.toList.map (·.1) = graph.roads from isOver.keys_eq]
    exact Graph.mem_roads_iff
  case nodup_roads =>
    exact table.lanes.nodup_keys
  case areFor =>
    intro road lanes listed
    have isFound : table.get? road = some lanes := RoadMap.mem_toList_iff.mp listed
    have hasRoad := isOver.exists_get?_iff.mp ⟨lanes, isFound⟩
    cases isFound.symm.trans (get?_of_allocate nodup hasRoad succeeded)
    exact ⟨isFound, RoadLanes.areFor_ofUsers (Route.nodup_linksOn nodup road) laneMin⟩
  case haveLanes =>
    rw [routesEq, List.forall₂_map_right_iff, List.forall₂_same]
    exact fun route isRoute => hasLanesOf_assign nodup succeeded isRoute

/--
Giving out lanes fails exactly if a route passes a road that the graph does not
have, and names it; otherwise nothing is lost and nothing is given out twice.
-/
theorem allocate_loses_nothing
    (graph : Graph α)
    {routes : List Route}
    (nodup : (routes.map (·.link)).Nodup)
    (laneMin : Nat) :
    ((∃ failure, allocate graph routes laneMin = .error failure) ↔
        ∃ route ∈ routes, ∃ road ∈ route.roads, ¬ graph.HasRoad road) ∧
      (∀ failure, allocate graph routes laneMin = .error failure →
        NamesMissing graph routes failure) ∧
      ∀ table, allocate graph routes laneMin = .ok table →
        table.IsAllocation graph routes laneMin :=
  ⟨allocate_eq_error_iff, fun _ => namesMissing_of_allocate,
    fun _ => isAllocation_of_allocate nodup⟩

/-- A link that comes back to a gap keeps its lane there; on a cross edge it is the second. -/
theorem exists_allocate_loses_nothing :
    ∃ (graph : Graph Rat) (routes : List Route) (table : RoadTable),
      (routes.map (·.link)).Nodup ∧
        allocate graph routes 1 = .ok table ∧
          table.routes.map (fun route => route.passages.map (·.lane)) =
              [[some 0], [some 0, some 1, some 0]] ∧
            table.IsAllocation graph routes 1 := by
  let graph : Graph Rat :=
    ⟨#[{ Node.detached 0 .group with children := [1, 2] }, .detached 1 .cell, .detached 2 .cell]⟩
  let route (link : LinkId) (roads : List Road) : Route :=
    LinkEnds.route ⟨link, ⟨1, none⟩, ⟨2, none⟩, 0⟩ .down .up roads
  let routes : List Route := [route 0 [.cross 0 1], route 1 [.main 0 1, .cross 0 1, .main 0 1]]
  have nodup : (routes.map (·.link)).Nodup := by decide
  have lanes :
      (allocate graph routes 1).toOption.map
          (fun table => table.routes.map fun route => route.passages.map (·.lane)) =
        some [[some 0], [some 0, some 1, some 0]] := by
    decide +kernel
  obtain ⟨table, allocated, lanesEq⟩ := Option.map_eq_some_iff.mp lanes
  have allocated := Attempt.toOption_eq_some_iff.mp allocated
  exact ⟨graph, routes, table, nodup, allocated, lanesEq,
    (allocate_loses_nothing graph nodup 1).2.2 table allocated⟩

end RoadTable

end BoxDiagram
