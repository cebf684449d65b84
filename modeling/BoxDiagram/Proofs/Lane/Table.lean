import BoxDiagram.Lane.Table
import BoxDiagram.Proofs.Road.Map
import BoxDiagram.Proofs.Route.Planner

namespace BoxDiagram

/-!
# Giving out lanes

Lanes are given out on every road of a graph, and a table is made as soon as all
routes keep to these roads.  Apart from the lanes the routes stay as they were.
-/

variable {α : Type} {graph : Graph α}

namespace RoadTable

/-- A route over known roads enters all of them. -/
theorem exists_travel
    {users : RoadMap (List LinkId)}
    {route : Route}
    (isOver : users.IsOver graph)
    (known : ∀ road ∈ route.roads, graph.HasRoad road) :
    ∃ entered, travel users route = .ok entered ∧ entered.IsOver graph := by
  apply Attempt.exists_foldlM_eq_ok isOver
  intro road member before beforeOver
  obtain ⟨links, isFound⟩ := beforeOver.exists_get?_iff.mpr (known road member)
  exact ⟨_, by rw [enter, isFound], beforeOver.modify road _⟩

/-- The links on each road can be listed if all routes keep to the roads of the graph. -/
theorem exists_users
    {routes : List Route}
    (known : ∀ route ∈ routes, ∀ road ∈ route.roads, graph.HasRoad road) :
    ∃ users, RoadTable.users graph routes = .ok users ∧ users.IsOver graph := by
  apply Attempt.exists_foldlM_eq_ok (RoadMap.IsOver.ofGraph graph [])
  intro route member before beforeOver
  exact exists_travel beforeOver (known route member)

/-- A link enters a road that the graph has, and no other. -/
theorem of_enter
    {users entered : RoadMap (List LinkId)}
    {link : LinkId}
    {road : Road}
    (isOver : users.IsOver graph)
    (succeeded : enter users link road = .ok entered) :
    graph.HasRoad road ∧ entered = users.modify road (join · link) := by
  rw [enter] at succeeded
  split at succeeded
  case h_1 links isFound =>
    cases succeeded
    exact ⟨isOver.exists_get?_iff.mp ⟨links, isFound⟩, rfl⟩
  case h_2 =>
    cases succeeded

/-- Entering a road leaves the roads of the map. -/
theorem isOver_of_enter
    {users entered : RoadMap (List LinkId)}
    {link : LinkId}
    {road : Road}
    (isOver : users.IsOver graph)
    (succeeded : enter users link road = .ok entered) :
    entered.IsOver graph := by
  rw [(of_enter isOver succeeded).2]
  exact isOver.modify road _

/-- Entering the roads of a route leaves those of the map. -/
theorem isOver_of_travel
    {users entered : RoadMap (List LinkId)}
    {route : Route}
    (isOver : users.IsOver graph)
    (succeeded : travel users route = .ok entered) :
    entered.IsOver graph :=
  Attempt.foldlM_keeps succeeded isOver fun _ _ _ _ => isOver_of_enter

/-- The users of all roads are listed road by road. -/
theorem isOver_of_users
    {routes : List Route}
    {users : RoadMap (List LinkId)}
    (succeeded : RoadTable.users graph routes = .ok users) :
    users.IsOver graph :=
  Attempt.foldlM_keeps succeeded (.ofGraph graph []) fun _ _ _ _ => isOver_of_travel

/-- A road of a route gets the link of the route, unless it has it; other roads stay as they are. -/
theorem get?_of_travel
    {users entered : RoadMap (List LinkId)}
    {route : Route}
    (succeeded : travel users route = .ok entered)
    (road : Road) :
    entered.get? road =
      (users.get? road).map fun links =>
        if road ∈ route.roads then join links route.link else links := by
  rw [travel] at succeeded
  generalize route.roads = roads at succeeded ⊢
  induction roads generalizing users with
  | nil =>
      cases succeeded
      simp
  | cons passed rest inductionHypothesis =>
      rw [List.foldlM_cons] at succeeded
      obtain ⟨next, isEntered, succeeded⟩ := Attempt.bind_eq_ok_iff.mp succeeded
      have nextEq : next = users.modify passed (join · route.link) := by
        rw [enter] at isEntered
        split at isEntered
        · cases isEntered
          rfl
        · cases isEntered
      rw [inductionHypothesis succeeded, nextEq, RoadMap.get?_modify]
      by_cases isPassed : passed = road
      · subst isPassed
        have joinsOnce (links : List LinkId) :
            join (join links route.link) route.link = join links route.link := by
          by_cases contained : route.link ∈ links <;> simp [join, contained]
        simp only [if_true, Option.map_map, List.mem_cons, true_or]
        congr 1
        funext links
        by_cases again : passed ∈ rest <;> simp [again, joinsOnce]
      · simp [isPassed, Ne.symm isPassed]

/-- Routes of different new links add the links of those that pass a road, in order. -/
theorem get?_of_foldlM_travel
    {users entered : RoadMap (List LinkId)}
    {routes : List Route}
    {links : List LinkId}
    {road : Road}
    (nodup : (routes.map (·.link)).Nodup)
    (areNew : ∀ route ∈ routes, route.link ∉ links)
    (isFound : users.get? road = some links)
    (succeeded : routes.foldlM travel users = .ok entered) :
    entered.get? road =
      some (links ++ (routes.filter (road ∈ ·.roads)).map (·.link)) := by
  induction routes generalizing users links with
  | nil =>
      cases succeeded
      simp [isFound]
  | cons route rest inductionHypothesis =>
      rw [List.foldlM_cons] at succeeded
      obtain ⟨next, travelled, succeeded⟩ := Attempt.bind_eq_ok_iff.mp succeeded
      rw [List.map_cons, List.nodup_cons] at nodup
      have isNew : route.link ∉ links := areNew route (by simp)
      have restNew : ∀ other ∈ rest, other.link ∉ links :=
        fun other member => areNew other (by simp [member])
      have nextFound := get?_of_travel travelled road
      rw [isFound, Option.map_some] at nextFound
      by_cases passes : road ∈ route.roads
      · have joined : join links route.link = links ++ [route.link] := by
          simp [join, isNew]
        rw [if_pos passes, joined] at nextFound
        have areNewStill : ∀ other ∈ rest, other.link ∉ links ++ [route.link] := by
          intro other member
          have different : other.link ≠ route.link := by
            intro same
            exact nodup.1 (same ▸ List.mem_map_of_mem member)
          simp [restNew other member, different]
        rw [inductionHypothesis nodup.2 areNewStill nextFound succeeded]
        simp [passes]
      · rw [if_neg passes] at nextFound
        rw [inductionHypothesis nodup.2 restNew nextFound succeeded]
        simp [passes]

/-- Lanes do not change the roads of a route. -/
@[simp] theorem roads_assign
    (lanes : RoadMap RoadLanes)
    (route : Route) :
    (assign lanes route).roads = route.roads := by
  simp [assign, Route.roads, Function.comp_def]

/-- The lanes of a table are given out on the roads of the graph, to the routes in order. -/
theorem of_allocate
    {routes : List Route}
    {laneMin : Nat}
    {table : RoadTable}
    (succeeded : allocate graph routes laneMin = .ok table) :
    table.lanes.IsOver graph ∧ table.routes = routes.map (assign table.lanes) := by
  obtain ⟨users, usersFound, same⟩ := Attempt.bind_eq_ok_iff.mp succeeded
  cases same
  exact ⟨(isOver_of_users usersFound).map _, rfl⟩

/-- A road has lanes for the links whose routes pass it, in the order of the routes. -/
theorem get?_of_allocate
    {routes : List Route}
    {laneMin : Nat}
    {table : RoadTable}
    {road : Road}
    (nodup : (routes.map (·.link)).Nodup)
    (exists_road : graph.HasRoad road)
    (succeeded : allocate graph routes laneMin = .ok table) :
    table.get? road =
      some (.ofUsers laneMin ((routes.filter (road ∈ ·.roads)).map (·.link))) := by
  obtain ⟨users, usersFound, same⟩ := Attempt.bind_eq_ok_iff.mp succeeded
  cases same
  have isFound :=
    get?_of_foldlM_travel nodup (fun _ _ => List.not_mem_nil)
      (RoadMap.get?_ofGraph exists_road []) usersFound
  rw [RoadTable.get?, RoadMap.get?_map, isFound]
  rfl

/-- No road has more lanes than there are routes, or than the diagram asks for. -/
theorem count_le_of_allocate
    {routes : List Route}
    {laneMin : Nat}
    {table : RoadTable}
    {road : Road}
    {lanes : RoadLanes}
    (nodup : (routes.map (·.link)).Nodup)
    (succeeded : allocate graph routes laneMin = .ok table)
    (isFound : table.get? road = some lanes) :
    lanes.count ≤ max routes.length laneMin := by
  have exists_road : graph.HasRoad road :=
    (of_allocate succeeded).1.exists_get?_iff.mp ⟨lanes, isFound⟩
  rw [get?_of_allocate nodup exists_road succeeded] at isFound
  cases isFound
  have passing := List.length_filter_le (fun route => decide (road ∈ route.roads)) routes
  rw [RoadLanes.count_ofUsers, List.length_map]
  omega

/-- Routes over known roads get lanes. -/
theorem exists_allocate
    {routes : List Route}
    (known : ∀ route ∈ routes, ∀ road ∈ route.roads, graph.HasRoad road)
    (laneMin : Nat) :
    ∃ table, allocate graph routes laneMin = .ok table := by
  obtain ⟨users, usersFound, _⟩ := exists_users known
  exact ⟨_, by rw [allocate, usersFound]; rfl⟩

end RoadTable

/-- A route with lanes is for the same link. -/
theorem Route.IsFor.assign
    {id : LinkId}
    {link : Link}
    {route : Route}
    (isFor : route.IsFor graph id link)
    (lanes : RoadMap RoadLanes) :
    (RoadTable.assign lanes route).IsFor graph id link where
  link_eq := isFor.link_eq
  source_eq := isFor.source_eq
  target_eq := isFor.target_eq
  isWalk := by
    obtain ⟨common, isCommon, isWalk⟩ := isFor.isWalk
    refine ⟨common, isCommon, ?_⟩
    rw [RoadTable.roads_assign]
    exact isWalk

/-- The routes of a table are the planned ones, and so are still for the links. -/
theorem Route.AreFor.of_allocate
    {links : List Link}
    {routes : List Route}
    {laneMin : Nat}
    {table : RoadTable}
    (areFor : Route.AreFor graph links routes)
    (allocated : RoadTable.allocate graph routes laneMin = .ok table) :
    Route.AreFor graph links table.routes := by
  obtain ⟨_, routesEq⟩ := RoadTable.of_allocate allocated
  constructor
  case counted =>
    rw [routesEq, List.length_map]
    exact areFor.counted
  case isFor =>
    intro id link route isLink isRoute
    rw [routesEq, List.getElem?_map] at isRoute
    obtain ⟨original, isOriginal, rfl⟩ := Option.map_eq_some_iff.mp isRoute
    exact (areFor.isFor isLink isOriginal).assign table.lanes

end BoxDiagram
