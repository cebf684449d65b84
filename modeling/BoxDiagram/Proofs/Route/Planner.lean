import BoxDiagram.Number.Exact
import BoxDiagram.Proofs.Graph.Resolved
import BoxDiagram.Proofs.Route.Run
import BoxDiagram.Proofs.Route.Topological
import BoxDiagram.Route.Planner

namespace BoxDiagram

/-!
# Planned routes are walks

Both planners give every link of a resolved diagram a walk along crossing roads,
from a side at which its source may be left to a side at which its target may be.
-/

variable {α : Type}

/-- A route belongs to a link with a given number and is a walk between its ends. -/
structure Route.IsFor
    (graph : Graph α)
    (id : LinkId)
    (link : Link)
    (route : Route) : Prop where
  link_eq : route.link = id
  source_eq : route.source = link.source.node
  target_eq : route.target = link.target.node
  isWalk :
    ∃ common, graph.IsCommon common link.source.node link.target.node ∧
      graph.IsWalk common link.source link.target route.sourceExit route.targetExit route.roads

/-- There is one route for each link, in the order of the links. -/
structure Route.AreFor
    (graph : Graph α)
    (links : List Link)
    (routes : List Route) : Prop where
  counted : routes.length = links.length
  isFor :
    ∀ {id : LinkId} {link : Link} {route : Route},
      links[id]? = some link → routes[id]? = some route → route.IsFor graph id link

namespace Route.AreFor

variable {graph : Graph α} {links : List Link} {routes : List Route}

/-- There is a route for each link, in their order. -/
theorem links_eq
    (areFor : AreFor graph links routes) :
    routes.map (·.link) = List.range links.length := by
  apply List.ext_getElem (by simp [areFor.counted])
  intro id isRoute isNumber
  rw [List.length_map] at isRoute
  have isFor :=
    areFor.isFor (List.getElem?_eq_getElem (areFor.counted ▸ isRoute))
      (List.getElem?_eq_getElem isRoute)
  rw [List.getElem_map, List.getElem_range]
  exact isFor.link_eq

/-- Each route is one for a link. -/
theorem exists_link
    (areFor : AreFor graph links routes)
    {route : Route}
    (member : route ∈ routes) :
    ∃ (id : LinkId) (link : Link), id < links.length ∧ link ∈ links ∧
      route.IsFor graph id link := by
  obtain ⟨id, inside, rfl⟩ := List.mem_iff_getElem.mp member
  have isLink := List.getElem?_eq_getElem (areFor.counted ▸ inside : id < links.length)
  exact ⟨id, _, areFor.counted ▸ inside, List.mem_of_getElem? isLink,
    areFor.isFor isLink (List.getElem?_eq_getElem inside)⟩

end Route.AreFor

namespace Route.IsFor

variable {graph : Graph α} {id : LinkId} {link : Link} {route : Route}

/-- A route has roads of the graph only. -/
theorem hasRoad
    (isFor : route.IsFor graph id link)
    {road : Road}
    (member : road ∈ route.roads) :
    graph.HasRoad road := by
  obtain ⟨common, _, isWalk⟩ := isFor.isWalk
  exact (isWalk.between road member).1

/-- No route is empty. -/
theorem passages_ne_nil
    (isFor : route.IsFor graph id link) :
    route.passages ≠ [] := by
  intro noPassages
  obtain ⟨common, _, isWalk⟩ := isFor.isWalk
  obtain ⟨first, isFirst, _⟩ := isWalk.first
  rw [Route.roads, noPassages] at isFirst
  cases isFirst

end Route.IsFor

namespace LinkEnds

/-- A route passes the roads that it was made of. -/
@[simp] theorem roads_route
    (ends : LinkEnds)
    (sourceExit targetExit : Direction)
    (roads : List Road) :
    (ends.route sourceExit targetExit roads).roads = roads := by
  simp [LinkEnds.route, Route.roads, Function.comp_def]

/-- A walk between the ends of a checked link is a route for the link. -/
theorem AreChecked.isFor
    {graph : Graph α}
    {id : LinkId}
    {link : Link}
    {ends : LinkEnds}
    {source target common : Node α}
    {climb descent : Nat}
    {sourceExit targetExit : Direction}
    {roads : List Road}
    (checked : ends.AreChecked graph source target common climb descent)
    (sameId : ends.id = id)
    (sameSource : ends.source = link.source)
    (sameTarget : ends.target = link.target)
    (isWalk :
      graph.IsWalk ends.common ends.source ends.target sourceExit targetExit roads) :
    (ends.route sourceExit targetExit roads).IsFor graph id link where
  link_eq := sameId
  source_eq := congrArg Endpoint.node sameSource
  target_eq := congrArg Endpoint.node sameTarget
  isWalk := by
    refine ⟨ends.common, ?_, ?_⟩
    · rw [← sameSource, ← sameTarget]
      exact checked.isCommon
    · rw [← sameSource, ← sameTarget, roads_route]
      exact isWalk

/-- A walk between the ends of a checked link passes the check after planning. -/
theorem AreChecked.verify_route
    {graph : Graph α}
    {ends : LinkEnds}
    {source target common : Node α}
    {climb descent : Nat}
    {sourceExit targetExit : Direction}
    {roads : List Road}
    (tree : graph.IsTree)
    (checked : ends.AreChecked graph source target common climb descent)
    (isWalk :
      graph.IsWalk ends.common ends.source ends.target sourceExit targetExit roads) :
    ends.verify graph (ends.route sourceExit targetExit roads) = .ok () := by
  apply verify_of_isWalk tree checked
  rw [roads_route]
  exact isWalk

end LinkEnds

/-- A route planned by the tree alone is a walk. -/
theorem Topological.isFor_of_planLink
    {graph : Graph α}
    {limit : Nat}
    {id : LinkId}
    {link : Link}
    {route : Route}
    (tree : graph.IsTree)
    (planned : planLink graph limit id link = .ok route) :
    route.IsFor graph id link := by
  obtain ⟨ends, isChecked, planned⟩ := Attempt.bind_eq_ok_iff.mp planned
  obtain ⟨found, routed, planned⟩ := Attempt.bind_eq_ok_iff.mp planned
  obtain ⟨_, _, same⟩ := Attempt.bind_eq_ok_iff.mp planned
  cases same
  obtain ⟨sameId, sameSource, sameTarget, source, target, common, climb, descent, checked⟩ :=
    LinkEnds.areChecked_of_ofLink tree isChecked
  obtain ⟨sourceExit, targetExit, roads, rfl, isWalk⟩ := isWalk_of_routeLink tree checked routed
  exact checked.isFor sameId sameSource sameTarget isWalk

/-- A set-up search knows where the target of its link may be reached. -/
theorem Search.Task.isSound_of_ofEnds
    [Scalar α]
    {graph : Graph α}
    {reference : Reference α}
    {config : RouteConfig}
    {ends : LinkEnds}
    {task : Search.Task α}
    {source target common : Node α}
    {climb descent : Nat}
    (tree : graph.IsTree)
    (checked : ends.AreChecked graph source target common climb descent)
    (succeeded : Search.Task.ofEnds graph reference config ends = .ok task) :
    task.IsSound source target common climb descent ∧ task.graph = graph ∧ task.ends = ends ∧
      task.reference = reference := by
  obtain ⟨setUp, areSound, isSetUp⟩ :=
    Search.Task.exists_ofEnds_eq tree checked reference config
  rw [isSetUp] at succeeded
  obtain ⟨first, _, succeeded⟩ := Attempt.bind_eq_ok_iff.mp succeeded
  obtain ⟨last, _, same⟩ := Attempt.bind_eq_ok_iff.mp succeeded
  cases same
  exact areSound first last

namespace RoutePlanner

/-- Routes that are planned for all links in turn are routes for these. -/
theorem areFor_of_mapM
    {graph : Graph α}
    {links : List Link}
    {routes : List Route}
    {plan : LinkId → Link → Except Failure Route}
    (isFor :
      ∀ {id : LinkId} {link : Link} {route : Route},
        plan id link = .ok route → route.IsFor graph id link)
    (succeeded : (links.zipIdx.mapM fun (link, id) => plan id link) = .ok routes) :
    Route.AreFor graph links routes := by
  constructor
  case counted =>
    rw [Attempt.length_of_mapM succeeded, List.length_zipIdx]
  case isFor =>
    intro id link route isLink isRoute
    have numbered : links.zipIdx[id]? = some (link, id) := by
      simp [List.getElem?_zipIdx, isLink]
    exact isFor (Attempt.step_of_mapM succeeded numbered isRoute)

variable [Scalar α]

/-- A route that was searched, or planned by the tree where the search gave up, is a walk. -/
theorem isFor_of_searchLink
    {input : PlannerInput α}
    {reference : Reference α}
    {id : LinkId}
    {link : Link}
    {route : Route}
    (tree : input.graph.IsTree)
    (planned : searchLink input reference id link = .ok route) :
    route.IsFor input.graph id link := by
  obtain ⟨ends, isChecked, planned⟩ := Attempt.bind_eq_ok_iff.mp planned
  obtain ⟨task, isTask, planned⟩ := Attempt.bind_eq_ok_iff.mp planned
  obtain ⟨answer, searched, planned⟩ := Attempt.bind_eq_ok_iff.mp planned
  obtain ⟨sameId, sameSource, sameTarget, source, target, common, climb, descent, checked⟩ :=
    LinkEnds.areChecked_of_ofLink tree isChecked
  obtain ⟨sound, sameGraph, sameEnds, _⟩ :=
    Search.Task.isSound_of_ofEnds tree checked isTask
  have isWalk :
      ∃ sourceExit targetExit roads,
        route = ends.route sourceExit targetExit roads ∧
          input.graph.IsWalk ends.common ends.source ends.target sourceExit targetExit roads := by
    cases answer with
    | some found =>
        obtain ⟨chosen, isChosen, planned⟩ := Attempt.bind_eq_ok_iff.mp planned
        cases isChosen
        obtain ⟨_, _, same⟩ := Attempt.bind_eq_ok_iff.mp planned
        cases same
        have found := Search.isWalk_of_run sound searched
        rw [sameGraph, sameEnds] at found
        exact found
    | none =>
        obtain ⟨found, routed, planned⟩ := Attempt.bind_eq_ok_iff.mp planned
        obtain ⟨_, _, same⟩ := Attempt.bind_eq_ok_iff.mp planned
        cases same
        exact Topological.isWalk_of_routeLink tree checked routed
  obtain ⟨sourceExit, targetExit, roads, rfl, walks⟩ := isWalk
  exact checked.isFor sameId sameSource sameTarget walks

/-- A planner gives each link in turn a route for it. -/
theorem areFor_of_ofKind
    {kind : PlannerKind}
    {input : PlannerInput α}
    {routes : List Route}
    (tree : input.graph.IsTree)
    (planned : ofKind kind input = .ok routes) :
    Route.AreFor input.graph input.links routes := by
  cases kind with
  | geometric =>
      change geometric input = .ok routes at planned
      rw [geometric] at planned
      split at planned
      · rename_i noLinks
        cases planned
        exact ⟨by simp [noLinks], fun _ isRoute => by cases isRoute⟩
      · obtain ⟨layout, _, planned⟩ := Attempt.bind_eq_ok_iff.mp planned
        exact areFor_of_mapM (isFor_of_searchLink tree) planned
  | topological =>
      exact areFor_of_mapM (Topological.isFor_of_planLink tree) planned

/--
Every route planned for a resolved diagram is a walk: it leaves its source and its
target onto its first and its last road, every road lies around one of them and
not outside their innermost container, and each road crosses the next one, in one
container or where one of the two leads out of its container into the other.
-/
theorem routes_are_walks
    {outline : Outline}
    {diagram : Diagram α}
    (resolved : Diagram.ofOutline outline = .ok diagram)
    (kind : PlannerKind)
    (config : RouteConfig)
    (reference : Unit → Except Failure (Layout α))
    {routes : List Route}
    (planned :
      ofKind kind { graph := diagram.graph, links := diagram.links, config, reference } =
        .ok routes) :
    routes.length = diagram.links.length ∧
      ∀ (id : LinkId) (link : Link) (route : Route),
        diagram.links[id]? = some link → routes[id]? = some route →
          route.link = id ∧ route.source = link.source.node ∧ route.target = link.target.node ∧
            (∃ common, diagram.graph.IsCommon common link.source.node link.target.node ∧
              diagram.graph.IsWalk common link.source link.target route.sourceExit
                route.targetExit route.roads) ∧
            (∀ side node, link.source.edge = some side →
              diagram.graph.get? link.source.node = some node →
                route.sourceExit = node.ownFrame.absoluteOf side) ∧
            (∀ side node, link.target.edge = some side →
              diagram.graph.get? link.target.node = some node →
                route.targetExit = node.ownFrame.absoluteOf side) := by
  have tree := (Diagram.isResolved_of_ofOutline resolved).tree
  have areFor := areFor_of_ofKind tree planned
  refine ⟨areFor.counted, ?_⟩
  intro id link route isLink isRoute
  have isFor := areFor.isFor isLink isRoute
  obtain ⟨common, isCommon, isWalk⟩ := isFor.isWalk
  refine ⟨isFor.link_eq, isFor.source_eq, isFor.target_eq, ⟨common, isCommon, isWalk⟩, ?_, ?_⟩
  · intro side node isFixed isNode
    obtain ⟨_, _, leaves⟩ := isWalk.first
    exact leaves.exit_eq_of_edge isFixed isNode
  · intro side node isFixed isNode
    obtain ⟨_, _, leaves⟩ := isWalk.last
    exact leaves.exit_eq_of_edge isFixed isNode

/-- The route of a link from a fixed side of a box within a box is such a walk. -/
theorem exists_routes_are_walks :
    ∃ (outline : Outline) (diagram : Diagram Rat) (routes : List Route),
      Diagram.ofOutline outline = .ok diagram ∧
        ofKind .topological
            { graph := diagram.graph
              links := diagram.links
              config := {}
              reference := fun _ => .error (.stage .noRoute "") } =
          .ok routes ∧
        diagram.links.length = 1 ∧
        ∀ (id : LinkId) (link : Link) (route : Route),
          diagram.links[id]? = some link → routes[id]? = some route →
            ∃ common, diagram.graph.IsCommon common link.source.node link.target.node ∧
              diagram.graph.IsWalk common link.source link.target route.sourceExit
                route.targetExit route.roads := by
  have succeeds :
      ((Outline.read "[a]\n(.b)\n(.c)\n(d)\n\x7ba.b 1->2 d\x7d").toOption.bind fun outline =>
        (Diagram.ofOutline outline : Except Diagnostic (Diagram Rat)).toOption.bind fun diagram =>
          (ofKind .topological
            { graph := diagram.graph
              links := diagram.links
              config := {}
              reference := fun _ => .error (.stage .noRoute "") }
            ).toOption.map fun _ => diagram.links.length) = some 1 := by
    decide +kernel
  obtain ⟨outline, _, succeeds⟩ := Option.bind_eq_some_iff.mp succeeds
  obtain ⟨diagram, resolved, succeeds⟩ := Option.bind_eq_some_iff.mp succeeds
  obtain ⟨routes, planned, counted⟩ := Option.map_eq_some_iff.mp succeeds
  have resolved := Attempt.toOption_eq_some_iff.mp resolved
  have planned := Attempt.toOption_eq_some_iff.mp planned
  refine ⟨outline, diagram, routes, resolved, planned, counted, ?_⟩
  intro id link route isLink isRoute
  exact ((routes_are_walks resolved .topological {} _ planned).2 id link route isLink
    isRoute).2.2.2.1

end RoutePlanner

end BoxDiagram
