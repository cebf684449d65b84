import BoxDiagram.Proofs.Compiler
import BoxDiagram.Proofs.Layout.Side
import BoxDiagram.Proofs.Layout.Vacant
import BoxDiagram.Proofs.Route.Renumber
import Mathlib.Data.Set.List

namespace BoxDiagram

/-!
# The order of links moves no box

Each link is planned on its own, so that another order of the links only gives the
routes other numbers.  Every road then has as many lanes and every side of a box as
many gates as before, and all boxes and roads stay where they were.
-/

variable {α : Type}

/-- Two layouts show the same boxes and roads; only lanes and gates may belong to other links. -/
structure Layout.SameBoxes (layout other : Layout α) : Prop where
  size_eq : other.size = layout.size
  boxes_eq : other.nodes.map (·.withoutGates) = layout.nodes.map (·.withoutGates)
  roads_eq : other.roads.map (·.vacant) = layout.roads.map (·.vacant)
  gates_eq :
    ∀ (id : NodeId) (side : Direction),
      other.nodes[id]?.map (·.pointsAt side) = layout.nodes[id]?.map (·.pointsAt side)

section Routes

variable {routes others : List Route}

/-- A change of routes that keeps their sides keeps the number of ends at each side. -/
theorem Gate.endCount_map
    {change : Route → Route}
    (kept : ∀ route linkEnd, sideOf (change route) linkEnd = sideOf route linkEnd)
    (routes : List Route)
    (side : BoxSide) :
    endCount (routes.map change) side = endCount routes side := by
  rw [endCount, endCount, List.flatMap_map]
  induction routes with
  | nil =>
      rfl
  | cons route rest inductionHypothesis =>
      rw [List.flatMap_cons, List.flatMap_cons, List.countP_append, List.countP_append,
        inductionHypothesis]
      simp only [endsOf, kept, List.countP_cons, List.countP_nil]

/-- Routes that are a permutation of others up to their numbers end at the same sides. -/
theorem Gate.endCount_of_perm
    (perm : (others.map (·.renumber 0)).Perm (routes.map (·.renumber 0)))
    (side : BoxSide) :
    endCount others side = endCount routes side := by
  have kept (route : Route) (linkEnd : LinkEnd) :
      sideOf (route.renumber 0) linkEnd = sideOf route linkEnd := by
    cases linkEnd <;> rfl
  rw [← endCount_map kept others, ← endCount_map kept routes]
  exact (perm.flatMap_right endsOf).countP_eq _

/-- Giving lanes to routes does not change how many of them end at a side. -/
theorem RoadTable.endCount_of_allocate
    {graph : Graph α}
    {laneMin : Nat}
    {table : RoadTable}
    (allocated : allocate graph routes laneMin = .ok table)
    (side : BoxSide) :
    Gate.endCount table.routes side = Gate.endCount routes side := by
  rw [(of_allocate allocated).2]
  apply Gate.endCount_map
  intro route linkEnd
  cases linkEnd <;> rfl

/-- The lanes of a road are counted by the routes that pass it. -/
theorem RoadTable.count_of_allocate
    {graph : Graph α}
    {laneMin : Nat}
    {table : RoadTable}
    (nodup : (routes.map (·.link)).Nodup)
    (allocated : allocate graph routes laneMin = .ok table)
    {road : Road}
    (exists_road : graph.HasRoad road) :
    (table.get? road).map (·.count) =
      some (max ((routes.map (·.renumber 0)).countP (road ∈ ·.roads)) laneMin) := by
  rw [get?_of_allocate nodup exists_road allocated, Option.map_some, RoadLanes.count_ofUsers,
    List.length_map, ← List.countP_eq_length_filter, List.countP_map]
  rfl

end Routes

/-- Permuted links have permuted ways. -/
theorem Route.exists_ways_of_perm
    {way : Link → Option Route}
    {links permuted : List Link}
    {routes : List Route}
    (perm : permuted.Perm links)
    (ways :
      routes.map some = links.zipIdx.map fun (link, id) => (way link).map (·.renumber id)) :
    ∃ others : List Route,
      others.map some = (permuted.zipIdx.map fun (link, id) => (way link).map (·.renumber id)) ∧
        (others.map (·.renumber 0)).Perm (routes.map (·.renumber 0)) := by
  have unnumbered {given : List Link} {found : List Route}
      (foundWays :
        found.map some =
          given.zipIdx.map fun (link, id) => (way link).map (·.renumber id)) :
      (found.map (·.renumber 0)).map some =
        given.map fun link => (way link).map (·.renumber 0) := by
    have same := congrArg (List.map (Option.map (·.renumber 0))) foundWays
    rw [List.map_map, List.map_map] at same
    conv_rhs => rw [← List.zipIdx_map_fst 0 given, List.map_map]
    rw [List.map_map]
    refine Eq.trans same (List.map_congr_left fun entry _ => ?_)
    simp [Function.comp_def, renumber]
  have known : ∀ link ∈ links, ∃ route, way link = some route := by
    intro link member
    have listed : (way link).map (·.renumber 0) ∈ (routes.map (·.renumber 0)).map some := by
      rw [unnumbered ways]
      exact List.mem_map_of_mem member
    obtain ⟨_, _, isWay⟩ := List.mem_map.mp listed
    obtain ⟨route, isRoute, _⟩ := Option.map_eq_some_iff.mp isWay.symm
    exact ⟨route, isRoute⟩
  have areWays :
      (permuted.zipIdx.map fun (link, id) => (way link).map (Route.renumber · id)) ∈
        Set.range (List.map some) := by
    rw [Set.range_list_map]
    intro found member
    obtain ⟨⟨link, id⟩, listed, rfl⟩ := List.mem_map.mp member
    have member := List.mem_map_of_mem (f := Prod.fst) listed
    rw [List.zipIdx_map_fst] at member
    obtain ⟨route, isRoute⟩ := known link (perm.subset member)
    exact ⟨route.renumber id, by simp [isRoute]⟩
  obtain ⟨others, otherWays⟩ := areWays
  refine ⟨others, otherWays, ?_⟩
  have permSome := perm.map fun link => (way link).map (·.renumber 0)
  rw [← unnumbered ways, ← unnumbered otherWays] at permSome
  simpa using permSome.filterMap id

namespace LayoutInput

/-- Lanes for permuted routes leave the same room. -/
theorem sameRoom_of_perm
    {diagram : Diagram α}
    {first second : List Link}
    {routes others : List Route}
    {laneMin : Nat}
    {table otherTable : RoadTable}
    {labels : Array (Option (Size α))}
    (perm : (others.map (·.renumber 0)).Perm (routes.map (·.renumber 0)))
    (nodup : (routes.map (·.link)).Nodup)
    (otherNodup : (others.map (·.link)).Nodup)
    (allocated : RoadTable.allocate diagram.graph routes laneMin = .ok table)
    (otherAllocated : RoadTable.allocate diagram.graph others laneMin = .ok otherTable) :
    SameRoom { diagram := { diagram with links := first }, table, labels }
      { diagram := { diagram with links := second }, table := otherTable, labels } where
  graph_eq := rfl
  document_eq := rfl
  labels_eq := rfl
  count_eq road := by
    by_cases exists_road : diagram.graph.HasRoad road
    · rw [RoadTable.count_of_allocate nodup allocated exists_road,
        RoadTable.count_of_allocate otherNodup otherAllocated exists_road, perm.countP_eq]
    · rw [RoadTable.get?, RoadTable.get?,
        (RoadTable.of_allocate allocated).1.get?_eq_none exists_road,
        (RoadTable.of_allocate otherAllocated).1.get?_eq_none exists_road]

end LayoutInput

variable [Scalar α]

/-- Layouts of inputs that leave the same room, with as many links at each side, are alike. -/
theorem LayoutEngine.sameBoxes_of_nested
    {input other : LayoutInput α}
    {depthLimit : Nat}
    {layout otherLayout : Layout α}
    (tree : input.diagram.graph.IsTree)
    (inOrder : input.diagram.graph.IsInOrder)
    (routed : input.IsRouted)
    (otherRouted : other.IsRouted)
    (room : input.SameRoom other)
    (counts :
      ∀ side, Gate.endCount other.table.routes side = Gate.endCount input.table.routes side)
    (succeeded : nested depthLimit input = .ok layout)
    (otherSucceeded : nested depthLimit other = .ok otherLayout) :
    layout.SameBoxes otherLayout := by
  have otherTree : other.diagram.graph.IsTree := room.graph_eq ▸ tree
  have otherInOrder : other.diagram.graph.IsInOrder := room.graph_eq ▸ inOrder
  obtain ⟨root, placed, measured, isPlaced, size, nodes, roads, _⟩ :=
    of_nested tree inOrder routed.isOver succeeded
  obtain ⟨otherRoot, otherPlaced, otherMeasured, otherIsPlaced, otherSize, otherNodes, otherRoads,
    _⟩ := of_nested otherTree otherInOrder otherRouted.isOver otherSucceeded
  have sameRoot : otherRoot.vacant = root.vacant := by
    obtain ⟨found, isFound, same⟩ :=
      (room.measure_agree depthLimit (depthLimit + 1) NodeId.root).exists_ok measured
    cases isFound.symm.trans otherMeasured
    exact same
  have sameOuter : otherRoot.outer = root.outer := by
    rw [← otherRoot.outer_vacant, sameRoot, root.outer_vacant]
  have samePlaces : (place other otherRoot).vacant = (place input root).vacant := by
    rw [place, place, SizedBox.vacant_place, SizedBox.vacant_place, sameRoot, sameOuter,
      room.document_eq]
  have sameNodes : (place other otherRoot).nodes = (place input root).nodes :=
    congrArg (·.nodes) samePlaces
  refine ⟨?size, ?boxes, ?roads, ?gates⟩
  case size =>
    rw [size, otherSize, sameOuter]
  case boxes =>
    have isOn : placed.nodes.map _ = _ := Gate.isOn_of_place isPlaced
    have otherIsOn : otherPlaced.nodes.map _ = _ := Gate.isOn_of_place otherIsPlaced
    rw [nodes, otherNodes, isOn, otherIsOn, sameNodes]
  case roads =>
    rw [roads, otherRoads]
    exact congrArg (·.roads) samePlaces
  case gates =>
    intro id side
    cases isPlaced.symm.trans (place_gates tree inOrder routed measured)
    cases otherIsPlaced.symm.trans
      (place_gates otherTree otherInOrder otherRouted otherMeasured)
    rw [nodes, otherNodes, sameNodes, room.document_eq]
    cases isNode : (place input root).nodes[id]? with
    | none =>
        simp [Gate.Placed.record, isNode]
    | some node =>
        have noGates := SizedBox.gates_eq_nil_of_mem_place (List.mem_of_getElem? isNode)
        obtain ⟨shown, isShown, points⟩ :=
          Gate.Placed.pointsAt_record
            (Gate.recordsOfRoutes input.diagram.document.gateGap input.table.routes
              (place input root).nodes) isNode noGates
        obtain ⟨otherShown, otherIsShown, otherPoints⟩ :=
          Gate.Placed.pointsAt_record
            (Gate.recordsOfRoutes input.diagram.document.gateGap other.table.routes
              (place input root).nodes) isNode noGates
        rw [isShown, otherIsShown, Option.map_some, Option.map_some, points, otherPoints,
          Gate.points_of_side _ _ isNode, Gate.points_of_side _ _ isNode, counts]

/-- The sizes of boxes do not depend on the links of the diagram. -/
theorem LayoutInput.measure_links
    (input : LayoutInput α)
    (links : List Link)
    (limit levels : Nat)
    (id : NodeId) :
    ({ input with diagram := { input.diagram with links } } : LayoutInput α).measure limit levels
        id =
      input.measure limit levels id := by
  induction levels generalizing id with
  | zero =>
      rfl
  | succ levels inductionHypothesis =>
      rw [measure, measure, funext inductionHypothesis]
      rfl

/-- Without routes a layout does not depend on the links of the diagram. -/
theorem LayoutEngine.nested_links
    {input : LayoutInput α}
    (noRoutes : input.table.routes = [])
    (links : List Link)
    (depthLimit : Nat) :
    nested depthLimit { input with diagram := { input.diagram with links } } =
      nested depthLimit input := by
  rw [nested, nested, LayoutInput.measure_links]
  simp only [noRoutes]
  rfl

namespace Compiler

variable {diagram : Diagram α}

/-- The layout in which routes are searched does not depend on the links of the diagram. -/
theorem referenceLayout_links
    (config : Config)
    (measure : TextMeasure α)
    (diagram : Diagram α)
    (links : List Link)
    (labels : Array (Option (Size α))) :
    ({ config, measure } : Compiler α).referenceLayout { diagram with links } labels =
      ({ config, measure } : Compiler α).referenceLayout diagram labels := by
  rw [referenceLayout, referenceLayout]
  cases allocated :
      RoadTable.allocate diagram.graph []
        (max diagram.document.laneMin config.reference.laneMin) with
  | error _ =>
      rw [Attempt.error_bind, Attempt.error_bind]
  | ok table =>
      have noRoutes : table.routes = [] := by
        rw [(RoadTable.of_allocate allocated).2, List.map_nil]
      let input : LayoutInput α := { diagram, table, labels }
      rw [Attempt.ok_bind, Attempt.ok_bind]
      exact LayoutEngine.nested_links (show input.table.routes = [] from noRoutes) links _

/-- The way of a link depends on the boxes, the document and the configuration alone. -/
theorem exists_way
    (config : Config)
    (measure : TextMeasure α)
    (diagram : Diagram α)
    (labels : Array (Option (Size α))) :
    ∃ way : Link → Option Route, ∀ links routes,
      ({ config, measure } : Compiler α).plan { diagram with links } labels links = .ok routes ↔
        routes.map some =
          links.zipIdx.map fun (link, id) => (way link).map (·.renumber id) := by
  obtain ⟨way, ways⟩ :=
    RoutePlanner.exists_way config.route.planner diagram.graph config.route fun _ =>
      ({ config, measure } : Compiler α).referenceLayout diagram labels
  refine ⟨way, fun links routes => ?_⟩
  rw [← ways, plan]
  simp only [referenceLayout_links]
  rfl

/--
The way of each link depends on the boxes, the document, the labels, the configuration and the
link alone.  So a permutation of the links changes which link owns which lane and which gate,
and nothing else in the places of boxes and roads.
-/
theorem sameBoxes_of_perm
    {outline : Outline}
    (ofOutline : Diagram.ofOutline outline = .ok diagram)
    (config : Config)
    (measure : TextMeasure α) :
    (∃ way : Link → Option Route, ∀ links routes,
      ({ config, measure } : Compiler α).plan { diagram with links }
          (diagram.labelSizes measure) links = .ok routes ↔
        routes.map some =
          links.zipIdx.map fun (link, id) => (way link).map (·.renumber id)) ∧
    ∀ links permuted, links.Perm diagram.links → permuted.Perm diagram.links →
      ∀ layout, ({ config, measure } : Compiler α).layout { diagram with links } = .ok layout →
        ∃ other,
          ({ config, measure } : Compiler α).layout { diagram with links := permuted } =
              .ok other ∧
            layout.SameBoxes other := by
  refine ⟨exists_way config measure diagram _, ?_⟩
  intro links permuted perm otherPerm layout succeeded
  have isResolved := Diagram.isResolved_of_ofOutline ofOutline
  have inOrder := Diagram.isInOrder_of_ofOutline ofOutline
  have resolved {given : List Link} (isPerm : given.Perm diagram.links) :
      Diagram.IsResolved { diagram with links := given } :=
    ⟨isResolved.tree, fun link member => isResolved.joined link (isPerm.mem_iff.mp member)⟩
  obtain ⟨input, allocated, placed⟩ := Attempt.bind_eq_ok_iff.mp succeeded
  rw [place, StageHooks.tryRun_default] at placed
  obtain ⟨routes, planned, _⟩ := Attempt.bind_eq_ok_iff.mp allocated
  obtain ⟨way, ways⟩ :=
    exists_way config measure diagram (diagram.labelSizes measure)
  obtain ⟨others, otherWays, sameWays⟩ :=
    Route.exists_ways_of_perm (otherPerm.trans perm.symm) ((ways links routes).mp planned)
  have otherPlanned := (ways permuted others).mpr otherWays
  obtain ⟨table, hasTable, isInput⟩ := exists_table_of_plan (resolved perm) planned
  obtain ⟨otherTable, hasOtherTable, otherAllocated⟩ :=
    exists_table_of_plan (resolved otherPerm) otherPlanned
  cases allocated.symm.trans isInput
  obtain ⟨_, routed, _⟩ := isRouted_of_allocate (resolved perm) allocated
  obtain ⟨_, otherRouted, _⟩ := isRouted_of_allocate (resolved otherPerm) otherAllocated
  have nodup {given : List Link} {found : List Route}
      (isPlanned :
        ({ config, measure } : Compiler α).plan { diagram with links := given }
          (diagram.labelSizes measure) given = .ok found) :
      (found.map (·.link)).Nodup := by
    rw [(RoutePlanner.areFor_of_ofKind isResolved.tree isPlanned).links_eq]
    exact List.nodup_range
  obtain ⟨other, otherPlaced⟩ :=
    LayoutEngine.exists_nested isResolved.tree inOrder otherRouted
      (show maxNesting ≤ LayoutEngine.defaultDepthLimit from Nat.le_refl _)
  refine ⟨other, ?_, ?_⟩
  · rw [Compiler.layout, otherAllocated, Attempt.ok_bind, place, StageHooks.tryRun_default]
    exact otherPlaced
  · refine LayoutEngine.sameBoxes_of_nested isResolved.tree inOrder routed otherRouted
      (LayoutInput.sameRoom_of_perm sameWays (nodup planned) (nodup otherPlanned) hasTable
        hasOtherTable) ?_
      placed otherPlaced
    intro side
    rw [RoadTable.endCount_of_allocate hasTable, RoadTable.endCount_of_allocate hasOtherTable]
    exact Gate.endCount_of_perm sameWays side

/-- Two links from one box, which take each other's lanes and gates in the other order. -/
theorem exists_sameBoxes_of_perm :
    ∃ (diagram : Diagram Float32) (layout other : Layout Float32),
      ({} : Compiler Float32).parse "(a) -> (b)\n(a) -> (c)" = .ok diagram ∧
        diagram.links.reverse.map (·.target.node) = [3, 2] ∧
          ({} : Compiler Float32).layout diagram = .ok layout ∧
            ({} : Compiler Float32).layout { diagram with links := diagram.links.reverse } =
                .ok other ∧
              layout.SameBoxes other := by
  have parses :
      (({} : Compiler Float32).parse "(a) -> (b)\n(a) -> (c)").toOption.map
          (fun diagram => diagram.links.reverse.map (·.target.node)) =
        some [3, 2] := by
    decide +kernel
  obtain ⟨diagram, parsed, targets⟩ := Option.map_eq_some_iff.mp parses
  have parsed := Attempt.toOption_eq_some_iff.mp parsed
  obtain ⟨outline, ofOutline⟩ := exists_outline_of_parse parsed
  have resolved := Diagram.isResolved_of_ofOutline ofOutline
  have inOrder := Diagram.isInOrder_of_ofOutline ofOutline
  have enough : maxNesting ≤ ({} : Config).route.depthLimit := by decide
  obtain ⟨input, allocated⟩ := exists_allocate resolved inOrder enough
  obtain ⟨rfl, routed, _⟩ := isRouted_of_allocate resolved allocated
  obtain ⟨layout, placed⟩ :=
    LayoutEngine.exists_nested resolved.tree inOrder routed
      (show maxNesting ≤ LayoutEngine.defaultDepthLimit from Nat.le_refl _)
  have succeeded : ({} : Compiler Float32).layout input.diagram = .ok layout := by
    rw [Compiler.layout, allocated, Attempt.ok_bind, place, StageHooks.tryRun_default]
    exact placed
  obtain ⟨other, otherSucceeded, same⟩ :=
    (sameBoxes_of_perm ofOutline {} TextMeasure.byCount).2 input.diagram.links
      input.diagram.links.reverse (.refl _) (List.reverse_perm _) layout succeeded
  exact ⟨input.diagram, layout, other, parsed, targets, succeeded, otherSucceeded, same⟩

end Compiler

end BoxDiagram
