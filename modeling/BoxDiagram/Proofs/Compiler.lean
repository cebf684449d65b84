import BoxDiagram.Compiler.Basic
import BoxDiagram.Number.Single
import BoxDiagram.Proofs.Layout.Nesting
import BoxDiagram.Proofs.Route.Total

namespace BoxDiagram

/-!
# Diagrams are laid out

A diagram that was resolved meets all that the later stages ask for: the layout
without links is complete, every link gets a route in it, and every route can be
drawn.  Nothing but the text of a diagram can therefore be rejected.
-/

variable {α : Type}

/-- No link of a resolved diagram leads from a box to itself. -/
theorem Diagram.IsResolved.source_ne_target
    {diagram : Diagram α}
    {link : Link}
    (resolved : diagram.IsResolved)
    (member : link ∈ diagram.links) :
    link.source.node ≠ link.target.node := by
  obtain ⟨source, target, sourceFound, targetFound, apart⟩ := resolved.joined link member
  intro same
  rw [same, targetFound] at sourceFound
  cases sourceFound
  simp [Node.isRelatedTo] at apart

/-- Routes for the links of a resolved diagram can be drawn once they have lanes. -/
theorem LayoutInput.isRouted_of_allocate
    {diagram : Diagram α}
    {routes : List Route}
    {laneMin : Nat}
    {table : RoadTable}
    (resolved : diagram.IsResolved)
    (areFor : Route.AreFor diagram.graph diagram.links routes)
    (allocated : RoadTable.allocate diagram.graph routes laneMin = .ok table)
    (labels : Array (Option (Size α))) :
    ({ diagram, table, labels } : LayoutInput α).IsRouted ∧
      table.routes.map (·.link) = List.range diagram.links.length := by
  obtain ⟨isOver, _⟩ := RoadTable.of_allocate allocated
  have areFor := areFor.of_allocate allocated
  have numbered : table.routes.map (·.link) = List.range diagram.links.length := areFor.links_eq
  have known :
      ∀ {link : Link}, link ∈ diagram.links →
        link.source.node < diagram.graph.size ∧ link.target.node < diagram.graph.size := by
    intro link member
    obtain ⟨source, target, sourceFound, targetFound, _⟩ := resolved.joined link member
    exact ⟨Graph.exists_get?_iff.mp ⟨source, sourceFound⟩,
      Graph.exists_get?_iff.mp ⟨target, targetFound⟩⟩
  have joined : Gate.AreJoined diagram.graph.size table.routes := by
    refine ⟨?_, ?_, numbered ▸ List.nodup_range⟩
    · intro route member linkEnd
      obtain ⟨_, link, _, isLink, isFor⟩ := areFor.exists_link member
      cases linkEnd with
      | source =>
          exact isFor.source_eq.trans_lt (known isLink).1
      | target =>
          exact isFor.target_eq.trans_lt (known isLink).2
    · intro route member
      obtain ⟨_, link, _, isLink, isFor⟩ := areFor.exists_link member
      rw [isFor.source_eq, isFor.target_eq]
      exact resolved.source_ne_target isLink
  refine ⟨⟨isOver, joined, ?_, ?_, ?_⟩, numbered⟩
  case refine_1 =>
    intro route member
    obtain ⟨_, _, inside, _, isFor⟩ := areFor.exists_link member
    exact isFor.link_eq.trans_lt inside
  case refine_2 =>
    intro route member
    obtain ⟨_, _, _, _, isFor⟩ := areFor.exists_link member
    exact isFor.passages_ne_nil
  case refine_3 =>
    intro route member road isRoad
    obtain ⟨_, _, _, _, isFor⟩ := areFor.exists_link member
    exact isFor.hasRoad isRoad

variable [Scalar α]

/-- A layout of a tree shows all its boxes and roads. -/
theorem Layout.IsComplete.of_nested
    {input : LayoutInput α}
    {depthLimit : Nat}
    {layout : Layout α}
    (tree : input.diagram.graph.IsTree)
    (inOrder : input.diagram.graph.IsInOrder)
    (isOver : input.table.lanes.IsOver input.diagram.graph)
    (succeeded : LayoutEngine.nested depthLimit input = .ok layout) :
    layout.IsComplete input.diagram.graph := by
  obtain ⟨ids, _, roads⟩ := LayoutEngine.inOrder_of_nested tree inOrder isOver succeeded
  exact ⟨ids, roads.trans (RoadMap.keys_congr isOver)⟩

namespace Compiler

variable {source : String} {diagram : Diagram α}

/-- A parsed diagram was resolved from an outline. -/
theorem exists_outline_of_parse
    {config : Config}
    (parsed : ({ config } : Compiler α).parse source = .ok diagram) :
    ∃ outline, Diagram.ofOutline outline = .ok diagram := by
  obtain ⟨outline, _, resolved⟩ := Attempt.bind_eq_ok_iff.mp parsed
  rw [Attempt.mapError_eq_ok_iff, StageHooks.tryRun_default] at resolved
  exact ⟨outline, resolved⟩

/-- The reference layout always succeeds, and shows all boxes and roads. -/
theorem exists_referenceLayout
    (tree : diagram.graph.IsTree)
    (inOrder : diagram.graph.IsInOrder)
    (config : Config)
    (labels : Array (Option (Size α))) :
    ∃ layout, ({ config } : Compiler α).referenceLayout diagram labels = .ok layout ∧
      layout.IsComplete diagram.graph := by
  have noRoutes : ∀ route ∈ ([] : List Route), ∀ road ∈ route.roads, diagram.graph.HasRoad road :=
    fun _ member => by cases member
  obtain ⟨table, allocated⟩ :=
    RoadTable.exists_allocate noRoutes (max diagram.document.laneMin config.reference.laneMin)
  obtain ⟨isOver, routesEq⟩ := RoadTable.of_allocate allocated
  have routed : ({ diagram, table, labels } : LayoutInput α).IsRouted := by
    rw [List.map_nil] at routesEq
    constructor <;> simp [routesEq, isOver]
    exact ⟨by simp, by simp, by simp⟩
  obtain ⟨layout, succeeded⟩ :=
    LayoutEngine.exists_nested tree inOrder routed (Nat.le_refl maxNesting)
  refine ⟨layout, ?_, .of_nested tree inOrder isOver succeeded⟩
  rw [referenceLayout, allocated, Attempt.ok_bind]
  exact succeeded

/-- Giving out lanes keeps the diagram and gives each link a route that can be drawn. -/
theorem isRouted_of_allocate
    {config : Config}
    {measure : TextMeasure α}
    {input : LayoutInput α}
    (resolved : diagram.IsResolved)
    (succeeded : ({ config, measure } : Compiler α).allocate diagram = .ok input) :
    input.diagram = diagram ∧ input.IsRouted ∧
      input.table.routes.map (·.link) = List.range diagram.links.length := by
  obtain ⟨routes, planned, succeeded⟩ := Attempt.bind_eq_ok_iff.mp succeeded
  obtain ⟨table, allocated, same⟩ := Attempt.bind_eq_ok_iff.mp succeeded
  cases same
  have areFor := RoutePlanner.areFor_of_ofKind resolved.tree planned
  obtain ⟨routed, numbered⟩ :=
    LayoutInput.isRouted_of_allocate resolved areFor allocated (diagram.labelSizes measure)
  exact ⟨rfl, routed, numbered⟩

/-- Once the links of a diagram are planned, they get lanes. -/
theorem exists_table_of_plan
    {config : Config}
    {measure : TextMeasure α}
    {routes : List Route}
    (resolved : diagram.IsResolved)
    (planned :
      ({ config, measure } : Compiler α).plan diagram (diagram.labelSizes measure) diagram.links =
        .ok routes) :
    ∃ table, RoadTable.allocate diagram.graph routes diagram.document.laneMin = .ok table ∧
      ({ config, measure } : Compiler α).allocate diagram =
        .ok { diagram, table, labels := diagram.labelSizes measure } := by
  have areFor := RoutePlanner.areFor_of_ofKind resolved.tree planned
  have known : ∀ route ∈ routes, ∀ road ∈ route.roads, diagram.graph.HasRoad road := by
    intro route member road isRoad
    obtain ⟨_, _, _, _, isFor⟩ := areFor.exists_link member
    exact isFor.hasRoad isRoad
  obtain ⟨table, allocated⟩ := RoadTable.exists_allocate known diagram.document.laneMin
  refine ⟨table, allocated, ?_⟩
  rw [allocate]
  change (do
    let routes ← ({ config, measure } : Compiler α).plan diagram (diagram.labelSizes measure)
      diagram.links
    let table ← RoadTable.allocate diagram.graph routes diagram.document.laneMin
    return ({ diagram, table, labels := diagram.labelSizes measure } : LayoutInput α)) = _
  rw [planned, Attempt.ok_bind, allocated]
  rfl

/-- Routes and lanes are found for each resolved diagram, if climbs may be as deep as it is. -/
theorem exists_allocate
    {config : Config}
    (resolved : diagram.IsResolved)
    (inOrder : diagram.graph.IsInOrder)
    (enough : maxNesting ≤ config.route.depthLimit) :
    ∃ input, ({ config } : Compiler α).allocate diagram = .ok input := by
  let labels := diagram.labelSizes (TextMeasure.byCount : TextMeasure α)
  obtain ⟨reference, hasReference, complete⟩ :=
    exists_referenceLayout resolved.tree inOrder config labels
  let plannerInput : PlannerInput α :=
    { graph := diagram.graph
      links := diagram.links
      config := config.route
      reference := fun _ => ({ config } : Compiler α).referenceLayout diagram labels }
  obtain ⟨routes, planned⟩ :=
    RoutePlanner.exists_ofKind resolved (show plannerInput.graph = diagram.graph from rfl) rfl
      enough hasReference complete config.route.planner
  obtain ⟨table, _, allocated⟩ := exists_table_of_plan resolved planned
  exact ⟨_, allocated⟩

/-- A layout of a parsed diagram is made of an input in which all routes can be drawn. -/
theorem exists_input_of_compile
    {config : Config}
    {layout : Layout α}
    (compiled : ({ config } : Compiler α).compile source = .ok layout) :
    ∃ input : LayoutInput α, input.diagram.graph.IsTree ∧ input.diagram.graph.IsInOrder ∧
      input.IsRouted ∧
        LayoutEngine.nested LayoutEngine.defaultDepthLimit input = .ok layout := by
  obtain ⟨diagram, parsed, laidOut⟩ := Attempt.bind_eq_ok_iff.mp compiled
  obtain ⟨input, allocated, placed⟩ := Attempt.bind_eq_ok_iff.mp laidOut
  rw [place, StageHooks.tryRun_default] at placed
  obtain ⟨outline, ofOutline⟩ := exists_outline_of_parse parsed
  have resolved := Diagram.isResolved_of_ofOutline ofOutline
  obtain ⟨rfl, routed, _⟩ := isRouted_of_allocate resolved allocated
  exact ⟨input, resolved.tree, Diagram.isInOrder_of_ofOutline ofOutline, routed, placed⟩

/--
Every diagram that parses is laid out, by either planner: each box has one place,
in the order of the numbers, each link one line and each road of the lane table
one place.
-/
theorem exists_layout
    {config : Config}
    (enough : maxNesting ≤ config.route.depthLimit)
    (parsed : ({ config } : Compiler α).parse source = .ok diagram) :
    ∃ input layout, ({ config } : Compiler α).allocate diagram = .ok input ∧
      ({ config } : Compiler α).layout diagram = .ok layout ∧
        layout.nodes.map (·.id) = List.range diagram.graph.size ∧
          layout.links.map (·.link) = List.range diagram.links.length ∧
            layout.roads.map (·.road) = input.table.toList.map (·.1) := by
  obtain ⟨outline, ofOutline⟩ := exists_outline_of_parse parsed
  have resolved := Diagram.isResolved_of_ofOutline ofOutline
  have inOrder := Diagram.isInOrder_of_ofOutline ofOutline
  obtain ⟨input, allocated⟩ := exists_allocate resolved inOrder enough
  obtain ⟨rfl, routed, numbered⟩ := isRouted_of_allocate resolved allocated
  obtain ⟨layout, succeeded⟩ :=
    LayoutEngine.exists_nested resolved.tree inOrder routed
      (show maxNesting ≤ LayoutEngine.defaultDepthLimit from Nat.le_refl _)
  obtain ⟨ids, links, roads⟩ :=
    LayoutEngine.inOrder_of_nested resolved.tree inOrder routed.isOver succeeded
  refine ⟨input, layout, allocated, ?_, ids, links.trans numbered, roads⟩
  rw [Compiler.layout, allocated, Attempt.ok_bind, place, StageHooks.tryRun_default]
  exact succeeded

/-- Two boxes and a link between them are laid out by a search. -/
theorem exists_layout_of_link :
    ∃ (diagram : Diagram Float32) (input : LayoutInput Float32) (layout : Layout Float32),
      ({} : Compiler Float32).parse "(a) -> (b)" = .ok diagram ∧
        ({} : Compiler Float32).allocate diagram = .ok input ∧
          ({} : Compiler Float32).layout diagram = .ok layout ∧
            layout.nodes.map (·.id) = List.range 3 ∧ layout.links.map (·.link) = List.range 1 ∧
              layout.roads.map (·.road) = input.table.toList.map (·.1) := by
  have parses :
      (({} : Compiler Float32).parse "(a) -> (b)").toOption.map
          (fun diagram => (diagram.graph.size, diagram.links.length)) =
        some (3, 1) := by
    decide +kernel
  obtain ⟨diagram, parsed, counted⟩ := Option.map_eq_some_iff.mp parses
  have parsed := Attempt.toOption_eq_some_iff.mp parsed
  obtain ⟨input, layout, allocated, succeeded, ids, links, roads⟩ :=
    exists_layout (by decide) parsed
  rw [Prod.mk.injEq] at counted
  rw [counted.1] at ids
  rw [counted.2] at links
  exact ⟨diagram, input, layout, parsed, allocated, succeeded, ids, links, roads⟩

/--
The line of each link is drawn along a walk over lanes that goes exactly along the axes
from its one gate at the source to its one gate at the target.  The line starts at the
first gate and stays close to the walk.  It leads along the axes up to the last gate
exactly if the walk keeps it attached, as it does where coordinates of the walk that
count as one are the same.
-/
theorem line_of_compiled_link
    {config : Config}
    {layout : Layout α}
    (compiled : ({ config } : Compiler α).compile source = .ok layout)
    {link : LinkLayout α}
    (member : link ∈ layout.links) :
    ∃ start finish lanes rest,
      layout.HasOneGate link.source link.link start ∧
        layout.HasOneGate link.target link.link finish ∧
          (∀ line ∈ lanes, ∃ road ∈ layout.roads, ∃ lane,
            line = (road.fixedAxis, road.laneLine lane)) ∧
            Polyline.corners start finish lanes = start :: rest ∧
              Polyline.IsOrthogonal start finish (start :: rest) ∧
                Polyline.IsDrawn start finish (start :: rest) link.points ∧
                  (Polyline.IsAttached start finish link.points ↔
                    Polyline.StaysAttached finish none start rest) ∧
                    (Polyline.IsSettled (start :: rest) →
                      ¬ Polyline.samePoint start finish = true →
                        Polyline.IsAttached start finish link.points) := by
  obtain ⟨input, tree, inOrder, routed, succeeded⟩ := exists_input_of_compile compiled
  obtain ⟨start, finish, lanes, atSource, atTarget, travelled, ofRoads, isLine⟩ :=
    LayoutEngine.exists_corners_of_mem_links tree inOrder routed succeeded member
  have orthogonal := Polyline.isOrthogonal_corners start finish travelled
  obtain ⟨next, rest, isWalk⟩ := orthogonal.exists_rest
  rw [isWalk] at orthogonal isLine
  refine ⟨start, finish, lanes, next :: rest, atSource, atTarget, ofRoads, isWalk, orthogonal,
    ?_, ?_, ?_⟩
  · rw [isLine]
    exact orthogonal.isDrawn_simplify
  · rw [isLine]
    exact Polyline.isAttached_simplify_iff
  · intro settled apart
    rw [isLine]
    exact orthogonal.isAttached_simplify settled apart

/-- The line of a link over a road that is narrower than the tolerance is a single point. -/
theorem exists_line_of_compiled_link :
    ∃ (layout : Layout Float32) (link : LinkLayout Float32) (start finish : Point Float32),
      ({} : Compiler Float32).compile "lane_width=0.0005\ncell_margin=0\n(a) -> (b)" =
          .ok layout ∧
        link ∈ layout.links ∧ layout.HasOneGate link.source link.link start ∧
          layout.HasOneGate link.target link.link finish ∧ link.points = [start] ∧
            ¬ Polyline.IsAttached start finish link.points := by
  have compiles :
      (({} : Compiler Float32).compile
          "lane_width=0.0005\ncell_margin=0\n(a) -> (b)").toOption.map
          (fun layout => layout.links.map (·.points.length)) =
        some [1] := by
    decide +kernel
  obtain ⟨layout, compiled, counted⟩ := Option.map_eq_some_iff.mp compiles
  have compiled := Attempt.toOption_eq_some_iff.mp compiled
  obtain ⟨link, linksEq, onePoint⟩ := List.map_eq_singleton_iff.mp counted
  have member : link ∈ layout.links := linksEq ▸ List.mem_singleton_self link
  obtain ⟨start, finish, lanes, rest, atSource, atTarget, _, _, _, drawn, _⟩ :=
    line_of_compiled_link compiled member
  obtain ⟨point, isPoint⟩ := List.length_eq_one_iff.mp onePoint
  have isFirst := drawn.first
  rw [isPoint] at isFirst
  obtain rfl : point = start := Option.some.inj isFirst
  refine ⟨layout, link, point, finish, compiled, member, atSource, atTarget, isPoint, ?_⟩
  intro attached
  have twoPoints := attached.twoPoints
  omega

/--
In exact arithmetic a layout of a parsed diagram is a nesting of boxes and roads, whatever
routes there are and however large the labels: each box leaves its strips free, its roads
and children lie in its content below its label, and children overlap nothing.
-/
theorem nests_of_parse
    {config : Config}
    {diagram : Diagram Rat}
    {routes : List Route}
    {laneMin depthLimit : Nat}
    {table : RoadTable}
    {labels : Array (Option (Size Rat))}
    {layout : Layout Rat}
    (parsed : ({ config } : Compiler Rat).parse source = .ok diagram)
    (allocated : RoadTable.allocate diagram.graph routes laneMin = .ok table)
    (labelsMeasured : ∀ size : Size Rat, some size ∈ labels → size.IsMeasured)
    (succeeded : LayoutEngine.nested depthLimit { diagram, table, labels } = .ok layout) :
    ∀ id < diagram.graph.size, ∃ node shown, diagram.graph.get? id = some node ∧
      layout.node? id = some shown ∧ layout.Nests node labels[id]?.join shown := by
  obtain ⟨outline, ofOutline⟩ := exists_outline_of_parse parsed
  have resolved := Diagram.isResolved_of_ofOutline ofOutline
  have measured : ({ diagram, table, labels } : LayoutInput Rat).IsMeasured := by
    refine ⟨Diagram.isMeasured_of_ofOutline ofOutline, fun {id size} isLabel => ?_⟩
    exact labelsMeasured size (Array.mem_of_getElem? (Option.join_eq_some_iff.mp isLabel))
  intro id inside
  obtain ⟨node, found⟩ := Graph.exists_get?_iff.mpr inside
  obtain ⟨shown, isShown, nested⟩ :=
    LayoutEngine.nests_of_nested resolved.tree (Diagram.isInOrder_of_ofOutline ofOutline)
      (RoadTable.of_allocate allocated).1 measured succeeded found
  exact ⟨node, shown, found, isShown, nested⟩

/-- A container with a label nests two cells. -/
theorem exists_nests_of_parse :
    ∃ (diagram : Diagram Rat) (table : RoadTable) (layout : Layout Rat) (node : Node Rat)
      (shown : NodeLayout Rat),
      ({} : Compiler Rat).parse "[a label=b]\n(.c)\n(.d)" = .ok diagram ∧
        RoadTable.allocate diagram.graph [] 2 = .ok table ∧
          LayoutEngine.nested 3 { diagram, table, labels := #[none, some ⟨8, 16⟩] } =
              .ok layout ∧
            node.children = [2, 3] ∧ layout.node? 1 = some shown ∧
              layout.Nests node (some ⟨8, 16⟩) shown := by
  have compiles :
      ((({} : Compiler Rat).parse "[a label=b]\n(.c)\n(.d)").toOption.bind fun diagram =>
          (RoadTable.allocate diagram.graph [] 2).toOption.bind fun table =>
            (LayoutEngine.nested 3
                { diagram, table, labels := #[none, some ⟨8, 16⟩] }).toOption.map fun _ =>
              (diagram.graph.size, (diagram.graph.get? 1).map (·.children))) =
        some (4, some [2, 3]) := by
    decide +kernel
  obtain ⟨diagram, parsed, compiles⟩ := Option.bind_eq_some_iff.mp compiles
  obtain ⟨table, allocated, compiles⟩ := Option.bind_eq_some_iff.mp compiles
  obtain ⟨layout, succeeded, counted⟩ := Option.map_eq_some_iff.mp compiles
  have parsed := Attempt.toOption_eq_some_iff.mp parsed
  have allocated := Attempt.toOption_eq_some_iff.mp allocated
  have succeeded := Attempt.toOption_eq_some_iff.mp succeeded
  rw [Prod.mk.injEq] at counted
  have labelsMeasured :
      ∀ size : Size Rat, some size ∈ #[none, some (⟨8, 16⟩ : Size Rat)] → size.IsMeasured := by
    intro size member
    obtain rfl : size = ⟨8, 16⟩ := by simpa using member
    intro axis
    cases axis <;> decide +kernel
  obtain ⟨node, shown, found, isShown, nested⟩ :=
    nests_of_parse parsed allocated labelsMeasured succeeded 1 (by rw [counted.1]; decide)
  have children := counted.2
  rw [found] at children
  exact ⟨diagram, table, layout, node, shown, parsed, allocated, succeeded,
    Option.some.inj children, isShown, nested⟩

end Compiler

end BoxDiagram
