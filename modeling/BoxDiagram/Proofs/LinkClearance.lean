import BoxDiagram.Proofs.Compiler
import BoxDiagram.Proofs.Layout.Clearance

namespace BoxDiagram

/-!
# Links do not run over boxes

Room for links is kept in roads, and a link leaves a container only where no sibling lies
ahead.  In exact arithmetic this keeps the line of each link out of every box that does not
lie around one of its ends.
-/

namespace LayoutEngine

variable {input : LayoutInput Rat} {depthLimit : Nat} {layout : Layout Rat}

/-- The boxes and roads of a layout lie as they are nested in the graph. -/
theorem isNestingOf_of_nested
    (tree : input.diagram.graph.IsTree)
    (inOrder : input.diagram.graph.IsInOrder)
    (isOver : input.table.lanes.IsOver input.diagram.graph)
    (measured : input.IsMeasured)
    (succeeded : nested depthLimit input = .ok layout) :
    layout.IsNestingOf input.diagram.graph := by
  constructor
  case tree =>
    exact tree
  case nests =>
    intro id node found
    obtain ⟨shown, isShown, nested⟩ :=
      nests_of_nested tree inOrder isOver measured succeeded found
    exact ⟨shown, _, isShown, nested⟩
  case flows =>
    intro id node found
    exact flows_of_nested tree inOrder isOver measured succeeded found

/-- A box that is shown is a box of the graph. -/
theorem exists_of_node?
    (tree : input.diagram.graph.IsTree)
    (inOrder : input.diagram.graph.IsInOrder)
    (isOver : input.table.lanes.IsOver input.diagram.graph)
    (succeeded : nested depthLimit input = .ok layout)
    {id : NodeId}
    {shown : NodeLayout Rat}
    (isShown : layout.node? id = some shown) :
    ∃ node, input.diagram.graph.get? id = some node := by
  obtain ⟨ids, _, _⟩ := inOrder_of_nested tree inOrder isOver succeeded
  have counted := congrArg List.length ids
  rw [List.length_map, List.length_range] at counted
  rw [Layout.node?, Option.filter_eq_some_iff] at isShown
  have inside := (List.getElem?_eq_some_iff.mp isShown.1).1
  exact Graph.exists_get?_iff.mpr (counted ▸ inside)

/-- The line of a link stays out of every box that lies around neither of its ends. -/
theorem passesBy_of_draws
    (tree : input.diagram.graph.IsTree)
    (inOrder : input.diagram.graph.IsInOrder)
    (routed : input.IsRouted)
    (measured : input.IsMeasured)
    (succeeded : nested depthLimit input = .ok layout)
    {id : LinkId}
    {link : Link}
    {route : Route}
    {line : LinkLayout Rat}
    {start finish : Point Rat}
    {lanes : List (Axis × Rat)}
    (isFor : route.IsFor input.diagram.graph id link)
    (sourceKnown : ∃ node, input.diagram.graph.get? link.source.node = some node)
    (targetKnown : ∃ node, input.diagram.graph.get? link.target.node = some node)
    (drawn : layout.Draws route line start finish lanes)
    {box : NodeId}
    {shown : NodeLayout Rat}
    (isShown : layout.node? box = some shown)
    (notSource : ¬ input.diagram.graph.Above box link.source.node)
    (notTarget : ¬ input.diagram.graph.Above box link.target.node) :
    Polyline.PassesBy shown.visible (Polyline.corners start finish lanes) := by
  have nesting := isNestingOf_of_nested tree inOrder routed.isOver measured succeeded
  obtain ⟨source, sourceFound⟩ := sourceKnown
  obtain ⟨target, targetFound⟩ := targetKnown
  obtain ⟨sourceShown, _, sourceIs, _⟩ := nesting.nests sourceFound
  obtain ⟨targetShown, _, targetIs, _⟩ := nesting.nests targetFound
  obtain ⟨node, found⟩ := exists_of_node? tree inOrder routed.isOver succeeded isShown
  obtain ⟨common, _, walk⟩ := isFor.isWalk
  have sourceSide := drawn.sourceSide
  have targetSide := drawn.targetSide
  rw [isFor.source_eq] at sourceSide
  rw [isFor.target_eq] at targetSide
  exact nesting.passesBy_corners walk drawn.ride sourceFound targetFound sourceIs targetIs
    (hasOnSide_of_hasGateAt tree inOrder routed measured succeeded sourceSide sourceFound sourceIs)
    (hasOnSide_of_hasGateAt tree inOrder routed measured succeeded targetSide targetFound targetIs)
    found isShown notSource notTarget

end LayoutEngine

namespace Compiler

variable {source : String} {diagram : Diagram Rat} {config : Config}

/-- Giving out lanes keeps the ways of links and measures their labels. -/
theorem areFor_of_allocate
    {input : LayoutInput Rat}
    (tree : diagram.graph.IsTree)
    (succeeded : ({ config } : Compiler Rat).allocate diagram = .ok input) :
    Route.AreFor diagram.graph diagram.links input.table.routes ∧
      input.labels = diagram.labelSizes TextMeasure.byCount := by
  obtain ⟨routes, planned, succeeded⟩ := Attempt.bind_eq_ok_iff.mp succeeded
  obtain ⟨table, allocated, same⟩ := Attempt.bind_eq_ok_iff.mp succeeded
  cases same
  exact ⟨(RoutePlanner.areFor_of_ofKind tree planned).of_allocate allocated, rfl⟩

/--
In exact arithmetic no link of a parsed diagram, planned in either way, runs over a box that
is not around one of its ends.  The points from its one gate to the other one, one turn on
the lane of each road of its route and the projection of the last gate, are joined by
segments that stay out of the interior of all other visible boxes.
-/
theorem passesBy_of_layout
    {layout : Layout Rat}
    (parsed : ({ config } : Compiler Rat).parse source = .ok diagram)
    (laidOut : ({ config } : Compiler Rat).layout diagram = .ok layout)
    {id : LinkId}
    {link : Link}
    (isLink : diagram.links[id]? = some link) :
    ∃ input route line start finish lanes,
      ({ config } : Compiler Rat).allocate diagram = .ok input ∧
        input.table.routes[id]? = some route ∧ route.IsFor diagram.graph id link ∧
          layout.links[id]? = some line ∧ layout.Draws route line start finish lanes ∧
            ∀ box shown, layout.node? box = some shown →
              ¬ diagram.graph.Above box link.source.node →
                ¬ diagram.graph.Above box link.target.node →
                  Polyline.PassesBy shown.visible (Polyline.corners start finish lanes) := by
  obtain ⟨input, allocated, placed⟩ := Attempt.bind_eq_ok_iff.mp laidOut
  rw [place, StageHooks.tryRun_default] at placed
  obtain ⟨outline, ofOutline⟩ := exists_outline_of_parse parsed
  have resolved := Diagram.isResolved_of_ofOutline ofOutline
  have inOrder := Diagram.isInOrder_of_ofOutline ofOutline
  have diagramMeasured := Diagram.isMeasured_of_ofOutline ofOutline
  obtain ⟨areFor, labelsEq⟩ := areFor_of_allocate resolved.tree allocated
  obtain ⟨rfl, routed, _⟩ := isRouted_of_allocate resolved allocated
  have measured : input.IsMeasured := by
    refine ⟨diagramMeasured, fun {id size} isLabel => ?_⟩
    rw [LayoutInput.label?, labelsEq, Option.join_eq_some_iff] at isLabel
    exact diagramMeasured.labelSizes (Array.mem_of_getElem? isLabel)
  have inside := (List.getElem?_eq_some_iff.mp isLink).1
  have counted :=
    LayoutEngine.length_links_of_nested resolved.tree inOrder routed.isOver placed
  obtain ⟨route, isRoute⟩ : ∃ route, input.table.routes[id]? = some route :=
    ⟨_, List.getElem?_eq_getElem (areFor.counted ▸ inside)⟩
  obtain ⟨line, isLine⟩ : ∃ line, layout.links[id]? = some line :=
    ⟨_, List.getElem?_eq_getElem (counted ▸ areFor.counted ▸ inside)⟩
  obtain ⟨start, finish, lanes, drawn⟩ :=
    LayoutEngine.exists_draws resolved.tree inOrder routed placed isRoute isLine
  have isFor := areFor.isFor isLink isRoute
  obtain ⟨_, _, sourceFound, targetFound, _⟩ :=
    resolved.joined link (List.mem_of_getElem? isLink)
  refine ⟨input, route, line, start, finish, lanes, allocated, isRoute, isFor, isLine, drawn, ?_⟩
  intro box shown isShown notSource notTarget
  exact LayoutEngine.passesBy_of_draws resolved.tree inOrder routed measured placed isFor
    ⟨_, sourceFound⟩ ⟨_, targetFound⟩ drawn isShown notSource notTarget

/-- A link out of a group goes around the box between its ends. -/
theorem exists_passesBy_of_layout :
    ∃ (diagram : Diagram Rat) (layout : Layout Rat) (line : LinkLayout Rat)
      (route : Route) (start finish : Point Rat) (lanes : List (Axis × Rat))
      (shown : NodeLayout Rat),
      ({} : Compiler Rat).parse "[g]\n(.a)\n(b)\n(c)\n(g.a) -> (c)" = .ok diagram ∧
        ({} : Compiler Rat).layout diagram = .ok layout ∧
          diagram.links.map (fun link => (link.source.node, link.target.node)) = [(2, 4)] ∧
            layout.links[0]? = some line ∧ layout.Draws route line start finish lanes ∧
              layout.node? 3 = some shown ∧
                Polyline.PassesBy shown.visible (Polyline.corners start finish lanes) := by
  have parses :
      (({} : Compiler Rat).parse "[g]\n(.a)\n(b)\n(c)\n(g.a) -> (c)").toOption.map
          (fun diagram =>
            (diagram.links.map fun link => (link.source.node, link.target.node),
              diagram.graph.nodes.toList.map (·.ancestors))) =
        some ([(2, 4)], [[], [0], [0, 1], [0], [0]]) := by
    decide +kernel
  obtain ⟨diagram, parsed, counted⟩ := Option.map_eq_some_iff.mp parses
  have parsed := Attempt.toOption_eq_some_iff.mp parsed
  rw [Prod.mk.injEq] at counted
  obtain ⟨joined, ancestors⟩ := counted
  obtain ⟨outline, ofOutline⟩ := exists_outline_of_parse parsed
  have tree := (Diagram.isResolved_of_ofOutline ofOutline).tree
  have enough : maxNesting ≤ ({} : Config).route.depthLimit := by decide
  obtain ⟨_, layout, _, laidOut, ids, _⟩ := exists_layout enough parsed
  obtain ⟨link, linksEq, sameEnds⟩ := List.map_eq_singleton_iff.mp joined
  have isLink : diagram.links[0]? = some link := by
    rw [linksEq]
    rfl
  obtain ⟨_, route, line, start, finish, lanes, _, _, _, isLine, drawn, passes⟩ :=
    passesBy_of_layout parsed laidOut isLink
  have not_above :
      ∀ {id : NodeId} {around : List NodeId},
        [[], [0], [0, 1], [0], [0]][id]? = some around → 3 ∉ around →
          ¬ diagram.graph.Above 3 id := by
    intro id around isAround notAround above
    rw [← ancestors, List.getElem?_map, Option.map_eq_some_iff] at isAround
    obtain ⟨node, isNode, rfl⟩ := isAround
    rw [Array.getElem?_toList] at isNode
    exact notAround ((tree.above_iff isNode).mp above)
  have size : diagram.graph.size = 5 := by
    simpa [Graph.size] using congrArg List.length ancestors
  have third := congrArg (·[3]?) ids
  simp only [List.getElem?_map, size] at third
  obtain ⟨shown, isThird, sameId⟩ := Option.map_eq_some_iff.mp third
  have isShown : layout.node? 3 = some shown := by
    simp [Layout.node?, isThird, sameId]
  rw [Prod.mk.injEq] at sameEnds
  refine ⟨diagram, layout, line, route, start, finish, lanes, shown, parsed, laidOut, joined,
    isLine, drawn, isShown, passes 3 shown isShown ?_ ?_⟩
  · rw [sameEnds.1]
    exact not_above rfl (by decide)
  · rw [sameEnds.2]
    exact not_above rfl (by decide)

end Compiler

end BoxDiagram
