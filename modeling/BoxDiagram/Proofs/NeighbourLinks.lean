import BoxDiagram.Proofs.LinkClearance
import BoxDiagram.Proofs.Route.Arrival
import BoxDiagram.Proofs.Route.Neighbours

namespace BoxDiagram

/-!
# Both planners agree on neighbours

The line of the road between two neighbours lies between their middles, so that the way along
it is no longer than the distance of the two.  The line of every other road that one of them
leaves onto lies beyond both middles, and the way along it is a detour.  In exact arithmetic
a search therefore takes the road between neighbours, as the tree of boxes has it.
-/

open Bounds (IsAmid)

/-- A rectangle is neither empty nor a line. -/
def Bounds.IsWide (area : Bounds Rat) : Prop :=
  0 < area.width ∧ 0 < area.height

instance (area : Bounds Rat) : Decidable area.IsWide :=
  inferInstanceAs (Decidable (_ ∧ _))

/-- The center of a rectangle that is wide in both directions is amid its ranges. -/
theorem Bounds.IsWide.isAmid_center
    {area : Bounds Rat}
    (wide : area.IsWide)
    (axis : Axis) :
    IsAmid (area.center.along axis) (area.range axis) := by
  obtain ⟨positiveWidth, positiveHeight⟩ := wide
  rw [width] at positiveWidth
  rw [height] at positiveHeight
  cases axis <;> simp only [IsAmid, center, Point.along, range, Scalar.half_rat] <;>
    constructor <;> linarith

/-- Distances along both axes are added, whichever axis comes first. -/
theorem Point.manhattan_rat
    (first second : Point Rat)
    (axis : Axis) :
    first.manhattan second =
      |first.along axis - second.along axis| +
        |first.along axis.other - second.along axis.other| := by
  rw [manhattan, Scalar.abs_rat, Scalar.abs_rat]
  cases axis with
  | main =>
      rfl
  | cross =>
      exact add_comm _ _

namespace Search

/-- The search measures from the middle of the box as it is drawn. -/
theorem center_eq
    {graph : Graph Rat}
    {layout : Layout Rat}
    {id : NodeId}
    {shown : NodeLayout Rat}
    (isShown : layout.node? id = some shown) :
    center graph layout id = .ok shown.visible.center := by
  rw [center, isShown]
  rfl

/-- The walk from the source onto a road goes over the line of the road. -/
theorem Task.exists_firstWalk
    {task : Task Rat}
    {road : Road}
    {axis : Axis}
    {line : Rat}
    (isLine : (task.reference.lines.get? road).join = some (axis, line))
    (first : Direction) :
    ∃ walk, task.firstWalk first road = .ok walk ∧ walk.road = road ∧ walk.first = first ∧
      walk.parent = none ∧
        task.estimate walk =
          |task.source.along axis - line| + |line - task.target.along axis| +
            |task.source.along axis.other - task.target.along axis.other| := by
  refine ⟨_, by rw [firstWalk, stepOnto, Task.line, isLine]; rfl, rfl, rfl, rfl, ?_⟩
  rw [estimate, Point.manhattan_rat _ _ axis, Point.manhattan_rat _ _ axis]
  simp only [Point.along_withAlong, Point.along_other_withAlong, sub_self, abs_zero, add_zero]
  ring

end Search

namespace Layout.IsNestingOf

variable
  {graph : Graph Rat}
  {layout : Layout Rat}
  {container source target : Node Rat}
  {exit : Direction}
  {sourceShown targetShown : NodeLayout Rat}
  (nesting : layout.IsNestingOf graph)
include nesting

/-- The line of a road beside a child lies beyond the child, and beyond all others beside it. -/
theorem exists_line_beside
    (complete : layout.IsComplete graph)
    (containerFound : graph.get? container.id = some container)
    (found : graph.get? source.id = some source)
    (holds : container.Holds source)
    (direction : Direction) :
    ∃ line,
      ((Reference.ofLayout graph layout).lines.get? (.beside container source direction)).join =
          some (direction.axis, line) ∧
        ∀ {child : Node Rat} {toward : Direction} {shown : NodeLayout Rat},
          graph.get? child.id = some child → container.Holds child →
            layout.node? child.id = some shown →
              Road.beside container child toward = .beside container source direction →
                toward.Orders (shown.bounds.range toward.axis) (line, line) := by
  have meets :
      graph.MeetsRoad source direction 0 (.beside container source direction) source container :=
    ⟨nesting.tree.isOuter_self found, containerFound, holds, rfl⟩
  obtain ⟨band, member, isRoad, isLine⟩ := complete.exists_line ⟨container, meets.isRoadOf⟩
  have isBand : layout.HasRoadOf container band :=
    ⟨member, by rw [isRoad, Road.container_beside]⟩
  have keeps := (nesting.flows containerFound).lanes isBand
  have fixedAxis := keeps.fixedAxis_eq
  rw [isRoad, Road.axis_beside, Compass.axis_axisDirection_relativeOf] at fixedAxis
  refine ⟨band.centerLine, by rw [isLine, fixedAxis], ?_⟩
  intro child toward shown childFound childHolds isShown sameRoad
  have inside := keeps.inside none
  rw [isRoad, ← sameRoad, Road.axis_beside, Compass.axis_axisDirection_relativeOf] at inside
  have precedes :=
    nesting.precedes_beside containerFound childHolds isShown isBand (isRoad.trans sameRoad.symm)
  exact Direction.Orders.mono precedes
    ((nesting.visible_inside childFound isShown).outer_self.rangeIn _) inside

section Neighbours

variable
  (neighbours : graph.AreNeighbours container source target exit)
  (isSource : layout.node? source.id = some sourceShown)
  (isTarget : layout.node? target.id = some targetShown)
include neighbours isSource isTarget

/-- Neighbours come one after the other in the direction from one to the other. -/
theorem precedes_of_neighbours :
    sourceShown.bounds.Precedes exit targetShown.bounds := by
  rcases neighbours.faces with ⟨rfl, next⟩ | ⟨rfl, next⟩
  · exact nesting.precedes_of_index_lt neighbours.areSiblings (by omega) isSource isTarget
  · rw [Bounds.precedes_reverse]
    exact nesting.precedes_of_index_lt neighbours.areSiblings.symm (by omega) isTarget isSource

variable
  (sourceWide : sourceShown.visible.IsWide)
  (targetWide : targetShown.visible.IsWide)
  (complete : layout.IsComplete graph)
include sourceWide targetWide complete

/-- The way from one neighbour to the other is a detour over all roads but the one between them. -/
theorem exists_line_of_neighbours
    (direction : Direction) :
    ∃ axis line,
      ((Reference.ofLayout graph layout).lines.get? (.beside container source direction)).join =
          some (axis, line) ∧
        (direction = exit →
          |sourceShown.visible.center.along axis - line| +
              |line - targetShown.visible.center.along axis| =
            |sourceShown.visible.center.along axis - targetShown.visible.center.along axis|) ∧
          (direction ≠ exit →
            |sourceShown.visible.center.along axis - targetShown.visible.center.along axis| <
              |sourceShown.visible.center.along axis - line| +
                |line - targetShown.visible.center.along axis|) := by
  have areSiblings := neighbours.areSiblings
  have sourceInside := nesting.visible_inside areSiblings.childFound isSource
  have targetInside := nesting.visible_inside areSiblings.siblingFound isTarget
  have sourceAmid := fun axis => (sourceWide.isAmid_center axis).mono (sourceInside.rangeIn axis)
  have targetAmid := fun axis => (targetWide.isAmid_center axis).mono (targetInside.rangeIn axis)
  obtain ⟨line, isLine, orders⟩ :=
    nesting.exists_line_beside complete areSiblings.containerFound areSiblings.childFound
      areSiblings.holds direction
  have afterSource := orders areSiblings.childFound areSiblings.holds isSource rfl
  refine ⟨direction.axis, line, isLine, ?_, fun differ => ?_⟩
  · rintro rfl
    have beforeTarget :=
      orders areSiblings.siblingFound areSiblings.holdsSibling isTarget neighbours.beside_reverse
    rw [Direction.axis_reverse, Direction.orders_reverse] at beforeTarget
    exact afterSource.abs_add_abs_of_between (sourceAmid _) (targetAmid _) beforeTarget
  · apply afterSource.abs_lt_of_beyond (sourceAmid _) (targetAmid _)
    by_cases sameAxis : direction.axis = exit.axis
    · obtain rfl := (Direction.eq_or_eq_reverse sameAxis).resolve_left differ
      have precedes := nesting.precedes_of_neighbours neighbours isSource isTarget
      rw [← Bounds.precedes_reverse] at precedes
      exact Direction.Orders.trans precedes afterSource
        (sourceInside.outer_self.rangeIn exit.reverse.axis).2.1
    · rw [neighbours.axis_eq] at sameAxis
      exact orders areSiblings.siblingFound areSiblings.holdsSibling isTarget
        (Road.beside_eq_of_axis_ne sameAxis target source)

/-- Of the walks that leave a neighbour only the one toward the other neighbour is no detour. -/
theorem exists_firstWalk_of_neighbours
    {task : Search.Task Rat}
    (sameReference : task.reference = .ofLayout graph layout)
    (sourceIs : task.source = sourceShown.visible.center)
    (targetIs : task.target = targetShown.visible.center)
    (direction : Direction) :
    ∃ walk, task.firstWalk direction (.beside container source direction) = .ok walk ∧
      walk.road = .beside container source direction ∧ walk.first = direction ∧
        walk.parent = none ∧
          (direction = exit → task.estimate walk = task.source.manhattan task.target) ∧
            (direction ≠ exit → task.source.manhattan task.target < task.estimate walk) := by
  obtain ⟨axis, line, isLine, straight, detour⟩ :=
    nesting.exists_line_of_neighbours neighbours isSource isTarget sourceWide targetWide complete
      direction
  rw [← sameReference] at isLine
  rw [← sourceIs, ← targetIs] at straight detour
  obtain ⟨walk, isWalk, isRoad, isFirst, noParent, isEstimate⟩ :=
    Search.Task.exists_firstWalk isLine direction
  refine ⟨walk, isWalk, isRoad, isFirst, noParent, ?_, ?_⟩ <;>
    rw [isEstimate, Point.manhattan_rat _ _ axis]
  · intro isExit
    rw [straight isExit]
  · intro differ
    exact add_lt_add_left (detour differ) _

/-- A search between neighbours arrives at once on the road between them. -/
theorem run_of_neighbours
    {config : RouteConfig}
    {ends : LinkEnds}
    {task : Search.Task Rat}
    (checked : ends.AreChecked graph source target container 0 0)
    (sourceFree : ends.source.edge = none)
    (targetFree : ends.target.edge = none)
    (isTask : Search.Task.ofEnds graph (.ofLayout graph layout) config ends = .ok task) :
    task.run =
      .ok (some (ends.route exit exit.reverse [Road.beside container source exit])) := by
  have tree := nesting.tree
  have areSiblings := neighbours.areSiblings
  obtain ⟨sourceCenter, targetCenter, exists_goal⟩ := Search.Task.of_ofEnds isTask
  obtain ⟨sound, rfl, rfl, sameReference⟩ := Search.Task.isSound_of_ofEnds tree checked isTask
  have leaves :
      ∀ {first road}, task.graph.LeavesOnto task.ends.common task.ends.source first road ↔
        road = Road.beside container source first := by
    intro first road
    rw [← checked.common_id]
    exact tree.leavesOnto_iff_of_holds areSiblings.containerFound checked.sourceFound
      areSiblings.holds sourceFree
  have arrives :
      ∀ {first road}, task.graph.LeavesOnto task.ends.common task.ends.target first road ↔
        road = Road.beside container target first := by
    intro first road
    rw [← checked.common_id]
    exact tree.leavesOnto_iff_of_holds areSiblings.containerFound checked.targetFound
      areSiblings.holdsSibling targetFree
  have hasLines : task.HasLines := by
    intro road hasRoad
    rw [sameReference]
    obtain ⟨_, _, _, isLine⟩ := complete.exists_line hasRoad
    exact ⟨_, isLine⟩
  rw [← tree.id_of_get? checked.sourceFound] at sourceCenter
  rw [← tree.id_of_get? checked.targetFound] at targetCenter
  have each :=
    nesting.exists_firstWalk_of_neighbours neighbours isSource isTarget sourceWide targetWide
      complete sameReference
      (Except.ok.inj (sourceCenter.symm.trans (Search.center_eq isSource)))
      (Except.ok.inj (targetCenter.symm.trans (Search.center_eq isTarget)))
  obtain ⟨walk, isWalk, isRoad, isFirst, noParent, isStraight, _⟩ := each exit
  obtain ⟨progress, started⟩ := Search.exists_start sound hasLines
  have leads : Search.Leads task walk progress := by
    apply Search.leads_of_start sound started (leaves.mpr rfl) isWalk isRoad
    intro direction road other isBeside isOther
    obtain rfl := leaves.mp isBeside
    obtain ⟨same, isSame, otherRoad, _, _, _, detour⟩ := each direction
    obtain rfl := Except.ok.inj (isOther.symm.trans isSame)
    by_cases isExit : direction = exit
    · subst isExit
      exact .inl (Except.ok.inj (isOther.symm.trans isWalk))
    · rw [isStraight rfl, isRoad, otherRoad]
      exact .inr ⟨fun sameRoad => isExit (Road.beside_injective _ _ sameRoad), detour isExit⟩
  have hasRoad : task.graph.HasRoad walk.road :=
    isRoad ▸ (sound.passable_of_leavesOnto (leaves.mpr rfl)).1
  obtain ⟨first, isGoal⟩ :=
    exists_goal hasRoad (arrives.mpr (isRoad.trans neighbours.beside_reverse.symm))
  have isTurned := arrives.mp (sound.goals isGoal)
  rw [isRoad, ← neighbours.beside_reverse] at isTurned
  rw [← Road.beside_injective _ _ isTurned] at isGoal
  rw [Search.run_of_leads started leads noParent isGoal, isFirst, isRoad]

end Neighbours

end Layout.IsNestingOf

namespace RoutePlanner

theorem searchLink_of_neighbours
    {input : PlannerInput Rat}
    {layout : Layout Rat}
    {container source target : Node Rat}
    {exit : Direction}
    {sourceShown targetShown : NodeLayout Rat}
    (nesting : layout.IsNestingOf input.graph)
    (complete : layout.IsComplete input.graph)
    (id : LinkId)
    {link : Link}
    (sourceFound : input.graph.get? link.source.node = some source)
    (targetFound : input.graph.get? link.target.node = some target)
    (apart : source.isRelatedTo target = false)
    (neighbours : input.graph.AreNeighbours container source target exit)
    (sourceFree : link.source.edge = none)
    (targetFree : link.target.edge = none)
    (isSource : layout.node? source.id = some sourceShown)
    (isTarget : layout.node? target.id = some targetShown)
    (sourceWide : sourceShown.visible.IsWide)
    (targetWide : targetShown.visible.IsWide) :
    searchLink input (.ofLayout input.graph layout) id link =
      .ok (link.straightRoute id exit (.beside container source exit)) := by
  obtain ⟨ends, isChecked, sameId, sameSource, sameTarget, checked⟩ :=
    LinkEnds.exists_of_areSiblings nesting.tree id sourceFound targetFound apart
      neighbours.areSiblings
  rw [← sameSource] at sourceFree
  rw [← sameTarget] at targetFree
  obtain ⟨setUp, _, isSetUp⟩ :=
    Search.Task.exists_ofEnds_eq nesting.tree checked (.ofLayout input.graph layout) input.config
  obtain ⟨start, isStart⟩ := complete.exists_center checked.sourceFound
  obtain ⟨finish, isFinish⟩ := complete.exists_center checked.targetFound
  have isTask :
      Search.Task.ofEnds input.graph (.ofLayout input.graph layout) input.config ends =
        .ok (setUp start finish) := by
    rw [isSetUp, show (Reference.ofLayout input.graph layout).layout = layout from rfl, isStart,
      Attempt.ok_bind, isFinish]
    rfl
  have searched :=
    nesting.run_of_neighbours neighbours isSource isTarget sourceWide targetWide complete checked
      sourceFree targetFree isTask
  rw [searchLink, isChecked, Attempt.ok_bind, isTask, Attempt.ok_bind, searched,
    Attempt.ok_bind]
  dsimp only
  rw [pure_bind,
    Topological.verify_of_neighbours nesting.tree checked neighbours sourceFree targetFree,
    Attempt.ok_bind, LinkEnds.route_eq_straightRoute sameId sameSource sameTarget]
  rfl

/-- What is planned for one of several links is what the planner finds for this link. -/
theorem route_of_mapM
    {links : List Link}
    {routes : List Route}
    {plan : LinkId → Link → Except Failure Route}
    {id : LinkId}
    {link : Link}
    {route : Route}
    (isLink : links[id]? = some link)
    (isRoute : plan id link = .ok route)
    (succeeded : (links.zipIdx.mapM fun (link, id) => plan id link) = .ok routes) :
    routes[id]? = some route := by
  have numbered : links.zipIdx[id]? = some (link, id) := by
    simp [List.getElem?_zipIdx, isLink]
  have inside : id < routes.length := by
    rw [Attempt.length_of_mapM succeeded]
    exact (List.getElem?_eq_some_iff.mp numbered).1
  have isFound := List.getElem?_eq_getElem inside
  have planned := Attempt.step_of_mapM succeeded numbered isFound
  rw [isFound, Except.ok.inj (isRoute.symm.trans planned)]

/-- A planner of either kind gives a link the route that both of them find for it. -/
theorem route_of_ofKind
    {α : Type}
    [Scalar α]
    {kind : PlannerKind}
    {input : PlannerInput α}
    {reference : Layout α}
    {routes : List Route}
    {id : LinkId}
    {link : Link}
    {route : Route}
    (hasReference : input.reference () = .ok reference)
    (isLink : input.links[id]? = some link)
    (byTree : Topological.planLink input.graph input.config.depthLimit id link = .ok route)
    (bySearch : searchLink input (.ofLayout input.graph reference) id link = .ok route)
    (planned : ofKind kind input = .ok routes) :
    routes[id]? = some route := by
  cases kind with
  | topological =>
      exact route_of_mapM isLink byTree planned
  | geometric =>
      change geometric input = .ok routes at planned
      rw [geometric] at planned
      split at planned
      · rename_i noLinks
        rw [noLinks] at isLink
        cases isLink
      · rw [hasReference, Attempt.ok_bind] at planned
        exact route_of_mapM isLink bySearch planned

end RoutePlanner

namespace Compiler

variable {source : String} {diagram : Diagram Rat} {config : Config}

/-- In exact arithmetic the layout without links nests all boxes and roads, in order. -/
theorem isNestingOf_of_referenceLayout
    {labels : Array (Option (Size Rat))}
    {reference : Layout Rat}
    (parsed : ({ config } : Compiler Rat).parse source = .ok diagram)
    (labelsMeasured : ∀ size : Size Rat, some size ∈ labels → size.IsMeasured)
    (laidOut : ({ config } : Compiler Rat).referenceLayout diagram labels = .ok reference) :
    reference.IsNestingOf diagram.graph ∧ reference.IsComplete diagram.graph := by
  obtain ⟨outline, ofOutline⟩ := exists_outline_of_parse parsed
  have resolved := Diagram.isResolved_of_ofOutline ofOutline
  have inOrder := Diagram.isInOrder_of_ofOutline ofOutline
  obtain ⟨table, allocated, succeeded⟩ := Attempt.bind_eq_ok_iff.mp laidOut
  have isOver := (RoadTable.of_allocate allocated).1
  have measured : ({ diagram, table, labels } : LayoutInput Rat).IsMeasured := by
    refine ⟨Diagram.isMeasured_of_ofOutline ofOutline, fun {id size} isLabel => ?_⟩
    exact labelsMeasured size (Array.mem_of_getElem? (Option.join_eq_some_iff.mp isLabel))
  exact ⟨LayoutEngine.isNestingOf_of_nested resolved.tree inOrder isOver measured succeeded,
    .of_nested resolved.tree inOrder isOver succeeded⟩

/--
In exact arithmetic both planners route a link between two neighbours along the road between
them and nothing else, if both are shown with a wide visible part in the layout without links.
The limits of a search do not matter, nor does the limit of a climb for this link.
-/
theorem plan_of_neighbours
    {labels : Array (Option (Size Rat))}
    {reference : Layout Rat}
    (parsed : ({ config } : Compiler Rat).parse source = .ok diagram)
    (labelsMeasured : ∀ size : Size Rat, some size ∈ labels → size.IsMeasured)
    (laidOut : ({ config } : Compiler Rat).referenceLayout diagram labels = .ok reference)
    {id : LinkId}
    {link : Link}
    (isLink : diagram.links[id]? = some link)
    (sourceFree : link.source.edge = none)
    (targetFree : link.target.edge = none)
    {container first last : Node Rat}
    {exit : Direction}
    (neighbours : diagram.graph.AreNeighbours container first last exit)
    (isFirst : link.source.node = first.id)
    (isLast : link.target.node = last.id)
    {firstShown lastShown : NodeLayout Rat}
    (firstIs : reference.node? first.id = some firstShown)
    (lastIs : reference.node? last.id = some lastShown)
    (firstWide : firstShown.visible.IsWide)
    (lastWide : lastShown.visible.IsWide) :
    ∃ route : Route,
      route.roads = [.main container.id (max first.index last.index)] ∧
        route.sourceExit = exit ∧ route.targetExit = exit.reverse ∧
          Topological.planLink diagram.graph config.route.depthLimit id link = .ok route ∧
            RoutePlanner.searchLink
                { graph := diagram.graph
                  links := diagram.links
                  config := config.route
                  reference := fun _ =>
                    ({ config } : Compiler Rat).referenceLayout diagram labels }
                (.ofLayout diagram.graph reference) id link =
              .ok route ∧
              ∀ kind,
                (∀ routes,
                  ({ config := config.withPlanner kind } : Compiler Rat).plan diagram labels
                      diagram.links = .ok routes →
                    routes[id]? = some route) ∧
                  (maxNesting ≤ config.route.depthLimit →
                    ∃ routes,
                      ({ config := config.withPlanner kind } : Compiler Rat).plan diagram labels
                        diagram.links = .ok routes) := by
  obtain ⟨nesting, complete⟩ := isNestingOf_of_referenceLayout parsed labelsMeasured laidOut
  obtain ⟨outline, ofOutline⟩ := exists_outline_of_parse parsed
  have resolved := Diagram.isResolved_of_ofOutline ofOutline
  have areSiblings := neighbours.areSiblings
  obtain ⟨source, target, sourceFound, targetFound, apart⟩ :=
    resolved.joined link (List.mem_of_getElem? isLink)
  obtain rfl : source = first := by
    rw [isFirst, areSiblings.childFound] at sourceFound
    exact (Option.some.inj sourceFound).symm
  obtain rfl : target = last := by
    rw [isLast, areSiblings.siblingFound] at targetFound
    exact (Option.some.inj targetFound).symm
  have byTree :=
    Topological.planLink_of_neighbours resolved.tree config.route.depthLimit id sourceFound
      targetFound apart neighbours sourceFree targetFree
  have bySearch :
      ∀ (links : List Link) (config : RouteConfig) (demand : Unit → Except Failure (Layout Rat)),
        RoutePlanner.searchLink { graph := diagram.graph, links, config, reference := demand }
            (.ofLayout diagram.graph reference) id link =
          .ok (link.straightRoute id exit (.beside container source exit)) :=
    fun links config demand =>
      RoutePlanner.searchLink_of_neighbours nesting complete id sourceFound targetFound apart
        neighbours sourceFree targetFree firstIs lastIs firstWide lastWide
  rw [neighbours.beside_eq] at byTree bySearch
  refine ⟨_, rfl, rfl, rfl, byTree, bySearch _ _ _, fun kind => ⟨?_, fun enough => ?_⟩⟩
  · intro routes planned
    exact RoutePlanner.route_of_ofKind laidOut isLink byTree (bySearch _ _ _) planned
  · exact RoutePlanner.exists_ofKind resolved rfl rfl enough laidOut complete kind

/-- Of two boxes in a row the later one is linked to the earlier one by the gap between them. -/
theorem exists_plan_of_neighbours :
    ∃ (diagram : Diagram Rat) (reference : Layout Rat) (link : Link) (route : Route),
      ({} : Compiler Rat).parse "[g]\n(.a)\n(.b)\n(g.b) -> (g.a)" = .ok diagram ∧
        ({} : Compiler Rat).referenceLayout diagram (diagram.labelSizes TextMeasure.byCount) =
            .ok reference ∧
          diagram.links = [link] ∧ link.source.node = 3 ∧ link.target.node = 2 ∧
            route.roads = [.main 1 1] ∧ route.sourceExit = .left ∧ route.targetExit = .right ∧
              ∀ kind, ∃ routes,
                ({ config := ({} : Config).withPlanner kind } : Compiler Rat).plan diagram
                    (diagram.labelSizes TextMeasure.byCount) diagram.links = .ok routes ∧
                  routes[0]? = some route := by
  have parses :
      (({} : Compiler Rat).parse "[g]\n(.a)\n(.b)\n(g.b) -> (g.a)").toOption.map
          (fun diagram =>
            (diagram.links.map fun link => (link.source, link.target),
              diagram.graph.nodes.toList.map fun node =>
                (node.parent, node.index, node.itemFrame.main))) =
        some ([(⟨3, none⟩, ⟨2, none⟩)],
          [(none, 0, .down), (some 0, 0, .right), (some 1, 0, .down), (some 1, 1, .down)]) := by
    decide +kernel
  have laysOut :
      ((({} : Compiler Rat).parse "[g]\n(.a)\n(.b)\n(g.b) -> (g.a)").toOption.bind fun diagram =>
          (({} : Compiler Rat).referenceLayout diagram
              (diagram.labelSizes TextMeasure.byCount)).toOption.map fun reference =>
            reference.nodes.map fun shown => (shown.id, decide shown.visible.IsWide)) =
        some [(0, true), (1, true), (2, true), (3, true)] := by
    decide +kernel
  obtain ⟨diagram, parsed, laysOut⟩ := Option.bind_eq_some_iff.mp laysOut
  obtain ⟨reference, laidOut, shown⟩ := Option.map_eq_some_iff.mp laysOut
  rw [parsed, Option.map_some, Option.some.injEq, Prod.mk.injEq] at parses
  have parsed := Attempt.toOption_eq_some_iff.mp parsed
  have laidOut := Attempt.toOption_eq_some_iff.mp laidOut
  obtain ⟨linked, boxes⟩ := parses
  obtain ⟨link, linksEq, sameEnds⟩ := List.map_eq_singleton_iff.mp linked
  obtain ⟨outline, ofOutline⟩ := exists_outline_of_parse parsed
  have tree := (Diagram.isResolved_of_ofOutline ofOutline).tree
  have measured := Diagram.isMeasured_of_ofOutline ofOutline
  have box :
      ∀ (id : NodeId) {facts : Option NodeId × Nat × Direction},
        [(none, 0, .down), (some 0, 0, .right), (some 1, 0, .down), (some 1, 1, .down)][id]? =
            some facts →
          ∃ node, diagram.graph.get? id = some node ∧
            (node.parent, node.index, node.itemFrame.main) = facts := by
    intro id facts isFacts
    rw [← boxes, List.getElem?_map, Option.map_eq_some_iff] at isFacts
    obtain ⟨node, isNode, same⟩ := isFacts
    rw [Array.getElem?_toList] at isNode
    exact ⟨node, isNode, same⟩
  have wide :
      ∀ (id : NodeId), [(0, true), (1, true), (2, true), (3, true)][id]? = some (id, true) →
        ∃ inner, reference.node? id = some inner ∧ inner.visible.IsWide := by
    intro id isFact
    rw [← shown, List.getElem?_map, Option.map_eq_some_iff] at isFact
    obtain ⟨inner, isInner, same⟩ := isFact
    rw [Prod.mk.injEq, decide_eq_true_iff] at same
    exact ⟨inner, by simp [Layout.node?, isInner, same.1], same.2⟩
  obtain ⟨group, groupFound, groupIs⟩ := box 1 rfl
  obtain ⟨first, firstFound, firstIs⟩ := box 2 rfl
  obtain ⟨second, secondFound, secondIs⟩ := box 3 rfl
  simp only [Prod.mk.injEq] at groupIs firstIs secondIs
  have held :
      ∀ {id : NodeId} {node : Node Rat}, diagram.graph.get? id = some node →
        node.parent = some 1 → group.Holds node := by
    intro id node found hasParent
    obtain ⟨holder, holderFound, isGroup, holds⟩ :=
      tree.exists_holds_of_isParent found ⟨node, found, hasParent⟩
    rw [isGroup, groupFound] at holderFound
    exact Option.some.inj holderFound ▸ holds
  have neighbours : diagram.graph.AreNeighbours group second first .left := by
    constructor
    case areSiblings =>
      exact ⟨tree.get?_id groupFound, tree.get?_id secondFound, tree.get?_id firstFound,
        held secondFound secondIs.1, held firstFound firstIs.1, by omega⟩
    case faces =>
      exact .inr ⟨by rw [groupIs.2.2]; rfl, by omega⟩
  have firstId := tree.id_of_get? firstFound
  have secondId := tree.id_of_get? secondFound
  obtain ⟨firstShown, isFirst, firstWide⟩ := wide 2 rfl
  obtain ⟨secondShown, isSecond, secondWide⟩ := wide 3 rfl
  rw [← firstId] at isFirst
  rw [← secondId] at isSecond
  rw [Prod.mk.injEq] at sameEnds
  obtain ⟨route, isRoad, leaves, arrives, _, _, planned⟩ :=
    plan_of_neighbours parsed (fun size member => measured.labelSizes member) laidOut
      (show diagram.links[0]? = some link by rw [linksEq]; rfl)
      (congrArg Endpoint.edge sameEnds.1) (congrArg Endpoint.edge sameEnds.2) neighbours
      ((congrArg Endpoint.node sameEnds.1).trans secondId.symm)
      ((congrArg Endpoint.node sameEnds.2).trans firstId.symm)
      isSecond isFirst secondWide firstWide
  refine ⟨diagram, reference, link, route, parsed, laidOut, linksEq,
    congrArg Endpoint.node sameEnds.1, congrArg Endpoint.node sameEnds.2, ?_, leaves, arrives, ?_⟩
  · rw [isRoad, tree.id_of_get? groupFound, firstIs.2.1, secondIs.2.1]
    rfl
  · intro kind
    obtain ⟨isRoute, exists_routes⟩ := planned kind
    obtain ⟨routes, isPlan⟩ := exists_routes (by decide)
    exact ⟨routes, isPlan, isRoute routes isPlan⟩

end Compiler

end BoxDiagram
