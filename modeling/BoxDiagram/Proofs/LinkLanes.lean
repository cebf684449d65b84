import BoxDiagram.Proofs.Compiler
import BoxDiagram.Proofs.Layout.Lanes

namespace BoxDiagram

/-!
# Links that share a road stay apart

The lane table, the sizes of roads and the places of lanes are made one after the other.
In exact arithmetic they agree: each road of a layout is filled with the lanes of the table,
each link is drawn along the lane that its route has on a road, and links that share a road
are drawn at least one lane width apart.
-/

/-- A link runs from one point to another one along its own lane of a road. -/
structure RoadLayout.Leads
    (band : RoadLayout Rat)
    (link : LinkId)
    (passage : Passage)
    (entry exit : Point Rat) : Prop where
  road_eq : band.road = passage.road
  hasLane :
    ∃ number lane, passage.lane = some number ∧ band.lanes[number]? = some lane ∧
      lane.link = some link ∧ band.laneLine passage.lane = lane.line
  entry_eq : entry.along band.fixedAxis = band.laneLine passage.lane
  exit_eq : exit.along band.fixedAxis = band.laneLine passage.lane

/-- Between points on the lane of a passage a link runs along its own lane. -/
theorem RoadLayout.Carries.leads
    {band : RoadLayout Rat}
    {input : LayoutInput Rat}
    {container : Node Rat}
    {lanes : RoadLanes}
    {link : LinkId}
    {passage : Passage}
    {entry exit : Point Rat}
    (carries : band.Carries input container lanes)
    (sameRoad : band.road = passage.road)
    (hasLane : passage.HasLaneOf input.table link)
    (entryOn : entry.along band.fixedAxis = band.laneLine passage.lane)
    (exitOn : exit.along band.fixedAxis = band.laneLine passage.lane) :
    band.Leads link passage entry exit := by
  obtain ⟨lanesOf, number, isFound, isLaneOf, isNumber⟩ := hasLane
  rw [← sameRoad, carries.isListed] at isFound
  cases isFound
  have isPlaced := carries.getElem?_lanes isLaneOf
  exact ⟨sameRoad, ⟨number, _, isNumber, isPlaced, rfl,
    isNumber ▸ laneLine_of_getElem? isPlaced⟩, entryOn, exitOn⟩

namespace Layout

/--
A link is drawn along its own lanes: between two corners its walk keeps to the lane of each
passage, and what is kept of the walk are its gates and points on these lanes.
-/
structure DrawsOnLanes
    (layout : Layout Rat)
    (route : Route)
    (line : LinkLayout Rat)
    (start finish : Point Rat)
    (lanes : List (Axis × Rat)) : Prop where
  draws : layout.Draws route line start finish lanes
  walk :
    ∀ (index : Nat) (passage : Passage), route.passages[index]? = some passage →
      ∃ entry exit,
        (Polyline.corners start finish lanes)[index + 1]? = some entry ∧
          (Polyline.corners start finish lanes)[index + 2]? = some exit ∧
            ∃ band ∈ layout.roads, band.Leads route.link passage entry exit
  points :
    ∀ point ∈ line.points, point = start ∨ point = finish ∨
      ∃ passage ∈ route.passages, ∃ band ∈ layout.roads, band.road = passage.road ∧
        point.along band.fixedAxis = band.laneLine passage.lane

/--
A layout keeps the links on its roads apart: the lanes of the table fill each road, each link
is drawn along its own lanes, and the lanes of different links are a lane width apart.
-/
structure KeepsLinksApart
    (layout : Layout Rat)
    (graph : Graph Rat)
    (table : RoadTable)
    (laneWidth : Rat) : Prop where
  roads_eq : layout.roads.map (·.road) = table.toList.map (·.1)
  shows :
    ∀ band ∈ layout.roads, ∃ container lanes,
      graph.get? band.road.container = some container ∧ table.get? band.road = some lanes ∧
        band.ShowsLanes lanes laneWidth (container.itemFrame.axisDirection band.road.axis)
  drawn :
    ∀ (position : Nat) (route : Route), table.routes[position]? = some route →
      ∃ line start finish lanes, layout.links[position]? = some line ∧
        layout.DrawsOnLanes route line start finish lanes
  apart :
    ∀ first ∈ table.routes, ∀ second ∈ table.routes, first.link ≠ second.link →
      ∀ passage ∈ first.passages, ∀ other ∈ second.passages, passage.road = other.road →
        ∀ band ∈ layout.roads, band.road = passage.road →
          laneWidth ≤ |band.laneLine passage.lane - band.laneLine other.lane|

/-- A link that turns between crossing roads is drawn along lines that cross. -/
theorem crossing_of_ride
    {layout : Layout Rat}
    {graph : Graph Rat}
    {common : NodeId}
    {passages : List Passage}
    {lanes : List (Axis × Rat)}
    (fixes : ∀ band ∈ layout.roads, graph.fixedAxis band.road = .ok band.fixedAxis)
    (turns : (passages.map (·.road)).IsChain (graph.Turns common))
    (ride : List.Forall₂ layout.HasLine passages lanes) :
    lanes.IsChain fun line next => line.1 ≠ next.1 := by
  have fixes_of_hasLine :
      ∀ {passage : Passage} {line : Axis × Rat}, layout.HasLine passage line →
        graph.fixedAxis passage.road = .ok line.1 := by
    rintro passage _ ⟨band, isBand, sameRoad, rfl⟩
    exact sameRoad ▸ fixes band isBand
  induction ride with
  | nil =>
      exact .nil
  | cons hasLine later inductionHypothesis =>
      cases later with
      | nil =>
          exact .singleton _
      | cons nextHas _ =>
          rw [List.map_cons, List.map_cons, List.isChain_cons_cons] at turns
          obtain ⟨⟨⟨axis, other, isAxis, isOther, differ⟩, _⟩, laterTurns⟩ := turns
          rw [fixes_of_hasLine hasLine] at isAxis
          rw [fixes_of_hasLine nextHas] at isOther
          cases isAxis
          cases isOther
          exact .cons_cons differ (inductionHypothesis laterTurns)

/-- What is drawn of a link are its gates and points on its lanes. -/
theorem Draws.gate_or_lane
    {layout : Layout Rat}
    {route : Route}
    {line : LinkLayout Rat}
    {start finish : Point Rat}
    {lanes : List (Axis × Rat)}
    (draws : layout.Draws route line start finish lanes)
    {point : Point Rat}
    (member : point ∈ line.points) :
    point = start ∨ point = finish ∨
      ∃ passage ∈ route.passages, ∃ band ∈ layout.roads, band.road = passage.road ∧
        point.along band.fixedAxis = band.laneLine passage.lane := by
  rw [draws.points_eq] at member
  have isCorner := (Polyline.sublist_foldl [] (Polyline.corners start finish lanes)).subset member
  rcases Polyline.gate_or_lane_of_mem_corners isCorner with
    isStart | isFinish | ⟨line, isLane, onLine⟩
  · exact .inl isStart
  · exact .inr (.inl isFinish)
  · obtain ⟨index, isLane⟩ := List.mem_iff_getElem?.mp isLane
    obtain ⟨passage, isPassage, band, isBand, sameRoad, rfl⟩ :=
      exists_getElem?_of_forall₂ draws.ride.flip isLane
    exact .inr (.inr ⟨passage, List.mem_of_getElem? isPassage, band, isBand, sameRoad, onLine⟩)

end Layout

namespace LayoutEngine

variable {input : LayoutInput Rat} {depthLimit : Nat} {layout : Layout Rat}

/-- A layout of routes with lanes keeps the links on its roads apart. -/
theorem keepsLinksApart_of_nested
    (tree : input.diagram.graph.IsTree)
    (inOrder : input.diagram.graph.IsInOrder)
    (routed : input.IsRouted)
    (areFor : Route.AreFor input.diagram.graph input.diagram.links input.table.routes)
    (hasLane :
      ∀ {route : Route} {passage : Passage}, route ∈ input.table.routes →
        passage ∈ route.passages → passage.HasLaneOf input.table route.link)
    (measured : 0 ≤ input.diagram.document.laneWidth)
    (succeeded : nested depthLimit input = .ok layout) :
    layout.KeepsLinksApart input.diagram.graph input.table
      input.diagram.document.laneWidth := by
  have carried : ∀ band ∈ layout.roads, ∃ container lanes, band.Carries input container lanes :=
    fun band isBand => exists_carries_of_nested tree inOrder routed.isOver succeeded isBand
  constructor
  case roads_eq =>
    exact (inOrder_of_nested tree inOrder routed.isOver succeeded).2.2
  case shows =>
    intro band isBand
    obtain ⟨container, lanes, carries⟩ := carried band isBand
    exact ⟨container, lanes, carries.found, carries.isListed, carries.showsLanes measured⟩
  case drawn =>
    intro position route isRoute
    have member := List.mem_of_getElem? isRoute
    have inside := (List.getElem?_eq_some_iff.mp isRoute).1
    rw [← length_links_of_nested tree inOrder routed.isOver succeeded] at inside
    have isLine := List.getElem?_eq_getElem inside
    obtain ⟨start, finish, lanes, draws⟩ :=
      exists_draws tree inOrder routed succeeded isRoute isLine
    obtain ⟨_, _, _, _, isFor⟩ := areFor.exists_link member
    obtain ⟨common, _, isWalk⟩ := isFor.isWalk
    have crossing : lanes.IsChain fun line next => line.1 ≠ next.1 := by
      refine Layout.crossing_of_ride (fun band isBand => ?_) isWalk.turns draws.ride
      obtain ⟨_, _, carries⟩ := carried band isBand
      exact carries.fixedAxis_eq
    refine ⟨_, start, finish, lanes, isLine, draws, fun index passage isPassage => ?_,
      fun point => draws.gate_or_lane⟩
    obtain ⟨line, isLane, hasLine⟩ := exists_getElem?_of_forall₂ draws.ride isPassage
    obtain ⟨entry, exit, isEntry, isExit, entryOn, exitOn⟩ :=
      Polyline.exists_corners_on_lane crossing start finish isLane
    obtain ⟨band, isBand, sameRoad, rfl⟩ := hasLine
    obtain ⟨_, _, carries⟩ := carried band isBand
    exact ⟨entry, exit, isEntry, isExit, band, isBand, carries.leads sameRoad
      (hasLane member (List.mem_of_getElem? isPassage)) entryOn exitOn⟩
  case apart =>
    intro first isFirst second isSecond different passage isPassage other isOther sameRoad band
      isBand onRoad
    obtain ⟨_, lanes, carries⟩ := carried band isBand
    obtain ⟨firstLanes, number, firstFound, isLane, isNumber⟩ := hasLane isFirst isPassage
    obtain ⟨otherLanes, otherNumber, otherFound, isOtherLane, isOtherNumber⟩ :=
      hasLane isSecond isOther
    rw [← onRoad, carries.isListed] at firstFound
    rw [← sameRoad, ← onRoad, carries.isListed] at otherFound
    cases firstFound
    cases otherFound
    rw [isNumber, isOtherNumber]
    exact carries.le_abs_laneLine_sub measured isLane isOtherLane different

end LayoutEngine

namespace Compiler

variable {source : String} {diagram : Diagram Rat}

/--
In exact arithmetic links that share a road stay apart, however they were planned, whatever
lanes are spare and however large the labels.  Once the links of a parsed diagram whose lanes
have a width are planned and have lanes, each passage of a route is on the lane of its link.
In every layout the lanes tile the band of each road, one lane width after the other in the
direction of its container, and each link is drawn along its lanes, so that the lines of two
links on one road are parallel and at least one lane width apart.
-/
theorem keepsLinksApart_of_plan
    {config : Config}
    {labels sizes : Array (Option (Size Rat))}
    {routes : List Route}
    {laneMin depthLimit : Nat}
    {table : RoadTable}
    (parsed : ({ config } : Compiler Rat).parse source = .ok diagram)
    (isWide : 0 < diagram.document.laneWidth)
    (planned : ({ config } : Compiler Rat).plan diagram labels diagram.links = .ok routes)
    (allocated : RoadTable.allocate diagram.graph routes laneMin = .ok table) :
    List.Forall₂ (Route.HasLanesOf · table) routes table.routes ∧
      (maxNesting ≤ depthLimit →
        ∃ layout,
          LayoutEngine.nested depthLimit { diagram, table, labels := sizes } = .ok layout) ∧
        ∀ layout,
          LayoutEngine.nested depthLimit { diagram, table, labels := sizes } = .ok layout →
            layout.KeepsLinksApart diagram.graph table diagram.document.laneWidth := by
  obtain ⟨outline, ofOutline⟩ := exists_outline_of_parse parsed
  have resolved := Diagram.isResolved_of_ofOutline ofOutline
  have inOrder := Diagram.isInOrder_of_ofOutline ofOutline
  have areFor := RoutePlanner.areFor_of_ofKind resolved.tree planned
  obtain ⟨routed, _⟩ := LayoutInput.isRouted_of_allocate resolved areFor allocated sizes
  have nodup : (routes.map (·.link)).Nodup := by
    rw [areFor.links_eq]
    exact List.nodup_range
  refine ⟨(RoadTable.isAllocation_of_allocate nodup allocated).haveLanes, fun enough => ?_,
    fun layout succeeded => ?_⟩
  · exact LayoutEngine.exists_nested resolved.tree inOrder routed enough
  · exact LayoutEngine.keepsLinksApart_of_nested resolved.tree inOrder routed
      (areFor.of_allocate allocated)
      (fun isRoute member =>
        RoadTable.hasLaneOf_of_allocate nodup allocated isRoute member)
      isWide.le succeeded

/-- Two links that go around a box share the road beside it. -/
theorem exists_keepsLinksApart_of_plan :
    ∃ (diagram : Diagram Rat) (routes : List Route) (table : RoadTable) (layout : Layout Rat),
      ({ config := .withPlanner {} .topological } : Compiler Rat).parse
          "(a)\n(b)\n(c)\n(a) -> (c)\n(c) -> (a)" = .ok diagram ∧
        ({ config := .withPlanner {} .topological } : Compiler Rat).plan diagram #[]
            diagram.links = .ok routes ∧
          RoadTable.allocate diagram.graph routes 1 = .ok table ∧
            LayoutEngine.nested maxNesting { diagram, table, labels := #[] } = .ok layout ∧
              table.routes.map (fun route =>
                  route.passages.map fun passage => (passage.road, passage.lane)) =
                [[(.cross 0 1, some 0)], [(.cross 0 1, some 1)]] ∧
                0 < diagram.document.laneWidth ∧
                  layout.KeepsLinksApart diagram.graph table diagram.document.laneWidth := by
  have compiles :
      ((({ config := .withPlanner {} .topological } : Compiler Rat).parse
          "(a)\n(b)\n(c)\n(a) -> (c)\n(c) -> (a)").toOption.bind fun diagram =>
        (({ config := .withPlanner {} .topological } : Compiler Rat).plan diagram #[]
            diagram.links).toOption.bind fun routes =>
          (RoadTable.allocate diagram.graph routes 1).toOption.map fun table =>
            (table.routes.map (fun route =>
                route.passages.map fun passage => (passage.road, passage.lane)),
              diagram.document.laneWidth)) =
        some ([[(.cross 0 1, some 0)], [(.cross 0 1, some 1)]], 8) := by
    decide +kernel
  obtain ⟨diagram, parsed, compiles⟩ := Option.bind_eq_some_iff.mp compiles
  obtain ⟨routes, planned, compiles⟩ := Option.bind_eq_some_iff.mp compiles
  obtain ⟨table, allocated, computed⟩ := Option.map_eq_some_iff.mp compiles
  have parsed := Attempt.toOption_eq_some_iff.mp parsed
  have planned := Attempt.toOption_eq_some_iff.mp planned
  have allocated := Attempt.toOption_eq_some_iff.mp allocated
  rw [Prod.mk.injEq] at computed
  have isWide : 0 < diagram.document.laneWidth := by
    rw [computed.2]
    decide
  obtain ⟨_, laysOut, keeps⟩ := keepsLinksApart_of_plan parsed isWide planned allocated
  obtain ⟨layout, succeeded⟩ := laysOut (Nat.le_refl maxNesting)
  exact ⟨diagram, routes, table, layout, parsed, planned, allocated, succeeded, computed.1,
    isWide, keeps layout succeeded⟩

end Compiler

end BoxDiagram
