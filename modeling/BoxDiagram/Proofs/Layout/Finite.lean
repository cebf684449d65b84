import BoxDiagram.Proofs.Layout.Engine
import BoxDiagram.Proofs.Layout.OnCanvas

namespace BoxDiagram

open Single (IsCanvas IsExtent IsMeasure IsNear IsUpTo grain grain_pos isCanvas_reach reach value)

/-!
# Layouts on the canvas are finite

The gates of a side lie on it, but for a few grains, and the corners of a line have the
coordinates of gates and lanes.  So where the boxes of a layout are on the canvas, all of
its numbers are finite.
-/

/-- Between two coordinates that are hardly outside of the canvas there is one again. -/
theorem Single.isFinite_middle
    {first second : Float32}
    (firstNear : IsNear 0 (reach + 44 * grain) first)
    (secondNear : IsNear 0 (reach + 44 * grain) second) :
    Scalar.isFinite (Scalar.half (first + second)) = true := by
  have unit : grain = 2 ^ 103 := rfl
  have end_eq : reach = 2 ^ 127 - 256 * grain := rfl
  have ⟨_, firstLow, firstHigh⟩ := firstNear
  have ⟨_, secondLow, secondHigh⟩ := secondNear
  obtain ⟨sumFinite, sumClose⟩ := (rounds_add firstNear.isFinite secondNear.isFinite).near
    (abs_le.mpr ⟨by linarith, by linarith⟩)
  obtain ⟨below, above⟩ := abs_le.mp sumClose
  exact ((rounds_half sumFinite).near (abs_le.mpr ⟨by linarith, by linarith⟩)).1

namespace Polyline

variable {α : Type} {holds : α → Prop}

/-- The turns of a walk have no other coordinates than its start and lanes. -/
theorem each_turns
    {start : Point α}
    {lanes : List (Axis × α)}
    (startEach : start.Each holds)
    (lanesEach : ∀ line ∈ lanes, holds line.2) :
    ∀ point ∈ turns start lanes, point.Each holds := by
  induction lanes generalizing start with
  | nil =>
      intro point isNone
      cases isNone
  | cons line rest inductionHypothesis =>
      rw [List.forall_mem_cons] at lanesEach
      have next := startEach.withAlong lanesEach.1 line.1
      exact List.forall_mem_cons.mpr ⟨next, inductionHypothesis next lanesEach.2⟩

/-- The corners of a walk have no other coordinates than its ends and lanes. -/
theorem each_corners
    {start finish : Point α}
    {lanes : List (Axis × α)}
    (startEach : start.Each holds)
    (finishEach : finish.Each holds)
    (lanesEach : ∀ line ∈ lanes, holds line.2) :
    ∀ point ∈ corners start finish lanes, point.Each holds := by
  have last :
      ∀ point ∈ (lanes.getLast?.map fun line => finish.withAlong line.1 line.2).toList,
        point.Each holds := by
    intro point member
    obtain ⟨line, isLast, rfl⟩ := Option.map_eq_some_iff.mp (Option.mem_toList.mp member)
    exact finishEach.withAlong (lanesEach line (List.mem_of_getLast? isLast)) line.1
  rw [corners, List.forall_mem_append, List.forall_mem_append, List.forall_mem_cons,
    List.forall_mem_singleton]
  exact ⟨⟨⟨startEach, each_turns startEach lanesEach⟩, last⟩, finishEach⟩

variable [Scalar α]

/-- The place of a label is in the middle of two corners. -/
theorem exists_midpoint_of_anchor?
    {points : List (Point α)}
    {anchor : Point α}
    (isAnchor : anchor? points = some anchor) :
    ∃ first ∈ points, ∃ second ∈ points, anchor = first.midpoint second := by
  have kept :
      ∀ (segments : List (Point α × Point α)) (best : Option (α × Point α)),
        segments.foldl longer best = best ∨
          ∃ segment ∈ segments,
            (segments.foldl longer best).map (·.2) =
              some (segment.1.midpoint segment.2) := by
    intro segments
    induction segments with
    | nil =>
        exact fun best => .inl rfl
    | cons segment rest inductionHypothesis =>
        intro best
        have step :
            longer best segment = best ∨
              (longer best segment).map (·.2) = some (segment.1.midpoint segment.2) := by
          cases best with
          | none =>
              exact .inr rfl
          | some kept =>
              by_cases isBest : Scalar.atMost (segment.1.manhattan segment.2) kept.1 = true
              · exact .inl (if_pos isBest)
              · exact .inr (congrArg (Option.map Prod.snd) (if_neg isBest))
        rw [List.foldl_cons]
        rcases inductionHypothesis (longer best segment) with same | ⟨later, member, isLater⟩
        · rw [same]
          rcases step with unchanged | found
          · exact .inl unchanged
          · exact .inr ⟨segment, List.mem_cons_self, found⟩
        · exact .inr ⟨later, List.mem_cons_of_mem _ member, isLater⟩
  rcases kept (points.zip points.tail) none with isNone | ⟨segment, member, isSegment⟩
  · rw [anchor?, isNone] at isAnchor
    cases isAnchor
  · obtain ⟨isFirst, isSecond⟩ := List.of_mem_zip member
    rw [anchor?, isSegment] at isAnchor
    exact ⟨segment.1, isFirst, segment.2, List.mem_of_mem_tail isSecond,
      (Option.some.inj isAnchor).symm⟩

end Polyline

/-- The label of a link is placed along its line. -/
theorem LinkLayout.anchor?_of_ofRoute
    {α : Type}
    [Scalar α]
    {links : List Link}
    {roads : PlacedRoads α}
    {gates : List (GatePoint α)}
    {route : Route}
    {layout : LinkLayout α}
    (succeeded : ofRoute links roads gates route = .ok layout)
    {point : Point α}
    (isAnchor : layout.labelAnchor = some point) :
    Polyline.anchor? layout.points = some point := by
  obtain ⟨link, _, succeeded⟩ := Attempt.bind_eq_ok_iff.mp succeeded
  obtain ⟨start, _, succeeded⟩ := Attempt.bind_eq_ok_iff.mp succeeded
  obtain ⟨finish, _, succeeded⟩ := Attempt.bind_eq_ok_iff.mp succeeded
  obtain ⟨lanes, _, same⟩ := Attempt.bind_eq_ok_iff.mp succeeded
  cases same
  obtain ⟨label, _, found⟩ := Option.bind_eq_some_iff.mp isAnchor
  exact found

namespace Gate

/-- No side has more gates than all routes have ends. -/
theorem length_le_of_mem_ofRoutes
    {routes : List Route}
    {group : BoxSide × List (LinkId × LinkEnd)}
    (member : group ∈ Groups.ofRoutes routes) :
    group.2.length ≤ 2 * routes.length := by
  have part : (group.2.map fun link => (group.1, link)).Sublist (Groups.ofRoutes routes).ends :=
    List.sublist_flatten_of_mem (List.mem_map_of_mem member)
  have counted := (Groups.perm_ends_ofRoutes routes).length_eq
  have both : (routes.flatMap endsOf).length = 2 * routes.length := by
    simp [List.length_flatMap, endsOf, mul_comm]
  calc
    group.2.length
      = (group.2.map fun link => (group.1, link)).length := (List.length_map _).symm
    _ ≤ (Groups.ofRoutes routes).ends.length := part.length_le
    _ = 2 * routes.length := counted.trans both

variable {gap : Float32} {visible : Bounds Float32}

/-- The side of a rectangle on the canvas is on it. -/
theorem isNear_edge
    (isOn : visible.IsOnCanvas)
    (side : Direction) :
    IsNear 0 reach (visible.edge side) := by
  cases side with
  | main =>
      exact (isOn .main).last
  | cross =>
      exact (isOn .cross).last
  | mainReverse =>
      exact (isOn .main).first
  | crossReverse =>
      exact (isOn .cross).first

/-- The gates of a box on the canvas are on the canvas, or a few grains beside it. -/
theorem isNear_spread
    {count : Nat}
    (isOn : visible.IsOnCanvas)
    (measure : IsMeasure gap)
    (few : count ≤ 2 ^ 66)
    (side : Direction) :
    ∀ point ∈ spread visible side gap count, point.Each (IsNear 0 (reach + 44 * grain)) := by
  refine List.forall_mem_map.mpr fun slot inside => ?_
  have positive := grain_pos
  have unit : grain = 2 ^ 103 := rfl
  have end_eq : reach = 2 ^ 127 - 256 * grain := rfl
  have onEdge := (isNear_edge isOn side).mono (show reach ≤ reach + 44 * grain by linarith)
  have span := isOn side.axis.other
  have ⟨_, firstLow, firstHigh⟩ := span.first
  have ⟨_, lastLow, lastHigh⟩ := span.last
  obtain ⟨center, centerClose⟩ := span.first.middle span.last isCanvas_reach
  obtain ⟨centerBelow, centerAbove⟩ := abs_le.mp centerClose
  obtain ⟨length, lengthClose⟩ := span.distance isCanvas_reach
  obtain ⟨lengthBelow, lengthAbove⟩ := abs_le.mp lengthClose
  obtain ⟨offsetFinite, offset_le⟩ :=
    Single.abs_offset_le few (List.mem_range.mp inside) length measure
  obtain ⟨offsetBelow, offsetAbove⟩ := abs_le.mp offset_le
  obtain ⟨isFinite, close⟩ := (Single.rounds_add center.isFinite offsetFinite).near
    (abs_le.mpr ⟨by linarith, by linarith⟩)
  obtain ⟨below, above⟩ := abs_le.mp close
  have beside : IsNear 0 (reach + 44 * grain) _ := ⟨isFinite, by linarith, by linarith⟩
  intro axis
  cases side with
  | main | mainReverse =>
      cases axis with
      | main =>
          exact onEdge
      | cross =>
          exact beside
  | cross | crossReverse =>
      cases axis with
      | main =>
          exact beside
      | cross =>
          exact onEdge

/-- Placing the gates of a side keeps all boxes on the canvas. -/
theorem isOnCanvas_of_placeGroup
    {before after : Placed Float32}
    {group : BoxSide × List (LinkId × LinkEnd)}
    (measure : IsMeasure gap)
    (few : group.2.length ≤ 2 ^ 66)
    (areOn : ∀ node ∈ before.nodes, node.IsOnCanvas)
    (succeeded : placeGroup gap before group = .ok after) :
    ∀ node ∈ after.nodes, node.IsOnCanvas := by
  obtain ⟨⟨id, side⟩, links⟩ := group
  simp only [placeGroup] at succeeded
  split at succeeded
  · cases succeeded
  · rename_i found isFound
    cases succeeded
    obtain ⟨isNode, _⟩ := Option.filter_eq_some_iff.mp isFound
    have foundOn := areOn found (List.mem_of_getElem? isNode)
    intro node member
    obtain ⟨position, isShown⟩ := List.mem_iff_getElem?.mp member
    rw [List.getElem?_modify] at isShown
    obtain ⟨old, isOld, rfl⟩ := Option.map_eq_some_iff.mp isShown
    have oldOn := areOn old (List.mem_of_getElem? isOld)
    split
    · refine { oldOn with gates := List.forall_mem_append.mpr ⟨oldOn.gates, ?_⟩ }
      refine List.forall_mem_map.mpr fun entry isEntry => ?_
      exact isNear_spread foundOn.visible measure few side _ (List.of_mem_zip isEntry).2
    · exact oldOn

/-- Placing all gates keeps all boxes on the canvas. -/
theorem isOnCanvas_of_place
    {routes : List Route}
    {nodes : List (NodeLayout Float32)}
    {placed : Placed Float32}
    (measure : IsMeasure gap)
    (few : routes.length ≤ 2 ^ 65)
    (areOn : ∀ node ∈ nodes, node.IsOnCanvas)
    (succeeded : place gap routes nodes = .ok placed) :
    ∀ node ∈ placed.nodes, node.IsOnCanvas := by
  have atStart : ∀ node ∈ (⟨nodes, []⟩ : Placed Float32).nodes, node.IsOnCanvas := areOn
  apply Attempt.foldlM_keeps succeeded atStart
  intro group member before after beforeOn step
  have := length_le_of_mem_ofRoutes member
  exact isOnCanvas_of_placeGroup measure (by omega) beforeOn step

end Gate

/-- The line of each lane of a road is on the canvas with the road, but for two grains. -/
theorem RoadLayout.IsOnCanvas.laneLine
    {road : RoadLayout Float32}
    (isOn : road.IsOnCanvas)
    (lane : Option Nat) :
    IsNear 0 (reach + 2 * grain) (road.laneLine lane) := by
  rw [RoadLayout.laneLine]
  split
  · rename_i found isFound
    obtain ⟨position, _, isLane⟩ := Option.bind_eq_some_iff.mp isFound
    exact (isOn.line found (List.mem_of_getElem? isLane)).mono (by linarith [grain_pos])
  · have span := isOn.bounds road.fixedAxis
    exact (span.first.middle span.last isCanvas_reach).1

/-- A box on the canvas has finite numbers only. -/
theorem NodeLayout.IsOnCanvas.each_isFinite
    {node : NodeLayout Float32}
    (isOn : node.IsOnCanvas) :
    node.Each (Scalar.isFinite · = true) where
  bounds := isOn.bounds.each_isFinite
  visible := isOn.visible.each_isFinite
  content := isOn.content.each_isFinite
  label label isLabel := isOn.label label isLabel
  gates gate isGate axis := (isOn.gates gate isGate axis).isFinite

/-- A road on the canvas has finite numbers only. -/
theorem RoadLayout.IsOnCanvas.each_isFinite
    {road : RoadLayout Float32}
    (isOn : road.IsOnCanvas) :
    road.Each (Scalar.isFinite · = true) where
  bounds := isOn.bounds.each_isFinite
  line lane isLane := (isOn.line lane isLane).isFinite
  lane lane isLane := (isOn.lane lane isLane).each_isFinite

namespace LayoutEngine

variable {input : LayoutInput Float32} {layout : Layout Float32}

/-- The size of a layout is not negative and not undefined, but may be infinite. -/
theorem isExtent_size_of_nested
    (tree : input.diagram.graph.IsTree)
    (inOrder : input.diagram.graph.IsInOrder)
    (isOver : input.table.lanes.IsOver input.diagram.graph)
    (bounded : input.IsBounded)
    (succeeded : nested defaultDepthLimit input = .ok layout) :
    layout.size.Each IsExtent := by
  obtain ⟨root, placed, measured, _, sizeEq, _⟩ := of_nested tree inOrder isOver succeeded
  rw [sizeEq]
  exact bounded.isExtent_outer measured

/-- A layout has as many boxes as the box that is laid out. -/
theorem length_nodes_of_nested
    {root : SizedBox Float32}
    {placed : Gate.Placed Float32}
    (measured : input.measure defaultDepthLimit (defaultDepthLimit + 1) NodeId.root = .ok root)
    (isPlaced :
      Gate.place input.diagram.document.gateGap input.table.routes
        (place input root).nodes = .ok placed) :
    placed.nodes.length = root.boxes := by
  have ids := congrArg List.length (Gate.isOn_of_place isPlaced).ids_eq
  rw [List.length_map, List.length_map] at ids
  exact ids.trans (SizedBox.length_nodes_place measured _ _)

/--
The boxes and roads of a layout are on the canvas, if its size leaves free a part of it for
each box and some grains for each level.
-/
theorem isOnCanvas_of_nested
    {room : Rat}
    (tree : input.diagram.graph.IsTree)
    (inOrder : input.diagram.graph.IsInOrder)
    (isOver : input.table.lanes.IsOver input.diagram.graph)
    (bounded : input.IsBounded)
    (few : input.table.routes.length ≤ 2 ^ 65)
    (succeeded : nested defaultDepthLimit input = .ok layout)
    (sizeUpTo : layout.size.Each (IsUpTo room))
    (small : room * (1 + layout.nodes.length / 2 ^ 17) + 2 ^ 118 ≤ 2 ^ 127) :
    (∀ node ∈ layout.nodes, node.IsOnCanvas) ∧ ∀ road ∈ layout.roads, road.IsOnCanvas := by
  obtain ⟨root, placed, measured, isPlaced, sizeEq, nodesEq, roadsEq, _⟩ :=
    of_nested tree inOrder isOver succeeded
  rw [sizeEq] at sizeUpTo
  rw [nodesEq, length_nodes_of_nested measured isPlaced] at small
  have unit : grain = 2 ^ 103 := rfl
  have room_nonneg : 0 ≤ room := (sizeUpTo .main).nonneg.trans (sizeUpTo .main).le
  have part_nonneg : 0 ≤ root.boxes * (room / 2 ^ 17) := by positivity
  have levels_eq : ((defaultDepthLimit + 1 : Nat) : Rat) = 1001 := by
    norm_num [defaultDepthLimit]
  have canvas :
      IsCanvas room
        (grain + root.boxes * (room / 2 ^ 17) +
            ((defaultDepthLimit + 1 : Nat) : Rat) * (32 * grain) + 64 * grain) := by
    rw [levels_eq]
    exact ⟨room_nonneg, by linarith, by linarith⟩
  have fits := bounded.fits_of_measure (by linarith) measured sizeUpTo
  have zero_eq : ∀ axis, (Point.origin : Point Float32).along axis = Scalar.zero := by
    rintro (_ | _) <;> rfl
  have outer : (Bounds.ofTopLeft .origin root.outer).IsPlaced room grain root.outer := by
    refine (Bounds.isPlaced_ofTopLeft (canvas.mono le_rfl (by linarith [canvas.slack_nonneg]))
      ?_ (fun axis => (sizeUpTo axis).isMeasure) ?_).mono (zero_add grain).le fun _ => le_rfl
    · intro axis
      rw [zero_eq]
      exact ⟨Single.isFinite_zero, by rw [Single.value_zero, neg_zero],
        by rw [Single.value_zero]; linarith⟩
    · intro axis
      rw [zero_eq, Single.value_zero]
      linarith [(sizeUpTo axis).le]
  have isOn : (place input root).IsOnCanvas :=
    fits.isOnCanvas bounded.diagram.document.laneWidth (by linarith) outer canvas
  rw [nodesEq, roadsEq]
  exact ⟨Gate.isOnCanvas_of_place bounded.diagram.document.gateGap few isOn.nodes isPlaced,
    isOn.roads⟩

/-- The links of a layout are finite if its boxes and roads are on the canvas. -/
theorem each_isFinite_link
    (tree : input.diagram.graph.IsTree)
    (inOrder : input.diagram.graph.IsInOrder)
    (routed : input.IsRouted)
    (succeeded : nested defaultDepthLimit input = .ok layout)
    (nodesOn : ∀ node ∈ layout.nodes, node.IsOnCanvas)
    (roadsOn : ∀ road ∈ layout.roads, road.IsOnCanvas)
    {link : LinkLayout Float32}
    (member : link ∈ layout.links) :
    link.Each (Scalar.isFinite · = true) := by
  obtain ⟨start, finish, lanes, atSource, atTarget, _, ofRoads, isLine⟩ :=
    exists_corners_of_mem_links tree inOrder routed succeeded member
  have of_gate :
      ∀ {id : NodeId} {point : Point Float32},
        layout.HasOneGate id link.link point → point.Each (IsNear 0 (reach + 44 * grain)) := by
    rintro id point ⟨node, gate, isShown, isGate, _, rfl, _⟩
    obtain ⟨isNode, _⟩ := Option.filter_eq_some_iff.mp isShown
    exact (nodesOn node (List.mem_of_getElem? isNode)).gates gate isGate
  have lanesEach : ∀ line ∈ lanes, IsNear 0 (reach + 44 * grain) line.2 := by
    intro line isLane
    obtain ⟨road, isRoad, lane, rfl⟩ := ofRoads line isLane
    exact ((roadsOn road isRoad).laneLine lane).mono (by linarith [grain_pos])
  have corners := Polyline.each_corners (of_gate atSource) (of_gate atTarget) lanesEach
  have points : ∀ point ∈ link.points, point.Each (IsNear 0 (reach + 44 * grain)) := by
    rw [isLine]
    exact fun point isPoint =>
      corners point ((Polyline.sublist_foldl [] _).subset isPoint)
  obtain ⟨_, _, _, _, _, _, _, areLinks⟩ := of_nested tree inOrder routed.isOver succeeded
  obtain ⟨route, _, drawn⟩ := Attempt.exists_of_mem_mapM areLinks member
  constructor
  case points =>
    exact fun point isPoint axis => (points point isPoint axis).isFinite
  case labelAnchor =>
    intro point isAnchor axis
    obtain ⟨first, isFirst, second, isSecond, rfl⟩ :=
      Polyline.exists_midpoint_of_anchor? (LinkLayout.anchor?_of_ofRoute drawn isAnchor)
    have isFinite :=
      Single.isFinite_middle (points first isFirst axis) (points second isSecond axis)
    cases axis <;> exact isFinite

/-- All numbers of a layout are finite if its size leaves a part of it free for each box. -/
theorem each_isFinite_of_nested
    {room : Rat}
    (tree : input.diagram.graph.IsTree)
    (inOrder : input.diagram.graph.IsInOrder)
    (routed : input.IsRouted)
    (bounded : input.IsBounded)
    (few : input.table.routes.length ≤ 2 ^ 65)
    (succeeded : nested defaultDepthLimit input = .ok layout)
    (sizeUpTo : layout.size.Each (IsUpTo room))
    (small : room * (1 + layout.nodes.length / 2 ^ 17) + 2 ^ 118 ≤ 2 ^ 127) :
    layout.Each (Scalar.isFinite · = true) := by
  obtain ⟨nodesOn, roadsOn⟩ :=
    isOnCanvas_of_nested tree inOrder routed.isOver bounded few succeeded sizeUpTo small
  have linkBorder : layout.linkBorder = input.diagram.document.linkBorder := by
    obtain ⟨root, _, succeeded⟩ := Attempt.bind_eq_ok_iff.mp succeeded
    obtain ⟨placed, _, succeeded⟩ := Attempt.bind_eq_ok_iff.mp succeeded
    obtain ⟨links, _, same⟩ := Attempt.bind_eq_ok_iff.mp succeeded
    cases same
    rfl
  exact {
    size := fun axis => (sizeUpTo axis).isFinite
    linkBorder := linkBorder ▸ bounded.diagram.document.linkBorder.isFinite
    nodes := fun node isNode => (nodesOn node isNode).each_isFinite
    links := fun link isLink =>
      each_isFinite_link tree inOrder routed succeeded nodesOn roadsOn isLink
    roads := fun road isRoad => (roadsOn road isRoad).each_isFinite }

end LayoutEngine

end BoxDiagram
