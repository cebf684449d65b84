import BoxDiagram.Layout.Engine
import BoxDiagram.Proofs.Lane.Table
import BoxDiagram.Proofs.Layout.Gate
import BoxDiagram.Proofs.Layout.Placement
import BoxDiagram.Proofs.Layout.Polyline
import Mathlib.Data.List.ReduceOption

namespace BoxDiagram

/-!
# Layouts of diagrams

The boxes of a diagram are placed in the order of their numbers and its roads in
the order of the lane table, each of them once.  A layout thus holds all boxes and
roads as they were placed, and all links of the table.
-/

variable {α : Type}

/-- What stands at a place of a paired list has its partner at the same place of the other. -/
theorem exists_getElem?_of_forall₂
    {β γ : Type}
    {related : β → γ → Prop}
    {firsts : List β}
    {seconds : List γ}
    {index : Nat}
    {first : β}
    (paired : List.Forall₂ related firsts seconds)
    (isFirst : firsts[index]? = some first) :
    ∃ second, seconds[index]? = some second ∧ related first second := by
  obtain ⟨sameLength, atEach⟩ := List.forall₂_iff_get.mp paired
  obtain ⟨inside, rfl⟩ := List.getElem?_eq_some_iff.mp isFirst
  exact ⟨_, List.getElem?_eq_getElem (sameLength ▸ inside),
    atEach index inside (sameLength ▸ inside)⟩

namespace Placement

/-- Boxes that are entered at consecutive numbers follow what stands before these. -/
theorem toList_foldl_setIfInBounds
    {nodes : List (NodeLayout α)}
    {slots : Array (Option (NodeLayout α))}
    {start : Nat}
    (numbered : nodes.map (·.id) = List.range' start nodes.length)
    (counted : slots.size = start + nodes.length) :
    (nodes.foldl (fun slots node => slots.setIfInBounds node.id (some node)) slots).toList =
      slots.toList.take start ++ nodes.map some := by
  induction nodes generalizing slots start with
  | nil =>
      have whole : slots.toList.length ≤ start := by
        simp [counted]
      rw [List.foldl_nil, List.map_nil, List.append_nil, List.take_of_length_le whole]
  | cons node rest inductionHypothesis =>
      rw [List.map_cons, List.length_cons, List.range'_succ, List.cons.injEq] at numbered
      obtain ⟨isStart, laterNumbered⟩ := numbered
      rw [List.length_cons] at counted
      have inside : start < slots.toList.length := by
        rw [Array.length_toList]
        omega
      have entered :
          (slots.toList.set start (some node)).take (start + 1) =
            slots.toList.take start ++ [some node] := by
        rw [List.take_add_one, List.take_set_of_le (Nat.le_refl start),
          List.getElem?_set_self inside]
        rfl
      rw [List.foldl_cons,
        inductionHypothesis laterNumbered (by rw [Array.size_setIfInBounds]; omega), isStart,
        Array.toList_setIfInBounds, entered, List.append_assoc]
      rfl

/-- Boxes that are placed in the order of their numbers stay as they are. -/
theorem nodesByNumber_eq
    {placement : Placement α}
    {size : Nat}
    (inOrder : placement.nodes.map (·.id) = List.range size) :
    placement.nodesByNumber size = placement.nodes := by
  have counted : placement.nodes.length = size := by
    simpa using congrArg List.length inOrder
  have fromStart : placement.nodes.map (·.id) = List.range' 0 placement.nodes.length := by
    rw [inOrder, List.range_eq_range', counted]
  have allCounted :
      (Array.replicate size (none : Option (NodeLayout α))).size =
        0 + placement.nodes.length := by
    rw [Array.size_replicate, counted, Nat.zero_add]
  have entered := toList_foldl_setIfInBounds fromStart allCounted
  rw [nodesByNumber, entered, List.take_zero, List.nil_append, List.reduceOption,
    List.filterMap_map]
  exact List.filterMap_some

/-- The roads of the table are listed with their places. -/
theorem toList_roadsOf
    {placement : Placement α}
    {table : RoadTable}
    (sameRoads : placement.roads.map (·.road) = table.lanes.keys) :
    (placement.roadsOf table).toList =
      placement.roads.map fun layout => (layout.road, some layout) := by
  have noPlaces :
      (placement.roads.map fun layout => (layout.road, some layout)).map (·.1) =
        (table.lanes.map fun _ => (none : Option (RoadLayout α))).keys := by
    rw [List.map_map, RoadMap.keys_congr (RoadMap.sizes_map table.lanes _)]
    exact sameRoads
  rw [roadsOf, ← RoadMap.toList_foldl_set noPlaces, List.foldl_map]

end Placement

/-- A map over a graph lists the roads of its boxes in order. -/
theorem RoadMap.IsOver.keys_eq_flatMap
    {β : Type}
    {graph : Graph α}
    {roads : RoadMap β}
    (isOver : roads.IsOver graph)
    (idsEq : graph.nodes.toList.map (·.id) = List.range graph.size) :
    roads.keys = graph.nodes.toList.flatMap Road.ofBox := by
  have own :
      ∀ entry ∈ graph.nodes.toList.zipIdx,
        (List.range (ContainerRoads.ofNode entry.1 ()).main.size).map (Road.main entry.2) ++
            (List.range (ContainerRoads.ofNode entry.1 ()).cross.size).map (Road.cross entry.2) =
          Road.ofBox entry.1 := by
    rintro ⟨node, position⟩ member
    have atPosition := List.mem_zipIdx_iff_getElem?.mp member
    have sameId : node.id = position := by
      have numbered := congrArg (·[position]?) idsEq
      simp only [List.getElem?_map, atPosition, Option.map_some] at numbered
      rw [List.getElem?_range (by
        simpa [Graph.size] using (List.getElem?_eq_some_iff.mp atPosition).1)] at numbered
      exact Option.some.inj numbered
    subst sameId
    rw [Road.ofBox, ContainerRoads.ofNode]
    cases node.isContainer with
    | false =>
        rfl
    | true =>
        simp [Road.ofContainer, List.range_succ]
  calc
    roads.keys
      = graph.nodes.toList.zipIdx.flatMap fun entry =>
          (List.range (ContainerRoads.ofNode entry.1 ()).main.size).map (Road.main entry.2) ++
            (List.range (ContainerRoads.ofNode entry.1 ()).cross.size).map
              (Road.cross entry.2) := by
        rw [RoadMap.keys_congr isOver, RoadMap.keys_eq, RoadMap.sizes, RoadMap.ofGraph,
          Array.toList_map, List.map_map, List.zipIdx_map, List.flatMap_map]
        rfl
    _ = graph.nodes.toList.zipIdx.flatMap fun entry => Road.ofBox entry.1 :=
        List.flatMap_congr own
    _ = graph.nodes.toList.flatMap Road.ofBox := by
        conv_rhs => rw [← List.zipIdx_map_fst 0 graph.nodes.toList, List.flatMap_map]

/-- What routes need so that they can be drawn in a diagram. -/
structure LayoutInput.IsRouted (input : LayoutInput α) : Prop where
  isOver : input.table.lanes.IsOver input.diagram.graph
  joined : Gate.AreJoined input.diagram.graph.size input.table.routes
  linked : ∀ route ∈ input.table.routes, route.link < input.diagram.links.length
  travelled : ∀ route ∈ input.table.routes, route.passages ≠ []
  known :
    ∀ route ∈ input.table.routes, ∀ road ∈ route.roads, input.diagram.graph.HasRoad road

/-- A box has a gate for a link, and no other one. -/
def Layout.HasOneGate
    (layout : Layout α)
    (id : NodeId)
    (link : LinkId)
    (point : Point α) : Prop :=
  ∃ node gate, layout.node? id = some node ∧ gate ∈ node.gates ∧ gate.link = link ∧
    gate.point = point ∧ ∀ other ∈ node.gates, other.link = link → other = gate

/-- A box has a gate for a link at one of its sides. -/
def Layout.HasGateAt
    (layout : Layout α)
    (side : BoxSide)
    (link : LinkId)
    (point : Point α) : Prop :=
  ∃ node gate, layout.node? side.1 = some node ∧ gate ∈ node.gates ∧ gate.link = link ∧
    gate.side = side.2 ∧ gate.point = point

/-- The lane of a passage has its line at a coordinate along an axis. -/
def Layout.HasLine
    [Scalar α]
    (layout : Layout α)
    (passage : Passage)
    (line : Axis × α) : Prop :=
  ∃ band ∈ layout.roads, band.road = passage.road ∧
    line = (band.fixedAxis, band.laneLine passage.lane)

/-- A link is drawn from gate to gate along the lanes of its route. -/
structure Layout.Draws
    [Scalar α]
    (layout : Layout α)
    (route : Route)
    (line : LinkLayout α)
    (start finish : Point α)
    (lanes : List (Axis × α)) : Prop where
  link_eq : line.link = route.link
  source_eq : line.source = route.source
  target_eq : line.target = route.target
  sourceGate : layout.HasOneGate route.source route.link start
  targetGate : layout.HasOneGate route.target route.link finish
  sourceSide : layout.HasGateAt (route.source, route.sourceExit) route.link start
  targetSide : layout.HasGateAt (route.target, route.targetExit) route.link finish
  ride : List.Forall₂ layout.HasLine route.passages lanes
  points_eq : line.points = Polyline.simplify (Polyline.corners start finish lanes)

namespace LayoutEngine

variable [Scalar α] {input : LayoutInput α} {depthLimit : Nat}

/-- All boxes and roads of a diagram are placed once, in order. -/
theorem place_inOrder
    {levels : Nat}
    {root : SizedBox α}
    (tree : input.diagram.graph.IsTree)
    (inOrder : input.diagram.graph.IsInOrder)
    (isOver : input.table.lanes.IsOver input.diagram.graph)
    (measured : input.measure depthLimit levels NodeId.root = .ok root) :
    (place input root).nodes.map (·.id) = List.range input.diagram.graph.size ∧
      (place input root).roads.map (·.road) = input.table.lanes.keys := by
  obtain ⟨ids, roads⟩ :=
    inOrder.subtree.of_place tree input.diagram.document.laneWidth measured
      (.ofTopLeft .origin root.outer)
  exact ⟨ids.trans inOrder.ids_eq, roads.trans (isOver.keys_eq_flatMap inOrder.ids_eq).symm⟩

/-- A layout is as large as the outermost box. -/
theorem exists_root_of_nested
    {layout : Layout α}
    (succeeded : nested depthLimit input = .ok layout) :
    ∃ root, input.measure depthLimit (depthLimit + 1) NodeId.root = .ok root ∧
      layout.size = root.outer := by
  obtain ⟨root, measured, succeeded⟩ := Attempt.bind_eq_ok_iff.mp succeeded
  obtain ⟨placed, _, succeeded⟩ := Attempt.bind_eq_ok_iff.mp succeeded
  obtain ⟨links, _, same⟩ := Attempt.bind_eq_ok_iff.mp succeeded
  cases same
  exact ⟨root, measured, rfl⟩

/-- A layout holds the boxes with their gates, the roads as they were placed, and all links. -/
theorem of_nested
    {layout : Layout α}
    (tree : input.diagram.graph.IsTree)
    (inOrder : input.diagram.graph.IsInOrder)
    (isOver : input.table.lanes.IsOver input.diagram.graph)
    (succeeded : nested depthLimit input = .ok layout) :
    ∃ root placed,
      input.measure depthLimit (depthLimit + 1) NodeId.root = .ok root ∧
        Gate.place input.diagram.document.gateGap input.table.routes
          (place input root).nodes = .ok placed ∧
          layout.size = root.outer ∧ layout.nodes = placed.nodes ∧
            layout.roads = (place input root).roads ∧
              input.table.routes.mapM
                (LinkLayout.ofRoute input.diagram.links
                  ((place input root).roadsOf input.table) placed.points) = .ok layout.links := by
  obtain ⟨root, measured, succeeded⟩ := Attempt.bind_eq_ok_iff.mp succeeded
  obtain ⟨ids, roads⟩ := place_inOrder tree inOrder isOver measured
  obtain ⟨placed, isPlaced, succeeded⟩ := Attempt.bind_eq_ok_iff.mp succeeded
  obtain ⟨links, areLinks, same⟩ := Attempt.bind_eq_ok_iff.mp succeeded
  cases same
  rw [Placement.nodesByNumber_eq ids] at isPlaced
  refine ⟨root, placed, measured, isPlaced, rfl, rfl, ?_, areLinks⟩
  simp [Placement.toList_roadsOf roads, List.filterMap_map]

/-- A layout holds all boxes, links and roads once, in order. -/
theorem inOrder_of_nested
    {layout : Layout α}
    (tree : input.diagram.graph.IsTree)
    (inOrder : input.diagram.graph.IsInOrder)
    (isOver : input.table.lanes.IsOver input.diagram.graph)
    (succeeded : nested depthLimit input = .ok layout) :
    layout.nodes.map (·.id) = List.range input.diagram.graph.size ∧
      layout.links.map (·.link) = input.table.routes.map (·.link) ∧
        layout.roads.map (·.road) = input.table.lanes.keys := by
  obtain ⟨root, placed, measured, isPlaced, _, nodesEq, roadsEq, areLinks⟩ :=
    of_nested tree inOrder isOver succeeded
  obtain ⟨ids, roads⟩ := place_inOrder tree inOrder isOver measured
  refine ⟨?_, ?_, roadsEq ▸ roads⟩
  · rw [nodesEq, (Gate.isOn_of_place isPlaced).ids_eq, ids]
  · apply Attempt.map_eq_of_mapM areLinks
    intro route link drawn
    obtain ⟨_, _, _, _, _, _, _, sameLink, _⟩ := LinkLayout.of_ofRoute drawn
    exact sameLink

/-- Each route leads from box to box of the placement. -/
theorem joined_place
    {levels : Nat}
    {root : SizedBox α}
    (tree : input.diagram.graph.IsTree)
    (inOrder : input.diagram.graph.IsInOrder)
    (routed : input.IsRouted)
    (measured : input.measure depthLimit levels NodeId.root = .ok root) :
    Gate.AreJoined (place input root).nodes.length input.table.routes := by
  obtain ⟨ids, _⟩ := place_inOrder tree inOrder routed.isOver measured
  have counted : (place input root).nodes.length = input.diagram.graph.size := by
    simpa using congrArg List.length ids
  exact counted ▸ routed.joined

/-- The gates of all routes are placed on the boxes, and are the recorded ones. -/
theorem place_gates
    {levels : Nat}
    {root : SizedBox α}
    (tree : input.diagram.graph.IsTree)
    (inOrder : input.diagram.graph.IsInOrder)
    (routed : input.IsRouted)
    (measured : input.measure depthLimit levels NodeId.root = .ok root) :
    Gate.place input.diagram.document.gateGap input.table.routes (place input root).nodes =
      .ok (Gate.Placed.record ⟨(place input root).nodes, []⟩
        (Gate.recordsOfRoutes input.diagram.document.gateGap input.table.routes
          (place input root).nodes)) := by
  obtain ⟨ids, _⟩ := place_inOrder tree inOrder routed.isOver measured
  have counted : (place input root).nodes.length = input.diagram.graph.size := by
    simpa using congrArg List.length ids
  exact Gate.place_eq input.diagram.document.gateGap (counted ▸ ids)
    (joined_place tree inOrder routed measured)

/-- Each link of a layout is drawn along its route. -/
theorem exists_draws
    {layout : Layout α}
    (tree : input.diagram.graph.IsTree)
    (inOrder : input.diagram.graph.IsInOrder)
    (routed : input.IsRouted)
    (succeeded : nested depthLimit input = .ok layout)
    {position : Nat}
    {route : Route}
    {link : LinkLayout α}
    (isRoute : input.table.routes[position]? = some route)
    (isLink : layout.links[position]? = some link) :
    ∃ start finish lanes, layout.Draws route link start finish lanes := by
  obtain ⟨root, placed, measured, isPlaced, _, nodesEq, roadsEq, areLinks⟩ :=
    of_nested tree inOrder routed.isOver succeeded
  obtain ⟨ids, roads⟩ := place_inOrder tree inOrder routed.isOver measured
  have joined := joined_place tree inOrder routed measured
  have recorded :=
    Except.ok.inj (isPlaced.symm.trans (place_gates tree inOrder routed measured))
  have placedIds := (Gate.isOn_of_place isPlaced).ids_eq.trans ids
  have noGates : ∀ node ∈ (place input root).nodes, node.gates = [] :=
    fun _ isNode => SizedBox.gates_eq_nil_of_mem_place isNode
  obtain ⟨start, finish, lanes, isStart, isFinish, areLanes, isLine, sameLink, sameSource,
    sameTarget⟩ := LinkLayout.of_ofRoute (Attempt.step_of_mapM areLinks isRoute isLink)
  have has_gate :
      ∀ (linkEnd : LinkEnd) (point : Point α),
        placed.points.lookup (route.link, linkEnd) = some point →
          layout.HasOneGate (Gate.sideOf route linkEnd).1 route.link point ∧
            layout.HasGateAt (Gate.sideOf route linkEnd) route.link point := by
    intro linkEnd point isFound
    obtain ⟨gate, node, isGate, isNode, onNode, ofLink, onSide, isOnly⟩ :=
      Gate.exists_gate input.diagram.document.gateGap joined noGates recorded
        (List.mem_of_getElem? isRoute) linkEnd
    have sameId := NodeLayout.id_eq_of_getElem? placedIds isNode
    have isShown : layout.node? (Gate.sideOf route linkEnd).1 = some node := by
      simp [Layout.node?, nodesEq, isNode, sameId]
    rw [isGate] at isFound
    cases isFound
    exact ⟨⟨node, gate, isShown, onNode, ofLink, rfl, isOnly⟩,
      ⟨node, gate, isShown, onNode, ofLink, onSide, rfl⟩⟩
  have has_line :
      ∀ {passage : Passage} {line : Axis × α},
        LinkLayout.lane ((place input root).roadsOf input.table) route.link passage = .ok line →
          layout.HasLine passage line := by
    intro passage line ofPassage
    obtain ⟨road, isFound, rfl⟩ := LinkLayout.lane_eq_ok_iff.mp ofPassage
    have listed := RoadMap.mem_toList_iff.mpr isFound
    rw [Placement.toList_roadsOf roads] at listed
    obtain ⟨shown, isShown, same⟩ := List.mem_map.mp listed
    obtain rfl : shown = road := Option.some.inj (congrArg Prod.snd same)
    exact ⟨shown, roadsEq ▸ isShown, congrArg Prod.fst same, rfl⟩
  obtain ⟨sourceGate, sourceSide⟩ := has_gate .source start isStart
  obtain ⟨targetGate, targetSide⟩ := has_gate .target finish isFinish
  exact ⟨start, finish, lanes, sameLink, sameSource, sameTarget, sourceGate, targetGate,
    sourceSide, targetSide, (Attempt.mapM_eq_ok_iff.mp areLanes).imp fun _ _ => has_line, isLine⟩

/-- A layout has a line for each route. -/
theorem length_links_of_nested
    {layout : Layout α}
    (tree : input.diagram.graph.IsTree)
    (inOrder : input.diagram.graph.IsInOrder)
    (isOver : input.table.lanes.IsOver input.diagram.graph)
    (succeeded : nested depthLimit input = .ok layout) :
    layout.links.length = input.table.routes.length := by
  obtain ⟨_, _, _, _, _, _, _, areLinks⟩ := of_nested tree inOrder isOver succeeded
  exact Attempt.length_of_mapM areLinks

/-- The line of a link runs from its one gate to the other one along lanes of roads. -/
theorem exists_corners_of_mem_links
    {layout : Layout α}
    (tree : input.diagram.graph.IsTree)
    (inOrder : input.diagram.graph.IsInOrder)
    (routed : input.IsRouted)
    (succeeded : nested depthLimit input = .ok layout)
    {link : LinkLayout α}
    (member : link ∈ layout.links) :
    ∃ start finish lanes, layout.HasOneGate link.source link.link start ∧
      layout.HasOneGate link.target link.link finish ∧ lanes ≠ [] ∧
        (∀ line ∈ lanes, ∃ road ∈ layout.roads, ∃ lane,
          line = (road.fixedAxis, road.laneLine lane)) ∧
          link.points = Polyline.simplify (Polyline.corners start finish lanes) := by
  obtain ⟨position, isLink⟩ := List.mem_iff_getElem?.mp member
  have inside := (List.getElem?_eq_some_iff.mp isLink).1
  rw [length_links_of_nested tree inOrder routed.isOver succeeded] at inside
  obtain ⟨route, isRoute⟩ : ∃ route, input.table.routes[position]? = some route :=
    ⟨_, List.getElem?_eq_getElem inside⟩
  obtain ⟨start, finish, lanes, drawn⟩ :=
    exists_draws tree inOrder routed succeeded isRoute isLink
  refine ⟨start, finish, lanes, ?_, ?_, ?_, ?_, drawn.points_eq⟩
  · rw [drawn.source_eq, drawn.link_eq]
    exact drawn.sourceGate
  · rw [drawn.target_eq, drawn.link_eq]
    exact drawn.targetGate
  · intro noLanes
    have sameLength := drawn.ride.length_eq
    rw [noLanes] at sameLength
    exact routed.travelled route (List.mem_of_getElem? isRoute)
      (List.eq_nil_of_length_eq_zero sameLength)
  · intro line isLane
    obtain ⟨position, isLine⟩ := List.mem_iff_getElem?.mp isLane
    obtain ⟨_, _, band, isBand, _, same⟩ :=
      exists_getElem?_of_forall₂ drawn.ride.flip isLine
    exact ⟨band, isBand, _, same⟩

/-- A diagram whose routes can be drawn is laid out. -/
theorem exists_nested
    (tree : input.diagram.graph.IsTree)
    (inOrder : input.diagram.graph.IsInOrder)
    (routed : input.IsRouted)
    (enough : maxNesting ≤ depthLimit) :
    ∃ layout, nested depthLimit input = .ok layout := by
  obtain ⟨node, isRoot⟩ := tree.root
  obtain ⟨root, measured⟩ :=
    LayoutInput.exists_measure tree routed.isOver depthLimit isRoot
      (show maxNesting < node.depth + (depthLimit + 1) by omega)
  obtain ⟨ids, roads⟩ := place_inOrder tree inOrder routed.isOver measured
  have joined := joined_place tree inOrder routed measured
  have isPlaced := place_gates tree inOrder routed measured
  have noGates : ∀ placed ∈ (place input root).nodes, placed.gates = [] :=
    fun _ member => SizedBox.gates_eq_nil_of_mem_place member
  have drawn :
      ∀ route ∈ input.table.routes,
        ∃ link,
          LinkLayout.ofRoute input.diagram.links ((place input root).roadsOf input.table)
            (Gate.Placed.record ⟨(place input root).nodes, []⟩
              (Gate.recordsOfRoutes input.diagram.document.gateGap input.table.routes
                (place input root).nodes)).points route = .ok link := by
    intro route isRoute
    refine LinkLayout.exists_ofRoute (routed.linked route isRoute) ?_ ?_
    · intro linkEnd
      obtain ⟨gate, _, isFound, _⟩ :=
        Gate.exists_gate input.diagram.document.gateGap joined noGates rfl isRoute linkEnd
      rw [isFound]
      rfl
    · intro road member
      have isKey : road ∈ (place input root).roads.map (·.road) := by
        rw [roads]
        obtain ⟨lanes, isFound⟩ :=
          routed.isOver.exists_get?_iff.mpr (routed.known route isRoute road member)
        exact List.mem_map.mpr ⟨(road, lanes), RoadMap.mem_toList_iff.mpr isFound, rfl⟩
      obtain ⟨layout, isLayout, rfl⟩ := List.mem_map.mp isKey
      refine ⟨layout, RoadMap.mem_toList_iff.mp ?_⟩
      rw [Placement.toList_roadsOf roads]
      exact List.mem_map.mpr ⟨layout, isLayout, rfl⟩
  obtain ⟨links, areLinks⟩ := Attempt.exists_mapM_eq_ok drawn
  exact ⟨_, by
    rw [nested, measured, Attempt.ok_bind]
    dsimp only
    rw [Placement.nodesByNumber_eq ids, isPlaced, Attempt.ok_bind, areLinks, Attempt.ok_bind]
    rfl⟩

end LayoutEngine

end BoxDiagram
