import BoxDiagram.Layout.Placement
import BoxDiagram.Proofs.Graph.Subtree
import BoxDiagram.Proofs.Layout.Sizing

namespace BoxDiagram

/-!
# Placed boxes and roads

Placing a sized box places each box below it once and each of its roads once, in
the order of the boxes' numbers.
-/

variable {α : Type}

mutual

/-- The number of boxes that a box consists of, with itself. -/
def SizedBox.boxes : SizedBox α → Nat
  | .cell .. => 1
  | .container _ _ _ _ children => SizedBox.boxesOfAll children + 1

/-- The number of boxes that a list of boxes consists of. -/
def SizedBox.boxesOfAll : List (SizedBox α) → Nat
  | [] => 0
  | box :: rest => box.boxes + SizedBox.boxesOfAll rest

end

namespace SizedBox

/-- A box consists of itself at least. -/
theorem boxes_pos
    (box : SizedBox α) :
    0 < box.boxes := by
  cases box <;> simp [boxes]

/-- Each of several boxes consists of itself at least. -/
theorem length_le_boxesOfAll
    (boxes : List (SizedBox α)) :
    boxes.length ≤ boxesOfAll boxes := by
  induction boxes with
  | nil => exact Nat.zero_le _
  | cons box rest inductionHypothesis =>
      have := box.boxes_pos
      simp only [List.length_cons, boxesOfAll]
      omega

/-- Beside each child of a container there are at least as many boxes as other children. -/
theorem boxes_add_length_le
    {box : SizedBox α}
    {boxes : List (SizedBox α)}
    (member : box ∈ boxes) :
    box.boxes + boxes.length ≤ boxesOfAll boxes + 1 := by
  induction boxes with
  | nil => cases member
  | cons other rest inductionHypothesis =>
      have := other.boxes_pos
      simp only [List.length_cons, boxesOfAll]
      rcases List.mem_cons.mp member with rfl | isLater
      · have := length_le_boxesOfAll rest
        omega
      · have := inductionHypothesis isLater
        omega

end SizedBox

variable [Scalar α]

/-- Alternating gaps and items have one stretch each. -/
theorem Stretch.length_alternate
    (offset : α)
    (gaps items : List α) :
    (alternate offset gaps items).1.length = gaps.length ∧
      (alternate offset gaps items).2.length = min gaps.length items.length := by
  induction gaps generalizing offset items with
  | nil =>
      simp [alternate]
  | cons gap rest inductionHypothesis =>
      cases items with
      | nil =>
          obtain ⟨gapCount, itemCount⟩ := inductionHypothesis (offset + gap) []
          simp [alternate, gapCount, itemCount]
      | cons item others =>
          obtain ⟨gapCount, itemCount⟩ := inductionHypothesis (offset + gap + item) others
          simp [alternate, gapCount, itemCount]

namespace SizedBox

/-- A container arranges all of its gaps. -/
theorem length_gaps_arrangement
    (laneWidth : α)
    (node : Node α)
    (roads : OwnRoads)
    (children : List (SizedBox α))
    (body : Bounds α) :
    (arrangement laneWidth node roads children body).gaps.length = roads.gaps.length := by
  simp [arrangement, Body.arrange, (Stretch.length_alternate _ _ _).1]

/-- A container arranges all of its children. -/
theorem length_items_arrangement
    {roads : OwnRoads}
    {children : List (SizedBox α)}
    (laneWidth : α)
    (node : Node α)
    (enough : roads.gaps.length = children.length + 1)
    (body : Bounds α) :
    (arrangement laneWidth node roads children body).items.length = children.length := by
  simp [arrangement, Body.arrange, (Stretch.length_alternate _ _ _).2, enough]

end SizedBox

namespace SizedBox

/-- Boxes with a rectangle each are placed with all boxes in them. -/
theorem length_nodes_placeAll
    {laneWidth : α}
    {boxes : List (SizedBox α)}
    {bounds : List (Bounds α)}
    (counted : bounds.length = boxes.length)
    (each :
      ∀ box ∈ boxes, ∀ outer, (box.place laneWidth outer).nodes.length = box.boxes) :
    (placeAll laneWidth boxes bounds).nodes.length = boxesOfAll boxes := by
  induction boxes generalizing bounds with
  | nil => rfl
  | cons box rest inductionHypothesis =>
      cases bounds with
      | nil => cases counted
      | cons outer others =>
          rw [List.forall_mem_cons] at each
          have later := inductionHypothesis (Nat.succ.inj counted) each.2
          simp [placeAll, Placement.append, boxesOfAll, each.1, later]

/-- A sized box is placed with all boxes in it. -/
theorem length_nodes_place
    {input : LayoutInput α}
    {limit levels : Nat}
    {id : NodeId}
    {box : SizedBox α}
    (measured : input.measure limit levels id = .ok box)
    (laneWidth : α)
    (outer : Bounds α) :
    (box.place laneWidth outer).nodes.length = box.boxes := by
  induction levels generalizing id box outer with
  | zero => cases measured
  | succ levels inductionHypothesis =>
      obtain ⟨node, _, ⟨_, rfl⟩ | ⟨_, children, roads, childrenFound, roadsFound, rfl⟩⟩ :=
        LayoutInput.measure_cases measured
      · rfl
      · have enough : roads.gaps.length = children.length + 1 := by
          rw [LayoutInput.length_gaps_of_ownRoads roadsFound,
            Attempt.length_of_mapM childrenFound]
        have below := length_nodes_placeAll
          (length_items_arrangement laneWidth node enough
            ((BoxBounds.ofOuter node.spacing outer).body (input.label? node.id)))
          fun child member => by
            obtain ⟨childId, _, isChild⟩ := Attempt.exists_of_mem_mapM childrenFound member
            exact inductionHypothesis isChild
        simp [LayoutInput.sizedContainer, place, Placement.append, boxes, below, Nat.add_comm]

end SizedBox

mutual

/-- A placed box has no gates yet. -/
theorem SizedBox.gates_eq_nil_of_mem_place
    {laneWidth : α}
    {node : NodeLayout α} :
    ∀ {box : SizedBox α} {outer : Bounds α},
      node ∈ (box.place laneWidth outer).nodes → node.gates = []
  | .cell .., _, member => by
      rw [List.mem_singleton.mp member]
      rfl
  | .container .., _, member => by
      rcases List.mem_append.mp member with isOwn | isBelow
      · rw [List.mem_singleton.mp isOwn]
        rfl
      · exact gates_eq_nil_of_mem_placeAll isBelow

/-- Boxes are placed without gates. -/
theorem SizedBox.gates_eq_nil_of_mem_placeAll
    {laneWidth : α}
    {node : NodeLayout α} :
    ∀ {boxes : List (SizedBox α)} {bounds : List (Bounds α)},
      node ∈ (SizedBox.placeAll laneWidth boxes bounds).nodes → node.gates = []
  | [], _, member => by
      cases member
  | _ :: _, [], member => by
      cases member
  | _ :: _, _ :: _, member => by
      rcases List.mem_append.mp member with isFirst | isLater
      · exact gates_eq_nil_of_mem_place isFirst
      · exact gates_eq_nil_of_mem_placeAll isLater

end

/-- The roads of a container are placed in order. -/
theorem OwnRoads.roads_layouts
    {roads : OwnRoads}
    {node : Node α}
    {arrangement : Arrangement α}
    (laneWidth : α)
    (gapCount : roads.gaps.length = node.children.length + 1)
    (placeCount : arrangement.gaps.length = roads.gaps.length) :
    (roads.layouts laneWidth node arrangement).map (·.road) = Road.ofContainer node := by
  have pairCount :
      (roads.gaps.zip arrangement.gaps).length = node.mainAvenues := by
    rw [List.length_zip, placeCount, gapCount, Nat.min_self, Node.mainAvenues]
  rw [OwnRoads.layouts, List.map_append, List.map_map,
    RoadMap.map_zipIdx_eq_map_range fun _ _ => rfl, pairCount]
  rfl

/-- A road of a container, with its lanes and its place in an arrangement. -/
inductive OwnRoads.Places
    (roads : OwnRoads)
    (container : NodeId)
    (arrangement : Arrangement α) : Road → RoadLanes → Bounds α → Prop
  | gap
      {avenue : Nat}
      {lanes : RoadLanes}
      {area : Bounds α}
      (isLanes : roads.gaps[avenue]? = some lanes)
      (isArea : arrangement.gaps[avenue]? = some area) :
      Places roads container arrangement (.main container avenue) lanes area
  | startEdge :
      Places roads container arrangement (.cross container 0) roads.startEdge
        arrangement.startEdge
  | endEdge :
      Places roads container arrangement (.cross container 1) roads.endEdge arrangement.endEdge

/-- A container places no roads but its own. -/
theorem OwnRoads.exists_places_of_mem_layouts
    {roads : OwnRoads}
    {laneWidth : α}
    {node : Node α}
    {arrangement : Arrangement α}
    {band : RoadLayout α}
    (member : band ∈ roads.layouts laneWidth node arrangement) :
    ∃ road lanes area, roads.Places node.id arrangement road lanes area ∧
      band = .within laneWidth node.itemFrame road lanes area := by
  rw [OwnRoads.layouts] at member
  rcases List.mem_append.mp member with isGap | isEdge
  · obtain ⟨⟨⟨lanes, area⟩, avenue⟩, listed, rfl⟩ := List.mem_map.mp isGap
    obtain ⟨isLanes, isArea⟩ :=
      List.getElem?_zip_eq_some.mp (List.mem_zipIdx_iff_getElem?.mp listed)
    exact ⟨_, lanes, area, .gap isLanes isArea, rfl⟩
  · rcases List.mem_cons.mp isEdge with rfl | isEnd
    · exact ⟨_, _, _, .startEdge, rfl⟩
    · exact ⟨_, _, _, .endEdge, List.mem_singleton.mp isEnd⟩

mutual

/-- Placing a box places each box below it and each of its roads once, in order. -/
theorem Graph.Subtree.of_place
    {input : LayoutInput α}
    {limit : Nat}
    (tree : input.diagram.graph.IsTree)
    (laneWidth : α) :
    ∀ {id : NodeId} {nodes : List (Node α)},
      input.diagram.graph.Subtree id nodes →
        ∀ {levels : Nat} {box : SizedBox α}, input.measure limit levels id = .ok box →
          ∀ outer : Bounds α,
            (box.place laneWidth outer).nodes.map (·.id) = nodes.map (·.id) ∧
              (box.place laneWidth outer).roads.map (·.road) = nodes.flatMap Road.ofBox
  | _, _, .node _ _, 0, _, measured, _ => by
      cases measured
  | _, _, @Graph.Subtree.node _ _ _ node inner found below, levels + 1, _, measured,
      outer => by
      obtain ⟨other, otherFound, cellOrContainer⟩ := LayoutInput.measure_cases measured
      obtain rfl := Option.some.inj (otherFound.symm.trans found)
      rcases cellOrContainer with
        ⟨isCell, rfl⟩ | ⟨isContainer, children, roads, childrenFound, roadsFound, rfl⟩
      · have none_below : inner = [] :=
          below.eq_nil_of_ids_eq_nil (tree.children_of_cell found isCell)
        simp [LayoutInput.sizedCell, SizedBox.place, BoxBounds.layout, Road.ofBox, isCell,
          none_below]
      · have gapCount := LayoutInput.length_gaps_of_ownRoads roadsFound
        have childCount := Attempt.length_of_mapM childrenFound
        obtain ⟨belowIds, belowRoads⟩ :=
          below.of_placeAll tree laneWidth childrenFound _
            (SizedBox.length_items_arrangement laneWidth other
              (show roads.gaps.length = children.length + 1 by rw [gapCount, childCount])
              ((BoxBounds.ofOuter other.spacing outer).body (input.label? other.id)))
        have ownRoads :=
          OwnRoads.roads_layouts laneWidth gapCount
            (SizedBox.length_gaps_arrangement laneWidth other roads children
              ((BoxBounds.ofOuter other.spacing outer).body (input.label? other.id)))
        constructor
        · simp only [LayoutInput.sizedContainer, SizedBox.place, Placement.append,
            List.map_append, belowIds, List.map_cons]
          rfl
        · simp only [LayoutInput.sizedContainer, SizedBox.place, Placement.append,
            List.map_append, belowRoads, ownRoads, List.flatMap_cons, Road.ofBox, isContainer,
            if_true]

/-- Placing the boxes below a container shows each of them and of their roads once. -/
theorem Graph.Subtrees.of_placeAll
    {input : LayoutInput α}
    {limit : Nat}
    (tree : input.diagram.graph.IsTree)
    (laneWidth : α) :
    ∀ {ids : List NodeId} {nodes : List (Node α)},
      input.diagram.graph.Subtrees ids nodes →
        ∀ {levels : Nat} {boxes : List (SizedBox α)},
          ids.mapM (input.measure limit levels) = .ok boxes →
            ∀ bounds : List (Bounds α), bounds.length = boxes.length →
              (SizedBox.placeAll laneWidth boxes bounds).nodes.map (·.id) =
                  nodes.map (·.id) ∧
                (SizedBox.placeAll laneWidth boxes bounds).roads.map (·.road) =
                  nodes.flatMap Road.ofBox
  | _, _, .nil, levels, boxes, measured, bounds, counted => by
      cases measured
      simp [SizedBox.placeAll, Placement.empty]
  | _, _, .cons first later, levels, boxes, measured, bounds, counted => by
      rw [List.mapM_cons] at measured
      obtain ⟨box, boxMeasured, measured⟩ := Attempt.bind_eq_ok_iff.mp measured
      obtain ⟨rest, restMeasured, same⟩ := Attempt.bind_eq_ok_iff.mp measured
      cases same
      cases bounds with
      | nil =>
          simp at counted
      | cons outer others =>
          obtain ⟨firstIds, firstRoads⟩ := first.of_place tree laneWidth boxMeasured outer
          obtain ⟨laterIds, laterRoads⟩ :=
            later.of_placeAll tree laneWidth restMeasured others (by simpa using counted)
          simp [SizedBox.placeAll, Placement.append, firstIds, firstRoads, laterIds,
            laterRoads]

end

end BoxDiagram
