import BoxDiagram.Proofs.Layout.Nesting

namespace BoxDiagram

/-!
# Layouts are in order

In a layout the children and gaps of each container come in turn along its flow, between
its edge roads across it, and each lane lies inside its road.
-/

/-- A road of a box is listed with its roads. -/
theorem Graph.IsRoadOf.mem_ofBox
    {α : Type}
    {graph : Graph α}
    {node : Node α}
    {road : Road}
    (isRoad : graph.IsRoadOf node road)
    (ofNode : road.container = node.id) :
    road ∈ Road.ofBox node := by
  have inside := isRoad.avenue
  rw [Road.ofBox, if_pos isRoad.isContainer, Road.mem_ofContainer_iff]
  obtain ⟨container, axis, avenue⟩ := road
  obtain rfl : container = node.id := ofNode
  cases axis with
  | main =>
      exact .inl ⟨avenue, Nat.lt_succ_of_le inside, rfl⟩
  | cross =>
      change avenue < 2 at inside
      obtain rfl | rfl : avenue = 0 ∨ avenue = 1 := by omega
      · exact .inr (.inl rfl)
      · exact .inr (.inr rfl)

namespace Layout

/-- What a container holds is shown in the order of its flow, lanes inside their roads. -/
structure Flows (layout : Layout Rat) (node : Node Rat) : Prop where
  children :
    ∀ {index later : Nat} {first second : NodeLayout Rat}, index < later →
      layout.HasChildAt node index first → layout.HasChildAt node later second →
        first.bounds.Precedes node.itemFrame.main second.bounds
  gapBefore :
    ∀ {band : RoadLayout Rat} {index : Nat} {inner : NodeLayout Rat}, band.road.avenue ≤ index →
      layout.HasRoadOf node band → band.road.axis = .main → layout.HasChildAt node index inner →
        band.bounds.Precedes node.itemFrame.main inner.bounds
  gapBehind :
    ∀ {band : RoadLayout Rat} {index : Nat} {inner : NodeLayout Rat}, index < band.road.avenue →
      layout.HasRoadOf node band → band.road.axis = .main → layout.HasChildAt node index inner →
        inner.bounds.Precedes node.itemFrame.main band.bounds
  startEdge :
    ∀ {band : RoadLayout Rat} {index : Nat} {inner : NodeLayout Rat}, band.road.avenue = 0 →
      layout.HasRoadOf node band → band.road.axis = .cross → layout.HasChildAt node index inner →
        band.bounds.Precedes node.itemFrame.cross inner.bounds
  endEdge :
    ∀ {band : RoadLayout Rat} {index : Nat} {inner : NodeLayout Rat}, band.road.avenue = 1 →
      layout.HasRoadOf node band → band.road.axis = .cross → layout.HasChildAt node index inner →
        inner.bounds.Precedes node.itemFrame.cross band.bounds
  lanes :
    ∀ {band : RoadLayout Rat}, layout.HasRoadOf node band →
      band.KeepsLanes (node.itemFrame.axisDirection band.road.axis).axis

/-- A road of a container is at the start or at the end of the flow or across it. -/
theorem Shows.edge_of_cross_road
    {α : Type}
    {layout : Layout α}
    {placement : Placement α}
    (shows : layout.Shows placement)
    {graph : Graph α}
    {node : Node α}
    {arrangement : Arrangement α}
    (followed : placement.Follows node arrangement)
    {band : RoadLayout α}
    (isBand : layout.HasRoadOf node band)
    (isRoad : graph.IsRoadOf node band.road)
    (isCross : band.road.axis = .cross) :
    band.road.avenue = 0 ∧ band.bounds = arrangement.startEdge ∨
      band.road.avenue = 1 ∧ band.bounds = arrangement.endEdge := by
  rcases shows.place_of_road followed isBand isRoad with ⟨isMain, _⟩ | ⟨_, isEdge⟩
  · rw [isCross] at isMain
    cases isMain
  · exact isEdge

/-- What follows an arrangement in the order of a flow is shown in this order. -/
theorem Shows.flows
    {layout : Layout Rat}
    {placement : Placement Rat}
    {graph : Graph Rat}
    {node : Node Rat}
    {arrangement : Arrangement Rat}
    (shows : layout.Shows placement)
    (areRoads : ∀ {band}, layout.HasRoadOf node band → graph.IsRoadOf node band.road)
    (followed : placement.Follows node arrangement)
    (isInFlow : arrangement.IsInFlow node.itemFrame)
    (lanes : ∀ {band}, layout.HasRoadOf node band →
      band.KeepsLanes (node.itemFrame.axisDirection band.road.axis).axis) :
    layout.Flows node := by
  have item := fun {index inner} (isChild : layout.HasChildAt node index inner) =>
    (shows.item_of_childAt followed isChild).2
  have gap := fun {band} (isBand : layout.HasRoadOf node band) =>
    shows.gap_of_main_road followed isBand (areRoads isBand)
  have edge := fun {band} (isBand : layout.HasRoadOf node band) =>
    shows.edge_of_cross_road followed isBand (areRoads isBand)
  constructor
  case children =>
    intro index later first second inOrder isFirst isSecond
    exact isInFlow.items inOrder (item isFirst) (item isSecond)
  case gapBefore =>
    intro band index inner inOrder isBand isMain isChild
    exact isInFlow.gapBefore inOrder (gap isBand isMain) (item isChild)
  case gapBehind =>
    intro band index inner inOrder isBand isMain isChild
    exact isInFlow.gapBehind inOrder (gap isBand isMain) (item isChild)
  case startEdge =>
    intro band index inner isFirst isBand isCross isChild
    rcases edge isBand isCross with ⟨_, isStart⟩ | ⟨isSecond, _⟩
    · exact isStart ▸ isInFlow.startEdge _ (List.mem_of_getElem? (item isChild))
    · omega
  case endEdge =>
    intro band index inner isSecond isBand isCross isChild
    rcases edge isBand isCross with ⟨isFirst, _⟩ | ⟨_, isEnd⟩
    · omega
    · exact isEnd ▸ isInFlow.endEdge _ (List.mem_of_getElem? (item isChild))
  case lanes =>
    exact lanes

/-- A cell holds nothing that could be out of order. -/
theorem flows_of_cell
    {layout : Layout Rat}
    {graph : Graph Rat}
    {node : Node Rat}
    (childless : node.children = [])
    (isCell : node.isContainer = false)
    (areRoads : ∀ {band}, layout.HasRoadOf node band → graph.IsRoadOf node band.road) :
    layout.Flows node := by
  have noChild : ∀ {index inner}, ¬ layout.HasChildAt node index inner := by
    rintro index inner ⟨child, listed, _⟩
    rw [childless] at listed
    cases listed
  have noRoad : ∀ {band}, ¬ layout.HasRoadOf node band := by
    intro band isBand
    rw [(areRoads isBand).isContainer] at isCell
    cases isCell
  constructor
  case children =>
    exact fun _ isChild => absurd isChild noChild
  case lanes =>
    exact fun isBand => absurd isBand noRoad
  all_goals exact fun _ isBand => absurd isBand noRoad

end Layout

namespace LayoutEngine

variable {input : LayoutInput Rat} {depthLimit : Nat} {layout : Layout Rat}

/-- What each box of a layout holds is shown in the order of its flow. -/
theorem flows_of_nested
    (tree : input.diagram.graph.IsTree)
    (inOrder : input.diagram.graph.IsInOrder)
    (isOver : input.table.lanes.IsOver input.diagram.graph)
    (measured : input.IsMeasured)
    (succeeded : nested depthLimit input = .ok layout)
    {id : NodeId}
    {node : Node Rat}
    (found : input.diagram.graph.get? id = some node) :
    layout.Flows node := by
  have areRoads : ∀ {band}, layout.HasRoadOf node band →
      input.diagram.graph.IsRoadOf node band.road :=
    fun isBand => isRoadOf_of_nested tree inOrder isOver succeeded found isBand
  cases isContainer : node.isContainer with
  | false =>
      exact Layout.flows_of_cell (tree.children_of_cell found isContainer) isContainer areRoads
  | true =>
      obtain ⟨placement, placed, _, shows, nested, _, _⟩ :=
        exists_nests_of_nested tree inOrder isOver measured succeeded found
      obtain ⟨_, arrangement, followed, _, isInFlow, _⟩ := nested.contents isContainer
      refine shows.flows areRoads followed isInFlow fun {band} isBand => ?_
      obtain ⟨other, member, sameRoad, keeps⟩ :=
        nested.lanes band.road ((areRoads isBand).mem_ofBox isBand.2)
      have isPlaced := isBand.1
      rw [shows.roads_eq] at isPlaced
      exact List.inj_on_of_nodup_map shows.nodup member isPlaced sameRoad ▸ keeps

end LayoutEngine

end BoxDiagram
