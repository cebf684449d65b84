import BoxDiagram.Proofs.Geometry.Order
import BoxDiagram.Proofs.Layout.Nesting

namespace BoxDiagram

/-!
# Gates lie on sides

The gates of a side are spread around its middle, at most as far apart as the side is
long.  So each of them lies on the edge of the visible box, between its corners.
-/

namespace Point

variable {α : Type}

@[simp] theorem along_ofAxis
    (axis : Axis)
    (forward sideways : α) :
    (ofAxis axis forward sideways).along axis = forward := by
  cases axis <;> rfl

@[simp] theorem along_other_ofAxis
    (axis : Axis)
    (forward sideways : α) :
    (ofAxis axis forward sideways).along axis.other = sideways := by
  cases axis <;> rfl

end Point

namespace Bounds

/-- A point lies on the edge of a rectangle that faces a direction. -/
structure HasOnSide (area : Bounds Rat) (side : Direction) (point : Point Rat) : Prop where
  onEdge : point.along side.axis = area.edge side
  alongside :
    RangeIn (point.along side.axis.other, point.along side.axis.other)
      (area.range side.axis.other)

/-- The edge that faces a direction is where the rectangle ends in this direction. -/
theorem orders_edge
    (area : Bounds Rat)
    (side : Direction) :
    side.Orders (area.range side.axis) (area.edge side, area.edge side) := by
  cases side <;> exact le_rfl

/-- A side of a rectangle inside of another one is in its range. -/
theorem rangeIn_edge
    {inner outer : Bounds Rat}
    (isInside : inner.IsInside outer)
    (side : Direction) :
    RangeIn (inner.edge side, inner.edge side) (inner.range side.axis) := by
  have ordered := (isInside side.axis).2.1
  cases side with
  | main =>
      exact ⟨ordered, le_rfl, le_rfl⟩
  | cross =>
      exact ⟨ordered, le_rfl, le_rfl⟩
  | mainReverse =>
      exact ⟨le_rfl, le_rfl, ordered⟩
  | crossReverse =>
      exact ⟨le_rfl, le_rfl, ordered⟩

/-- The center of a rectangle is in the middle of both ranges. -/
theorem along_center
    (area : Bounds Rat)
    (axis : Axis) :
    area.center.along axis = ((area.range axis).1 + (area.range axis).2) / 2 := by
  cases axis <;> rfl

end Bounds

namespace Gate

/-- All gates of a side find room on it. -/
theorem step_fits
    {length gap : Rat}
    {count : Nat}
    (measured : 0 ≤ length)
    (gapMeasured : 0 ≤ gap)
    (positive : 0 < count) :
    0 ≤ step length gap count ∧ ((count : Rat) - 1) * step length gap count ≤ length := by
  have isCount : (1 : Rat) ≤ count := by exact_mod_cast positive
  simp only [step, Scalar.ofNat_rat, Nat.cast_one, Scalar.less_rat]
  split
  · rename_i fits
    exact ⟨gapMeasured, fits.le⟩
  · have isPart : 0 ≤ length / ((count : Rat) + 1) := by positivity
    refine ⟨isPart, ?_⟩
    calc
      ((count : Rat) - 1) * (length / (count + 1))
        ≤ ((count : Rat) + 1) * (length / (count + 1)) :=
          mul_le_mul_of_nonneg_right (by linarith) isPart
      _ = length := mul_div_cancel₀ length (by linarith)

/-- A gate is at most half the way of all gates from the middle of its side. -/
theorem slot_mem
    {slot count : Nat}
    {length distance : Rat}
    (isSlot : slot < count)
    (measured : 0 ≤ distance)
    (fits : ((count : Rat) - 1) * distance ≤ length) :
    -(length / 2) ≤ ((slot : Rat) - ((count : Rat) - 1) / 2) * distance ∧
      ((slot : Rat) - ((count : Rat) - 1) / 2) * distance ≤ length / 2 := by
  have isFirst : 0 ≤ (slot : Rat) * distance := mul_nonneg (Nat.cast_nonneg slot) measured
  have isLast : (slot : Rat) * distance ≤ ((count : Rat) - 1) * distance := by
    have isNext : (slot : Rat) + 1 ≤ count := by exact_mod_cast isSlot
    exact mul_le_mul_of_nonneg_right (by linarith) measured
  have split :
      ((slot : Rat) - ((count : Rat) - 1) / 2) * distance =
        slot * distance - ((count : Rat) - 1) * distance / 2 := by
    ring
  rw [split]
  constructor <;> linarith

/-- The gates of a side lie on it. -/
theorem hasOnSide_of_mem_spread
    {visible outer : Bounds Rat}
    {side : Direction}
    {gap : Rat}
    {count : Nat}
    {point : Point Rat}
    (isInside : visible.IsInside outer)
    (gapMeasured : 0 ≤ gap)
    (member : point ∈ spread visible side gap count) :
    visible.HasOnSide side point := by
  obtain ⟨slot, isSlot, rfl⟩ := List.mem_map.mp member
  rw [List.mem_range] at isSlot
  have ordered := (isInside side.axis.other).2.1
  obtain ⟨stepMeasured, fits⟩ :=
    step_fits (sub_nonneg.mpr ordered) gapMeasured (Nat.zero_lt_of_lt isSlot)
  obtain ⟨afterStart, beforeEnd⟩ := slot_mem isSlot stepMeasured fits
  constructor
  case onEdge =>
    exact Point.along_ofAxis _ _ _
  case alongside =>
    rw [Point.along_other_ofAxis, Bounds.rangeIn_line_iff, Bounds.along_center]
    simp only [Scalar.ofNat_rat, Scalar.half_rat, Nat.cast_one]
    constructor <;> linarith

/-- A recorded gate is one of those that are spread along its side. -/
theorem exists_spread_of_record
    {α : Type}
    [Scalar α]
    {gap : α}
    {routes : List Route}
    {nodes : List (NodeLayout α)}
    {record : Record α}
    (member : record ∈ recordsOfRoutes gap routes nodes) :
    ∃ node count, nodes[record.box]? = some node ∧
      record.gate.point ∈ spread node.visible record.gate.side gap count := by
  obtain ⟨group, _, member⟩ := List.mem_flatMap.mp member
  obtain ⟨node, isNode, member⟩ := List.mem_flatMap.mp member
  obtain ⟨⟨link, point⟩, isEntry, rfl⟩ := List.mem_map.mp member
  exact ⟨node, group.2.length, Option.mem_toList.mp isNode, (List.of_mem_zip isEntry).2⟩

end Gate

namespace LayoutEngine

/-- Each gate of a layout is one of those that are spread along its side of the visible box. -/
theorem exists_spread_of_hasGateAt
    {α : Type}
    [Scalar α]
    {input : LayoutInput α}
    {depthLimit : Nat}
    {layout : Layout α}
    (tree : input.diagram.graph.IsTree)
    (inOrder : input.diagram.graph.IsInOrder)
    (routed : input.IsRouted)
    (succeeded : nested depthLimit input = .ok layout)
    {side : BoxSide}
    {link : LinkId}
    {point : Point α}
    {shown : NodeLayout α}
    (hasGate : layout.HasGateAt side link point)
    (isShown : layout.node? side.1 = some shown) :
    ∃ count, point ∈ Gate.spread shown.visible side.2 input.diagram.document.gateGap count := by
  obtain ⟨root, placed, measured, isPlaced, _, nodesEq, _⟩ :=
    of_nested tree inOrder routed.isOver succeeded
  have recorded := Except.ok.inj (isPlaced.symm.trans (place_gates tree inOrder routed measured))
  obtain ⟨same, gate, isSame, onNode, _, sameSide, rfl⟩ := hasGate
  obtain rfl := Option.some.inj (isSame.symm.trans isShown)
  have atPosition : placed.nodes[side.1]? = some same := by
    rw [Layout.node?, nodesEq, Option.filter_eq_some_iff] at isShown
    exact isShown.1
  -- The gates were spread along the box as it was placed, which looks the same with them.
  have isOn := congrArg (·[side.1]?) (Gate.isOn_of_place isPlaced)
  simp only [List.getElem?_map, atPosition, Option.map_some] at isOn
  obtain ⟨before, isBefore, sameBox⟩ := Option.map_eq_some_iff.mp isOn.symm
  have sameVisible : before.visible = same.visible := congrArg (·.visible) sameBox
  obtain ⟨recordedNode, isNode, mem_gates_iff⟩ :=
    Gate.Placed.exists_node_of_record
      (Gate.recordsOfRoutes input.diagram.document.gateGap input.table.routes
        (place input root).nodes) isBefore
      (SizedBox.gates_eq_nil_of_mem_place (List.mem_of_getElem? isBefore))
  rw [← recorded, atPosition] at isNode
  obtain rfl := Option.some.inj isNode
  obtain ⟨record, isRecord, sameBoxId, rfl⟩ := (mem_gates_iff gate).mp onNode
  obtain ⟨spreadNode, count, isSpread, isPoint⟩ := Gate.exists_spread_of_record isRecord
  rw [sameBoxId, isBefore] at isSpread
  obtain rfl := Option.some.inj isSpread
  rw [sameVisible, sameSide] at isPoint
  exact ⟨count, isPoint⟩

/-- Each gate of a layout lies on its side of the visible box. -/
theorem hasOnSide_of_hasGateAt
    {input : LayoutInput Rat}
    {depthLimit : Nat}
    {layout : Layout Rat}
    (tree : input.diagram.graph.IsTree)
    (inOrder : input.diagram.graph.IsInOrder)
    (routed : input.IsRouted)
    (measured : input.IsMeasured)
    (succeeded : nested depthLimit input = .ok layout)
    {side : BoxSide}
    {link : LinkId}
    {point : Point Rat}
    {node : Node Rat}
    {shown : NodeLayout Rat}
    (hasGate : layout.HasGateAt side link point)
    (found : input.diagram.graph.get? side.1 = some node)
    (isShown : layout.node? side.1 = some shown) :
    shown.visible.HasOnSide side.2 point := by
  obtain ⟨count, isPoint⟩ :=
    exists_spread_of_hasGateAt tree inOrder routed succeeded hasGate isShown
  obtain ⟨other, isOther, nested⟩ :=
    nests_of_nested tree inOrder routed.isOver measured succeeded found
  obtain rfl := Option.some.inj (isOther.symm.trans isShown)
  exact Gate.hasOnSide_of_mem_spread nested.visibleInside measured.diagram.document.gateGap isPoint

end LayoutEngine

end BoxDiagram
