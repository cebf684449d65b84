import BoxDiagram.Layout.Placement
import BoxDiagram.Proofs.Geometry.Order
import BoxDiagram.Proofs.Layout.Arrangement
import BoxDiagram.Proofs.Layout.Placement

namespace BoxDiagram

/-!
# The order of gaps, children and lanes

Gaps and children of a container come in the order of their numbers as the flow of the
container goes, the edge roads before and behind all children across it.  A road is as
wide as its lanes together, so that no lane lies outside.
-/

namespace Stretch

/-- A gap comes before the item of its number and behind the one before it. -/
theorem isBefore_alternate
    {gaps items : List Rat}
    (offset : Rat)
    (gapsMeasured : ∀ gap ∈ gaps, 0 ≤ gap)
    (itemsMeasured : ∀ item ∈ items, 0 ≤ item)
    {avenue index : Nat}
    {gap item : Stretch Rat}
    (isGap : (alternate offset gaps items).1[avenue]? = some gap)
    (isItem : (alternate offset gaps items).2[index]? = some item) :
    (avenue ≤ index → gap.IsBefore item) ∧ (index < avenue → item.IsBefore gap) := by
  induction gaps generalizing offset items avenue index with
  | nil =>
      cases isGap
  | cons width rest inductionHypothesis =>
      obtain ⟨_, restMeasured⟩ := List.forall_mem_cons.mp gapsMeasured
      cases items with
      | nil =>
          have noItem := isItem
          rw [List.getElem?_eq_none (by simp [(length_alternate offset (width :: rest) []).2])]
            at noItem
          cases noItem
      | cons extent others =>
          obtain ⟨extentMeasured, othersMeasured⟩ := List.forall_mem_cons.mp itemsMeasured
          have later := areInRow_alternate (offset + width + extent) restMeasured othersMeasured
          simp only [alternate] at isGap isItem
          cases avenue with
          | zero =>
              cases isGap
              refine ⟨fun _ => ?_, fun impossible => absurd impossible (Nat.not_lt_zero _)⟩
              cases index with
              | zero =>
                  cases isItem
                  exact le_rfl
              | succ index =>
                  have afterItem := (later.between item (.inr (List.mem_of_getElem? isItem))).1
                  exact (le_add_of_nonneg_right extentMeasured).trans afterItem
          | succ avenue =>
              cases index with
              | zero =>
                  cases isItem
                  refine ⟨fun impossible => absurd impossible (Nat.not_succ_le_zero _), fun _ => ?_⟩
                  exact (later.between gap (.inl (List.mem_of_getElem? isGap))).1
              | succ index =>
                  simpa using inductionHypothesis _ restMeasured othersMeasured isGap isItem

/-- Stretches that follow each other are in order on the canvas, whichever way the axis runs. -/
theorem IsBefore.orders_within
    {first second : Stretch Rat}
    (isBefore : first.IsBefore second)
    (range : Rat × Rat)
    (direction : Direction) :
    direction.Orders (first.within range direction.isReversed)
      (second.within range direction.isReversed) := by
  rw [IsBefore] at isBefore
  cases isReversed : direction.isReversed with
  | false =>
      simp only [Direction.Orders, isReversed, Stretch.within, Bool.false_eq_true, if_false]
      linarith
  | true =>
      simp only [Direction.Orders, isReversed, Stretch.within, if_true]
      linarith

end Stretch

/-- One rectangle comes before another one, going in a direction. -/
def Bounds.Precedes (direction : Direction) (first second : Bounds Rat) : Prop :=
  direction.Orders (first.range direction.axis) (second.range direction.axis)

/-- Against a direction, what precedes follows. -/
@[simp] theorem Bounds.precedes_reverse
    {direction : Direction}
    {first second : Bounds Rat} :
    Precedes direction.reverse first second ↔ Precedes direction second first := by
  rw [Precedes, Precedes, Direction.axis_reverse, Direction.orders_reverse]

/-- Gaps and items come in turn along the flow of a frame, between the edges across it. -/
structure Arrangement.IsInFlow (frame : Compass) (arrangement : Arrangement Rat) : Prop where
  items :
    ∀ {index later : Nat} {first second : Bounds Rat}, index < later →
      arrangement.items[index]? = some first → arrangement.items[later]? = some second →
        first.Precedes frame.main second
  gapBefore :
    ∀ {avenue index : Nat} {gap item : Bounds Rat}, avenue ≤ index →
      arrangement.gaps[avenue]? = some gap → arrangement.items[index]? = some item →
        gap.Precedes frame.main item
  gapBehind :
    ∀ {avenue index : Nat} {gap item : Bounds Rat}, index < avenue →
      arrangement.gaps[avenue]? = some gap → arrangement.items[index]? = some item →
        item.Precedes frame.main gap
  startEdge : ∀ item ∈ arrangement.items, arrangement.startEdge.Precedes frame.cross item
  endEdge : ∀ item ∈ arrangement.items, item.Precedes frame.cross arrangement.endEdge

namespace Body

variable {body : Body Rat}

/-- What is earlier along the flow precedes in its direction. -/
theorem precedes_of_forward
    {first second : Stretch Rat}
    (isBefore : first.IsBefore second)
    (sideways other : Stretch Rat) :
    (body.onCanvas first sideways).Precedes body.frame.main (body.onCanvas second other) := by
  rw [Bounds.Precedes, range_main_onCanvas, range_main_onCanvas]
  exact isBefore.orders_within _ _

/-- What is earlier across the flow precedes in its direction. -/
theorem precedes_of_sideways
    {first second : Stretch Rat}
    (isBefore : first.IsBefore second)
    (forward other : Stretch Rat) :
    (body.onCanvas forward first).Precedes body.frame.cross (body.onCanvas other second) := by
  rw [Bounds.Precedes, range_cross_onCanvas, range_cross_onCanvas]
  exact isBefore.orders_within _ _

/-- The edge roads of an arrangement have their widths. -/
theorem extent_edges
    (body : Body Rat)
    (gapWidths : List Rat)
    (startWidth endWidth : Rat)
    (items : List (Item Rat)) :
    (body.arrange gapWidths startWidth endWidth items).startEdge.extent body.frame.cross.axis =
        startWidth ∧
      (body.arrange gapWidths startWidth endWidth items).endEdge.extent body.frame.cross.axis =
        endWidth := by
  constructor <;> rw [Bounds.extent, arrange, range_cross_onCanvas, Stretch.extent_within]

variable {gapWidths : List Rat} {startWidth endWidth : Rat} {items : List (Item Rat)}

/-- The place of each gap comes of its stretch along the flow, which has its width. -/
theorem exists_stretch_of_gap
    (enoughGaps : items.length ≤ gapWidths.length)
    {avenue : Nat}
    {area : Bounds Rat}
    (isArea : (body.arrange gapWidths startWidth endWidth items).gaps[avenue]? = some area) :
    ∃ forward,
      (Stretch.alternate Scalar.zero gapWidths (items.map (body.itemExtent .main))).1[avenue]? =
          some forward ∧
        gapWidths[avenue]? = some forward.extent ∧
          area = body.onCanvas forward ⟨Scalar.zero, body.extent .cross⟩ := by
  rw [arrange, List.getElem?_map, Option.map_eq_some_iff] at isArea
  obtain ⟨forward, isForward, rfl⟩ := isArea
  have sameExtents :
      (Stretch.alternate Scalar.zero gapWidths (items.map (body.itemExtent .main))).1.map
        (·.extent) = gapWidths :=
    (Stretch.extents_alternate _ (by simpa using enoughGaps)).1
  have sameExtent := congrArg (·[avenue]?) sameExtents
  simp only [List.getElem?_map, isForward, Option.map_some] at sameExtent
  exact ⟨forward, isForward, sameExtent.symm, rfl⟩

/-- The gaps of an arrangement have their widths. -/
theorem extent_gap
    (enoughGaps : items.length ≤ gapWidths.length)
    {avenue : Nat}
    {area : Bounds Rat}
    (isArea : (body.arrange gapWidths startWidth endWidth items).gaps[avenue]? = some area) :
    gapWidths[avenue]? = some (area.extent body.frame.main.axis) := by
  obtain ⟨forward, _, isWidth, rfl⟩ := exists_stretch_of_gap enoughGaps isArea
  rw [Bounds.extent, range_main_onCanvas, Stretch.extent_within, isWidth]

namespace HasRoom

/-- A gap is before the items from its number on, and after the others. -/
theorem isBefore_gap
    (room : body.HasRoom gapWidths startWidth endWidth items)
    {avenue index : Nat}
    {gap item : Stretch Rat}
    (isGap :
      (Stretch.alternate Scalar.zero gapWidths (items.map (body.itemExtent .main))).1[avenue]? =
        some gap)
    (isItem :
      (Stretch.alternate Scalar.zero gapWidths (items.map (body.itemExtent .main))).2[index]? =
        some item) :
    (avenue ≤ index → gap.IsBefore item) ∧ (index < avenue → item.IsBefore gap) :=
  Stretch.isBefore_alternate Scalar.zero room.gapsMeasured room.extents_measured isGap isItem

/-- With room for everything the contents come in the order of the flow. -/
theorem isInFlow_arrange
    (room : body.HasRoom gapWidths startWidth endWidth items) :
    (body.arrange gapWidths startWidth endWidth items).IsInFlow body.frame := by
  constructor
  case items =>
    intro index later first second inOrder isFirst isSecond
    obtain ⟨_, forward, _, isForward, _, rfl⟩ := room.exists_stretch_of_getElem? isFirst
    obtain ⟨_, other, _, isOther, _, rfl⟩ := room.exists_stretch_of_getElem? isSecond
    obtain ⟨inside, rfl⟩ := List.getElem?_eq_some_iff.mp isForward
    obtain ⟨otherInside, rfl⟩ := List.getElem?_eq_some_iff.mp isOther
    exact precedes_of_forward
      (List.pairwise_iff_getElem.mp room.areInRow.itemsApart _ _ inside otherInside inOrder) _ _
  case gapBefore =>
    intro avenue index gap item inOrder isGap isItem
    obtain ⟨before, isBefore, _, rfl⟩ := exists_stretch_of_gap room.enoughGaps isGap
    obtain ⟨_, forward, _, isForward, _, rfl⟩ := room.exists_stretch_of_getElem? isItem
    exact precedes_of_forward ((room.isBefore_gap isBefore isForward).1 inOrder) _ _
  case gapBehind =>
    intro avenue index gap item inOrder isGap isItem
    obtain ⟨behind, isBehind, _, rfl⟩ := exists_stretch_of_gap room.enoughGaps isGap
    obtain ⟨_, forward, _, isForward, _, rfl⟩ := room.exists_stretch_of_getElem? isItem
    exact precedes_of_forward ((room.isBefore_gap isBehind isForward).2 inOrder) _ _
  case startEdge =>
    intro area member
    obtain ⟨item, isItem, forward, _, rfl⟩ := room.exists_stretch_of_mem_items member
    apply precedes_of_sideways
    rw [Stretch.IsBefore, Scalar.zero_rat, zero_add]
    exact (room.sidewaysStretch isItem).1
  case endEdge =>
    intro area member
    obtain ⟨item, isItem, forward, _, rfl⟩ := room.exists_stretch_of_mem_items member
    have endLast :
        (body.sidewaysStretch startWidth endWidth item).IsBefore
          ⟨body.extent .cross - endWidth, endWidth⟩ :=
      (room.sidewaysStretch isItem).2.2
    exact precedes_of_sideways endLast _ _

end HasRoom

end Body

/-- A road fixes an axis, and each of its lanes has its line inside the road. -/
structure RoadLayout.KeepsLanes (axis : Axis) (band : RoadLayout Rat) : Prop where
  fixedAxis_eq : band.fixedAxis = axis
  inside :
    ∀ lane, Bounds.RangeIn (band.laneLine lane, band.laneLine lane) (band.bounds.range axis)

/-- The middle of a lane of a road that is as wide as its lanes lies inside the road. -/
theorem LaneLayout.line_within
    {laneWidth : Rat}
    {area : Bounds Rat}
    {side : Direction}
    {lane count : Nat}
    (measured : 0 ≤ laneWidth)
    (wide : area.extent side.axis = count * laneWidth)
    (isLane : lane < count)
    (link : Option LinkId) :
    (area.range side.axis).1 ≤ (LaneLayout.within laneWidth area side lane link).line ∧
      (LaneLayout.within laneWidth area side lane link).line ≤ (area.range side.axis).2 := by
  have step_nonneg : 0 ≤ ((lane : Rat) + 1 / 2) * laneWidth := by
    have isNumber : (0 : Rat) ≤ lane := Nat.cast_nonneg lane
    positivity
  have step_le : ((lane : Rat) + 1 / 2) * laneWidth ≤ count * laneWidth := by
    have isNext : (lane : Rat) + 1 ≤ count := by exact_mod_cast isLane
    apply mul_le_mul_of_nonneg_right _ measured
    linarith
  rw [Bounds.extent] at wide
  simp only [LaneLayout.within, Scalar.ofNat_rat, Scalar.half_rat, Nat.cast_one]
  split <;> constructor <;> linarith

/-- A road that is as wide as its lanes keeps them inside. -/
theorem RoadLayout.keepsLanes_within
    {laneWidth : Rat}
    {frame : Compass}
    {road : Road}
    {lanes : RoadLanes}
    {area : Bounds Rat}
    (measured : 0 ≤ laneWidth)
    (wide : area.extent (frame.axisDirection road.axis).axis = lanes.width laneWidth) :
    (RoadLayout.within laneWidth frame road lanes area).KeepsLanes
      (frame.axisDirection road.axis).axis := by
  refine ⟨rfl, fun lane => ?_⟩
  rw [Bounds.rangeIn_line_iff, RoadLayout.laneLine]
  split
  · rename_i found isFound
    obtain ⟨number, _, isLane⟩ := Option.bind_eq_some_iff.mp isFound
    rw [RoadLayout.within, List.getElem?_map, Option.map_eq_some_iff] at isLane
    obtain ⟨⟨link, position⟩, listed, rfl⟩ := isLane
    have isInside := (List.getElem?_eq_some_iff.mp (List.mem_zipIdx_iff_getElem?.mp
      (List.mem_of_getElem? listed))).1
    rw [RoadLanes.length_toList] at isInside
    exact LaneLayout.line_within measured wide isInside link
  · have ordered : 0 ≤ area.extent (frame.axisDirection road.axis).axis := by
      rw [wide]
      exact mul_nonneg (Nat.cast_nonneg _) measured
    rw [Bounds.extent] at ordered
    simp only [RoadLayout.centerLine, RoadLayout.within, Scalar.half_rat]
    constructor <;> linarith

/-- The roads of a container keep their lanes where the arrangement has room for these. -/
theorem OwnRoads.keepsLanes_layouts
    {roads : OwnRoads}
    {node : Node Rat}
    {arrangement : Arrangement Rat}
    {laneWidth : Rat}
    (measured : 0 ≤ laneWidth)
    (gapsWide :
      ∀ {avenue : Nat} {lanes : RoadLanes} {area : Bounds Rat},
        roads.gaps[avenue]? = some lanes → arrangement.gaps[avenue]? = some area →
          area.extent node.itemFrame.main.axis = lanes.width laneWidth)
    (startWide :
      arrangement.startEdge.extent node.itemFrame.cross.axis = roads.startEdge.width laneWidth)
    (endWide :
      arrangement.endEdge.extent node.itemFrame.cross.axis = roads.endEdge.width laneWidth) :
    ∀ band ∈ roads.layouts laneWidth node arrangement,
      band.KeepsLanes (node.itemFrame.axisDirection band.road.axis).axis := by
  intro band member
  obtain ⟨road, lanes, area, places, rfl⟩ := OwnRoads.exists_places_of_mem_layouts member
  cases places with
  | gap isLanes isArea =>
      exact RoadLayout.keepsLanes_within measured (gapsWide isLanes isArea)
  | startEdge =>
      exact RoadLayout.keepsLanes_within measured startWide
  | endEdge =>
      exact RoadLayout.keepsLanes_within measured endWide

end BoxDiagram
