import BoxDiagram.Proofs.Geometry.Bounds
import Mathlib.Algebra.Order.BigOperators.Group.List

namespace BoxDiagram

/-!
# Arranged containers do not overlap

Along the flow of a container gaps and children follow each other, and across it the
children stay between the two edge roads.  Stretches that follow each other on an axis
are rectangles apart on the canvas, in whichever direction the axis runs.
-/

namespace Stretch

/-- The stretch lies between two places of its axis. -/
def IsBetween (start finish : Rat) (stretch : Stretch Rat) : Prop :=
  start ≤ stretch.offset ∧ 0 ≤ stretch.extent ∧ stretch.offset + stretch.extent ≤ finish

/-- The first stretch ends where the second one starts, or earlier. -/
def IsBefore (first second : Stretch Rat) : Prop :=
  first.offset + first.extent ≤ second.offset

/-- A stretch takes its extent of a range, from either end. -/
theorem extent_within
    (stretch : Stretch Rat)
    (range : Rat × Rat)
    (reversed : Bool) :
    (stretch.within range reversed).2 - (stretch.within range reversed).1 = stretch.extent := by
  cases reversed with
  | false =>
      simp [within]
  | true =>
      simp [within]

/-- A stretch of an axis lies in the range of the axis. -/
theorem IsBetween.within
    {stretch : Stretch Rat}
    {range : Rat × Rat}
    (isBetween : stretch.IsBetween 0 (range.2 - range.1))
    (reversed : Bool) :
    range.1 ≤ (stretch.within range reversed).1 ∧
      (stretch.within range reversed).1 ≤ (stretch.within range reversed).2 ∧
        (stretch.within range reversed).2 ≤ range.2 := by
  obtain ⟨afterStart, measured, beforeEnd⟩ := isBetween
  cases reversed with
  | false =>
      simp only [Stretch.within, Bool.false_eq_true, if_false]
      refine ⟨?_, ?_, ?_⟩ <;> linarith
  | true =>
      simp only [Stretch.within, if_true]
      refine ⟨?_, ?_, ?_⟩ <;> linarith

/-- Stretches that follow each other stay apart on the canvas. -/
theorem IsBefore.within
    {first second : Stretch Rat}
    (isBefore : first.IsBefore second)
    (range : Rat × Rat)
    (reversed : Bool) :
    (first.within range reversed).2 ≤ (second.within range reversed).1 ∨
      (second.within range reversed).2 ≤ (first.within range reversed).1 := by
  rw [IsBefore] at isBefore
  cases reversed with
  | false =>
      left
      simp only [Stretch.within, Bool.false_eq_true, if_false]
      linarith
  | true =>
      right
      simp only [Stretch.within, if_true]
      linarith

/-- Gaps and items lie between two places, and no two of them overlap. -/
structure AreInRow (start finish : Rat) (gaps items : List (Stretch Rat)) : Prop where
  between : ∀ stretch, stretch ∈ gaps ∨ stretch ∈ items → stretch.IsBetween start finish
  gapsApart : gaps.Pairwise IsBefore
  itemsApart : items.Pairwise IsBefore
  gapOrItem : ∀ gap ∈ gaps, ∀ item ∈ items, gap.IsBefore item ∨ item.IsBefore gap

/-- What is between two places is between places around them. -/
theorem IsBetween.mono
    {stretch : Stretch Rat}
    {start finish earlier later : Rat}
    (isBetween : stretch.IsBetween start finish)
    (isEarlier : earlier ≤ start)
    (isLater : finish ≤ later) :
    stretch.IsBetween earlier later :=
  ⟨isEarlier.trans isBetween.1, isBetween.2.1, isBetween.2.2.trans isLater⟩

namespace AreInRow

variable {start finish extent : Rat} {gaps items : List (Stretch Rat)}

/-- A gap may stand before stretches in a row. -/
theorem cons_gap
    (later : AreInRow (start + extent) finish gaps items)
    (measured : 0 ≤ extent)
    (fits : start + extent ≤ finish) :
    AreInRow start finish (⟨start, extent⟩ :: gaps) items := by
  have isEarlier : start ≤ start + extent := le_add_of_nonneg_right measured
  constructor
  case between =>
    intro stretch member
    rcases member with isGap | isItem
    · rcases List.mem_cons.mp isGap with rfl | isLater
      · exact ⟨le_rfl, measured, fits⟩
      · exact (later.between stretch (.inl isLater)).mono isEarlier le_rfl
    · exact (later.between stretch (.inr isItem)).mono isEarlier le_rfl
  case gapsApart =>
    exact .cons (fun gap isLater => (later.between gap (.inl isLater)).1) later.gapsApart
  case itemsApart =>
    exact later.itemsApart
  case gapOrItem =>
    intro gap isGap item isItem
    rcases List.mem_cons.mp isGap with rfl | isLater
    · exact .inl (later.between item (.inr isItem)).1
    · exact later.gapOrItem gap isLater item isItem

/-- An item may stand before stretches in a row. -/
theorem cons_item
    (later : AreInRow (start + extent) finish gaps items)
    (measured : 0 ≤ extent)
    (fits : start + extent ≤ finish) :
    AreInRow start finish gaps (⟨start, extent⟩ :: items) := by
  have isEarlier : start ≤ start + extent := le_add_of_nonneg_right measured
  constructor
  case between =>
    intro stretch member
    rcases member with isGap | isItem
    · exact (later.between stretch (.inl isGap)).mono isEarlier le_rfl
    · rcases List.mem_cons.mp isItem with rfl | isLater
      · exact ⟨le_rfl, measured, fits⟩
      · exact (later.between stretch (.inr isLater)).mono isEarlier le_rfl
  case gapsApart =>
    exact later.gapsApart
  case itemsApart =>
    exact .cons (fun item isLater => (later.between item (.inr isLater)).1) later.itemsApart
  case gapOrItem =>
    intro gap isGap item isItem
    rcases List.mem_cons.mp isItem with rfl | isLater
    · exact .inr (later.between gap (.inl isGap)).1
    · exact later.gapOrItem gap isGap item isLater

end AreInRow

/-- Alternating gaps and items do not overlap, and take as much room as all of them. -/
theorem areInRow_alternate
    {gaps items : List Rat}
    (offset : Rat)
    (gapsMeasured : ∀ gap ∈ gaps, 0 ≤ gap)
    (itemsMeasured : ∀ item ∈ items, 0 ≤ item) :
    AreInRow offset (offset + (gaps.sum + items.sum)) (alternate offset gaps items).1
      (alternate offset gaps items).2 := by
  induction gaps generalizing offset items with
  | nil =>
      constructor <;> simp [alternate]
  | cons gap rest inductionHypothesis =>
      obtain ⟨gapMeasured, restMeasured⟩ := List.forall_mem_cons.mp gapsMeasured
      have restSum : 0 ≤ rest.sum := List.sum_nonneg restMeasured
      cases items with
      | nil =>
          have later := inductionHypothesis (offset + gap) restMeasured itemsMeasured
          have sameEnd :
              offset + ((gap :: rest).sum + ([] : List Rat).sum) =
                offset + gap + (rest.sum + ([] : List Rat).sum) := by
            rw [List.sum_cons]
            ring
          rw [sameEnd]
          apply later.cons_gap gapMeasured
          rw [List.sum_nil]
          linarith
      | cons item others =>
          obtain ⟨itemMeasured, othersMeasured⟩ := List.forall_mem_cons.mp itemsMeasured
          have othersSum : 0 ≤ others.sum := List.sum_nonneg othersMeasured
          have later := inductionHypothesis (offset + gap + item) restMeasured othersMeasured
          have sameEnd :
              offset + ((gap :: rest).sum + (item :: others).sum) =
                offset + gap + item + (rest.sum + others.sum) := by
            rw [List.sum_cons, List.sum_cons]
            ring
          rw [sameEnd]
          refine (later.cons_item itemMeasured ?_).cons_gap gapMeasured ?_ <;> linarith

/-- Gaps and items that alternate have their own extents. -/
theorem extents_alternate
    {α : Type}
    [Scalar α]
    {gaps items : List α}
    (offset : α)
    (enough : items.length ≤ gaps.length) :
    (alternate offset gaps items).1.map (·.extent) = gaps ∧
      (alternate offset gaps items).2.map (·.extent) = items := by
  induction gaps generalizing offset items with
  | nil =>
      obtain rfl := List.eq_nil_of_length_eq_zero (Nat.le_zero.mp enough)
      exact ⟨rfl, rfl⟩
  | cons gap rest inductionHypothesis =>
      cases items with
      | nil =>
          have noItems : ([] : List α).length ≤ rest.length := Nat.zero_le _
          obtain ⟨gapExtents, itemExtents⟩ := inductionHypothesis (offset + gap) noItems
          simp [alternate, gapExtents, itemExtents]
      | cons item others =>
          obtain ⟨gapExtents, itemExtents⟩ :=
            inductionHypothesis (offset + gap + item) (Nat.le_of_succ_le_succ enough)
          simp [alternate, gapExtents, itemExtents]

end Stretch

/-- The two axes of a frame lie along the two axes of the canvas. -/
theorem Compass.cross_axis_eq
    (frame : Compass) :
    frame.cross.axis = frame.main.axis.other := by
  obtain ⟨first, second, crossing⟩ := frame
  revert crossing
  cases first <;> cases second <;> simp [Direction.axis, Axis.other]

/-- What holds along both axes of a frame holds along each axis of the canvas. -/
theorem Compass.forall_axis
    {holds : Axis → Prop}
    (frame : Compass)
    (alongMain : holds frame.main.axis)
    (alongCross : holds frame.cross.axis) :
    ∀ axis, holds axis := by
  rw [frame.cross_axis_eq] at alongCross
  intro axis
  cases isMain : frame.main.axis with
  | main =>
      rw [isMain] at alongMain alongCross
      cases axis with
      | main =>
          exact alongMain
      | cross =>
          exact alongCross
  | cross =>
      rw [isMain] at alongMain alongCross
      cases axis with
      | main =>
          exact alongCross
      | cross =>
          exact alongMain

/-- An item starts in the free space across the flow and leaves none of itself outside. -/
theorem Alignment.offset_mem
    (alignment : Alignment)
    (available item : Rat) :
    0 ≤ alignment.offset available item ∧
      alignment.offset available item ≤ max (available - item) 0 := by
  have isFree : (0 : Rat) ≤ max (available - item) 0 := le_max_right _ _
  cases alignment with
  | start =>
      exact ⟨le_rfl, isFree⟩
  | center =>
      simp only [offset, Scalar.positivePart_rat, Scalar.half_rat, Scalar.floor_rat]
      have halfFree : 0 ≤ max (available - item) 0 / 2 := by
        linarith
      constructor
      · exact_mod_cast Int.floor_nonneg.mpr halfFree
      · have roundedDown := Int.floor_le (max (available - item) 0 / 2)
        linarith
  | last =>
      simp only [offset, Scalar.positivePart_rat]
      exact ⟨isFree, le_rfl⟩

/-- The contents of a container lie in a rectangle, and children overlap nothing. -/
structure Arrangement.IsIn (area : Bounds Rat) (arrangement : Arrangement Rat) : Prop where
  gapsInside : ∀ gap ∈ arrangement.gaps, gap.IsInside area
  itemsInside : ∀ item ∈ arrangement.items, item.IsInside area
  edgesInside :
    arrangement.startEdge.IsInside area ∧ arrangement.endEdge.IsInside area
  gapsApart : arrangement.gaps.Pairwise Bounds.IsApart
  itemsApart : arrangement.items.Pairwise Bounds.IsApart
  gapOrItem : ∀ gap ∈ arrangement.gaps, ∀ item ∈ arrangement.items, gap.IsApart item
  edgeOrItem :
    ∀ item ∈ arrangement.items,
      arrangement.startEdge.IsApart item ∧ arrangement.endEdge.IsApart item

namespace Body

variable {body : Body Rat}

/-- Along the flow, a rectangle ranges as its forward stretch. -/
theorem range_main_onCanvas
    (body : Body Rat)
    (forward sideways : Stretch Rat) :
    (body.onCanvas forward sideways).range body.frame.main.axis =
      forward.within (body.bounds.range body.frame.main.axis) (body.frame.isReversed .main) :=
  Bounds.range_ofRanges _ _ _

/-- Across the flow, a rectangle ranges as its sideways stretch. -/
theorem range_cross_onCanvas
    (body : Body Rat)
    (forward sideways : Stretch Rat) :
    (body.onCanvas forward sideways).range body.frame.cross.axis =
      sideways.within (body.bounds.range body.frame.cross.axis)
        (body.frame.isReversed .cross) := by
  conv_lhs => rw [body.frame.cross_axis_eq]
  exact Bounds.range_other_ofRanges _ _ _

/-- Stretches within both axes make a rectangle inside. -/
theorem isInside_onCanvas
    {forward sideways : Stretch Rat}
    (forwardInside : forward.IsBetween 0 (body.extent .main))
    (sidewaysInside : sideways.IsBetween 0 (body.extent .cross)) :
    (body.onCanvas forward sideways).IsInside body.bounds := by
  refine body.frame.forall_axis ?_ ?_
  · rw [range_main_onCanvas]
    exact forwardInside.within (body.frame.isReversed .main)
  · rw [range_cross_onCanvas]
    exact sidewaysInside.within (body.frame.isReversed .cross)

/-- Stretches that follow each other along the flow make rectangles apart. -/
theorem isApart_of_forward
    {first second : Stretch Rat}
    (isBefore : first.IsBefore second)
    (sideways other : Stretch Rat) :
    (body.onCanvas first sideways).IsApart (body.onCanvas second other) := by
  refine ⟨body.frame.main.axis, ?_⟩
  rw [range_main_onCanvas, range_main_onCanvas]
  exact isBefore.within _ _

/-- Stretches one after another across the flow are rectangles apart. -/
theorem isApart_of_sideways
    {first second : Stretch Rat}
    (isBefore : first.IsBefore second)
    (forward other : Stretch Rat) :
    (body.onCanvas forward first).IsApart (body.onCanvas other second) := by
  refine ⟨body.frame.cross.axis, ?_⟩
  rw [range_cross_onCanvas, range_cross_onCanvas]
  exact isBefore.within _ _

/-- A rectangle of the extents of an item has its size. -/
theorem hasSize_onCanvas
    {item : Item Rat}
    {forward sideways : Stretch Rat}
    (sameLength : forward.extent = body.itemExtent .main item)
    (sameBreadth : sideways.extent = body.itemExtent .cross item) :
    (body.onCanvas forward sideways).HasSize item.size := by
  refine body.frame.forall_axis ?_ ?_
  · rw [Bounds.extent, range_main_onCanvas, Stretch.extent_within, sameLength]
    rfl
  · rw [Bounds.extent, range_cross_onCanvas, Stretch.extent_within, sameBreadth]
    rfl

/-- A body has room for gaps, edge roads and items. -/
structure HasRoom
    (body : Body Rat)
    (gapWidths : List Rat)
    (startWidth endWidth : Rat)
    (items : List (Item Rat)) : Prop where
  gapsMeasured : ∀ width ∈ gapWidths, 0 ≤ width
  startMeasured : 0 ≤ startWidth
  endMeasured : 0 ≤ endWidth
  itemsMeasured : ∀ item ∈ items, item.size.IsMeasured
  enoughGaps : items.length ≤ gapWidths.length
  length :
    gapWidths.sum + (items.map (body.itemExtent .main)).sum ≤ body.extent .main
  breadth : startWidth + endWidth ≤ body.extent .cross
  itemBreadth :
    ∀ item ∈ items, startWidth + endWidth + body.itemExtent .cross item ≤ body.extent .cross

namespace HasRoom

variable {gapWidths : List Rat} {startWidth endWidth : Rat} {items : List (Item Rat)}

/-- Across the flow an item lies between the edge roads. -/
theorem sidewaysStretch
    (room : body.HasRoom gapWidths startWidth endWidth items)
    {item : Item Rat}
    (member : item ∈ items) :
    (body.sidewaysStretch startWidth endWidth item).IsBetween startWidth
      (body.extent .cross - endWidth) := by
  have itemMeasured : 0 ≤ body.itemExtent .cross item := room.itemsMeasured item member _
  have fits := room.itemBreadth item member
  have available :
      max (body.extent .cross - startWidth - endWidth) 0 =
        body.extent .cross - startWidth - endWidth := by
    rw [max_eq_left]
    linarith
  obtain ⟨afterStart, beforeEnd⟩ :=
    item.alignment.offset_mem (body.extent .cross - startWidth - endWidth)
      (body.itemExtent .cross item)
  rw [max_eq_left (by linarith)] at beforeEnd
  simp only [Body.sidewaysStretch, Scalar.positivePart_rat, available]
  refine ⟨?_, itemMeasured, ?_⟩
  · simpa using afterStart
  · simp only
    linarith

/-- No item has a negative extent. -/
theorem extents_measured
    (room : body.HasRoom gapWidths startWidth endWidth items) :
    ∀ extent ∈ items.map (body.itemExtent .main), 0 ≤ extent := by
  intro extent member
  obtain ⟨item, isItem, rfl⟩ := List.mem_map.mp member
  exact room.itemsMeasured item isItem _

/-- Along the flow gaps and items have their own extents. -/
theorem extents_alternate
    (room : body.HasRoom gapWidths startWidth endWidth items) :
    (Stretch.alternate Scalar.zero gapWidths (items.map (body.itemExtent .main))).1.map
          (·.extent) = gapWidths ∧
      (Stretch.alternate Scalar.zero gapWidths (items.map (body.itemExtent .main))).2.map
          (·.extent) = items.map (body.itemExtent .main) := by
  apply Stretch.extents_alternate
  rw [List.length_map]
  exact room.enoughGaps

/-- Gaps and items lie in a row from end to end of the body. -/
theorem areInRow
    (room : body.HasRoom gapWidths startWidth endWidth items) :
    Stretch.AreInRow 0 (body.extent .main)
      (Stretch.alternate Scalar.zero gapWidths (items.map (body.itemExtent .main))).1
      (Stretch.alternate Scalar.zero gapWidths (items.map (body.itemExtent .main))).2 := by
  have row := Stretch.areInRow_alternate 0 room.gapsMeasured room.extents_measured
  exact { row with
    between := fun stretch member =>
      (row.between stretch member).mono le_rfl (by simpa using room.length) }

/-- The place of each item comes of its stretch along the flow. -/
theorem exists_stretch_of_getElem?
    (room : body.HasRoom gapWidths startWidth endWidth items)
    {index : Nat}
    {area : Bounds Rat}
    (isArea :
      (body.arrange gapWidths startWidth endWidth items).items[index]? = some area) :
    ∃ item forward, items[index]? = some item ∧
      (Stretch.alternate Scalar.zero gapWidths (items.map (body.itemExtent .main))).2[index]? =
          some forward ∧
        forward.extent = body.itemExtent .main item ∧
          area = body.onCanvas forward (body.sidewaysStretch startWidth endWidth item) := by
  simp only [arrange, List.getElem?_map, Option.map_eq_some_iff, List.getElem?_zip_eq_some,
    Prod.exists] at isArea
  obtain ⟨forward, item, ⟨isForward, isItem⟩, rfl⟩ := isArea
  have sameExtent := congrArg (·[index]?) room.extents_alternate.2
  simp only [List.getElem?_map, isForward, isItem, Option.map_some, Option.some.injEq]
    at sameExtent
  exact ⟨item, forward, isItem, isForward, sameExtent, rfl⟩

/-- Each item has its size. -/
theorem hasSize_item
    (room : body.HasRoom gapWidths startWidth endWidth items)
    {index : Nat}
    {item : Item Rat}
    {area : Bounds Rat}
    (isItem : items[index]? = some item)
    (isArea :
      (body.arrange gapWidths startWidth endWidth items).items[index]? = some area) :
    area.HasSize item.size := by
  obtain ⟨other, forward, isOther, _, sameExtent, rfl⟩ := room.exists_stretch_of_getElem? isArea
  obtain rfl := Option.some.inj (isItem.symm.trans isOther)
  exact hasSize_onCanvas sameExtent rfl

/-- A body with room is not turned inside out. -/
theorem extent_nonneg
    (room : body.HasRoom gapWidths startWidth endWidth items) :
    0 ≤ body.extent .main ∧ 0 ≤ body.extent .cross := by
  have gapSum : 0 ≤ gapWidths.sum := List.sum_nonneg room.gapsMeasured
  have itemSum : 0 ≤ (items.map (body.itemExtent .main)).sum :=
    List.sum_nonneg room.extents_measured
  have length := room.length
  have breadth := room.breadth
  have startMeasured := room.startMeasured
  have endMeasured := room.endMeasured
  constructor <;> linarith

/-- Each gap takes all of the body across the flow. -/
theorem exists_stretch_of_mem_gaps
    {area : Bounds Rat}
    (member : area ∈ (body.arrange gapWidths startWidth endWidth items).gaps) :
    ∃ forward ∈
        (Stretch.alternate Scalar.zero gapWidths (items.map (body.itemExtent .main))).1,
      area = body.onCanvas forward ⟨Scalar.zero, body.extent .cross⟩ := by
  obtain ⟨forward, isForward, rfl⟩ := List.mem_map.mp member
  exact ⟨forward, isForward, rfl⟩

/-- Each item lies between the edge roads. -/
theorem exists_stretch_of_mem_items
    (room : body.HasRoom gapWidths startWidth endWidth items)
    {area : Bounds Rat}
    (member : area ∈ (body.arrange gapWidths startWidth endWidth items).items) :
    ∃ item ∈ items, ∃ forward ∈
        (Stretch.alternate Scalar.zero gapWidths (items.map (body.itemExtent .main))).2,
      area = body.onCanvas forward (body.sidewaysStretch startWidth endWidth item) := by
  obtain ⟨index, isArea⟩ := List.mem_iff_getElem?.mp member
  obtain ⟨item, forward, isItem, isForward, _, rfl⟩ := room.exists_stretch_of_getElem? isArea
  exact ⟨item, List.mem_of_getElem? isItem, forward, List.mem_of_getElem? isForward, rfl⟩

/-- Any two items are apart. -/
theorem itemsApart
    (room : body.HasRoom gapWidths startWidth endWidth items) :
    (body.arrange gapWidths startWidth endWidth items).items.Pairwise Bounds.IsApart := by
  have counted :
      (Stretch.alternate Scalar.zero gapWidths (items.map (body.itemExtent .main))).2.length ≤
        items.length := by
    have sameLength := congrArg List.length room.extents_alternate.2
    rw [List.length_map, List.length_map] at sameLength
    exact sameLength.le
  have followed := room.areInRow.itemsApart
  rw [← List.map_fst_zip counted, List.pairwise_map] at followed
  rw [arrange, List.pairwise_map]
  exact followed.imp fun isBefore => isApart_of_forward isBefore _ _

/-- With room for everything the contents lie inside and children overlap nothing. -/
theorem isIn_arrange
    (room : body.HasRoom gapWidths startWidth endWidth items) :
    (body.arrange gapWidths startWidth endWidth items).IsIn body.bounds := by
  have row := room.areInRow
  obtain ⟨lengthMeasured, breadthMeasured⟩ := room.extent_nonneg
  have startMeasured := room.startMeasured
  have endMeasured := room.endMeasured
  have breadth := room.breadth
  have wholeLength :
      (⟨Scalar.zero, body.extent .main⟩ : Stretch Rat).IsBetween 0 (body.extent .main) :=
    ⟨le_rfl, lengthMeasured, (zero_add _).le⟩
  have wholeBreadth :
      (⟨Scalar.zero, body.extent .cross⟩ : Stretch Rat).IsBetween 0 (body.extent .cross) :=
    ⟨le_rfl, breadthMeasured, (zero_add _).le⟩
  constructor
  case gapsInside =>
    intro area member
    obtain ⟨forward, isForward, rfl⟩ := exists_stretch_of_mem_gaps member
    exact isInside_onCanvas (row.between forward (.inl isForward)) wholeBreadth
  case itemsInside =>
    intro area member
    obtain ⟨item, isItem, forward, isForward, rfl⟩ := room.exists_stretch_of_mem_items member
    exact isInside_onCanvas (row.between forward (.inr isForward))
      ((room.sidewaysStretch isItem).mono startMeasured (sub_le_self _ endMeasured))
  case edgesInside =>
    constructor
    · refine isInside_onCanvas wholeLength ⟨le_rfl, startMeasured, ?_⟩
      rw [Scalar.zero_rat]
      linarith
    · refine isInside_onCanvas wholeLength ⟨?_, endMeasured, ?_⟩ <;> simp only <;> linarith
  case gapsApart =>
    rw [arrange, List.pairwise_map]
    exact row.gapsApart.imp fun isBefore => isApart_of_forward isBefore _ _
  case itemsApart =>
    exact room.itemsApart
  case gapOrItem =>
    intro gap isGap area member
    obtain ⟨before, isBefore, rfl⟩ := exists_stretch_of_mem_gaps isGap
    obtain ⟨item, _, forward, isForward, rfl⟩ := room.exists_stretch_of_mem_items member
    rcases row.gapOrItem before isBefore forward isForward with gapFirst | itemFirst
    · exact isApart_of_forward gapFirst _ _
    · exact (isApart_of_forward itemFirst _ _).symm
  case edgeOrItem =>
    intro area member
    obtain ⟨item, isItem, forward, _, rfl⟩ := room.exists_stretch_of_mem_items member
    obtain ⟨afterStart, _, beforeEnd⟩ := room.sidewaysStretch isItem
    have startFirst :
        (⟨Scalar.zero, startWidth⟩ : Stretch Rat).IsBefore
          (body.sidewaysStretch startWidth endWidth item) :=
      (zero_add startWidth).le.trans afterStart
    have endLast :
        (body.sidewaysStretch startWidth endWidth item).IsBefore
          ⟨body.extent .cross - endWidth, endWidth⟩ :=
      beforeEnd
    exact ⟨isApart_of_sideways startFirst _ _, (isApart_of_sideways endLast _ _).symm⟩

end HasRoom

end Body

end BoxDiagram
