import BoxDiagram.Proofs.Diagram.Measured
import BoxDiagram.Proofs.Layout.Arrangement
import BoxDiagram.Proofs.Layout.Placement

namespace BoxDiagram

/-!
# Boxes have room for what they hold

The size of a box is that of its content with all strips around it, and the content of
a container is as large as its body with the label above.  A box that was given its size
therefore leaves its strips free and has room for its label, roads and children.
-/

/-- No road has a negative width. -/
theorem RoadLanes.width_nonneg
    {laneWidth : Rat}
    (lanes : RoadLanes)
    (measured : 0 ≤ laneWidth) :
    0 ≤ lanes.width laneWidth :=
  mul_nonneg (Nat.cast_nonneg _) measured

/-- The strips of a box are the margin outside and the other two layers inside. -/
theorem Spacing.along_total
    (spacing : Spacing Rat)
    (axis : Axis) :
    spacing.total.along axis = spacing.margin.along axis + spacing.inner.along axis := by
  rw [total, inner, Insets.along_add, Insets.along_add, Insets.along_add, add_assoc]

/-- Border and padding together are not negative. -/
theorem Spacing.IsMeasured.inner
    {spacing : Spacing Rat}
    (measured : spacing.IsMeasured) :
    spacing.inner.IsMeasured :=
  measured.border.add measured.padding

/-- A padded size is not negative. -/
theorem Size.IsMeasured.pad
    {size : Size Rat}
    {insets : Insets Rat}
    (measured : size.IsMeasured)
    (insetsMeasured : insets.IsMeasured) :
    (size.pad insets).IsMeasured := by
  intro axis
  rw [along_pad]
  exact add_nonneg (measured axis) (insetsMeasured.along_nonneg axis)

namespace LayoutInput

/-- The size of the body of a container with sized children. -/
def bodyOf
    (input : LayoutInput Rat)
    (node : Node Rat)
    (roads : OwnRoads)
    (children : List (SizedBox Rat)) : Size Rat :=
  bodySize input.diagram.document.laneWidth node.itemFrame roads (children.map (·.outer))

/-- No extent of a diagram or a label is negative. -/
structure IsMeasured (input : LayoutInput Rat) : Prop where
  diagram : input.diagram.IsMeasured
  label : ∀ {id : NodeId} {size : Size Rat}, input.label? id = some size → size.IsMeasured

section Sizes

variable
  {laneWidth : Rat}
  {frame : Compass}
  {roads : OwnRoads}
  {children : List (Size Rat)}
  {label : Option (Size Rat)}

/-- A body is as long as its gaps and children together. -/
theorem along_main_bodySize :
    (bodySize laneWidth frame roads children).along frame.main.axis =
      (roads.gaps.map (·.width laneWidth)).sum +
        (children.map (·.along frame.main.axis)).sum := by
  rw [bodySize, Size.along_ofAxis, Scalar.foldl_add_rat, Scalar.sum_rat, add_comm]

/-- A body is as broad as its widest child and the edge roads. -/
theorem along_cross_bodySize :
    (bodySize laneWidth frame roads children).along frame.cross.axis =
      (children.map (·.along frame.cross.axis)).foldl Scalar.larger Scalar.zero +
        (roads.startEdge.width laneWidth + roads.endEdge.width laneWidth) := by
  rw [bodySize, frame.cross_axis_eq, Size.along_other_ofAxis]

/-- No child is wider than the widest one. -/
theorem along_le_widest
    {child : Size Rat}
    (member : child ∈ children)
    (axis : Axis) :
    child.along axis ≤ (children.map (·.along axis)).foldl Scalar.larger Scalar.zero :=
  Scalar.le_foldl_larger (.inr (List.mem_map_of_mem member))

/-- The body of a container has no negative size. -/
theorem isMeasured_bodySize
    (laneMeasured : 0 ≤ laneWidth)
    (childrenMeasured : ∀ child ∈ children, child.IsMeasured) :
    (bodySize laneWidth frame roads children).IsMeasured := by
  refine frame.forall_axis ?_ ?_
  · rw [along_main_bodySize]
    refine add_nonneg (List.sum_nonneg ?_) (List.sum_nonneg ?_)
    · intro width member
      obtain ⟨lanes, _, rfl⟩ := List.mem_map.mp member
      exact lanes.width_nonneg laneMeasured
    · intro extent member
      obtain ⟨child, isChild, rfl⟩ := List.mem_map.mp member
      exact childrenMeasured child isChild _
  · rw [along_cross_bodySize]
    exact add_nonneg (Scalar.le_foldl_larger (.inl rfl))
      (add_nonneg (roads.startEdge.width_nonneg laneMeasured)
        (roads.endEdge.width_nonneg laneMeasured))

/-- The content of a container has no negative size. -/
theorem isMeasured_containerContent
    {body : Size Rat}
    (bodyMeasured : body.IsMeasured)
    (labelMeasured : ∀ size ∈ label, size.IsMeasured) :
    (containerContent body label).IsMeasured := by
  cases label with
  | none =>
      exact bodyMeasured
  | some size =>
      intro axis
      cases axis with
      | main =>
          simp only [containerContent, Size.along, Scalar.larger_rat]
          exact le_max_of_le_left (bodyMeasured .main)
      | cross =>
          exact add_nonneg (bodyMeasured .cross) (labelMeasured size rfl .cross)

/-- The content of a cell has no negative size. -/
theorem isMeasured_cellContent
    {node : Node Rat}
    (measured : node.IsMeasured)
    (labelMeasured : ∀ size ∈ label, size.IsMeasured) :
    (cellContent node label).IsMeasured := by
  have shown : (label.getD Size.zero).IsMeasured := by
    cases label with
    | none =>
        intro axis
        cases axis <;> exact le_rfl
    | some size =>
        exact labelMeasured size rfl
  intro axis
  cases axis with
  | main =>
      cases isSet : node.width with
      | none =>
          simpa [cellContent, Size.along, isSet] using shown .main
      | some width =>
          simpa [cellContent, Size.along, isSet] using measured.width width isSet
  | cross =>
      cases isSet : node.height with
      | none =>
          simpa [cellContent, Size.along, isSet] using shown .cross
      | some height =>
          simpa [cellContent, Size.along, isSet] using measured.height height isSet

end Sizes

namespace IsMeasured

variable {input : LayoutInput Rat}

/-- The body of a container with sized children has a size. -/
theorem bodyOf
    {node : Node Rat}
    {roads : OwnRoads}
    {children : List (SizedBox Rat)}
    (measured : input.IsMeasured)
    (childrenMeasured : ∀ child ∈ children, child.outer.IsMeasured) :
    (input.bodyOf node roads children).IsMeasured := by
  apply isMeasured_bodySize measured.diagram.document.laneWidth
  intro size member
  obtain ⟨child, isChild, rfl⟩ := List.mem_map.mp member
  exact childrenMeasured child isChild

/-- The sizes of boxes are not negative. -/
theorem outer_of_measure
    {limit levels : Nat}
    {id : NodeId}
    {box : SizedBox Rat}
    (measured : input.IsMeasured)
    (succeeded : input.measure limit levels id = .ok box) :
    box.outer.IsMeasured := by
  induction levels generalizing id box with
  | zero =>
      cases succeeded
  | succ levels inductionHypothesis =>
      obtain ⟨node, found, cellOrContainer⟩ := measure_cases succeeded
      have nodeMeasured := measured.diagram.node found
      have strips : node.spacing.total.IsMeasured :=
        (nodeMeasured.spacing.margin.add nodeMeasured.spacing.border).add
          nodeMeasured.spacing.padding
      rcases cellOrContainer with
        ⟨_, rfl⟩ | ⟨_, children, roads, childrenFound, _, rfl⟩
      · exact (isMeasured_cellContent nodeMeasured fun size isLabel =>
          measured.label isLabel).pad strips
      · have bodyMeasured : (input.bodyOf node roads children).IsMeasured := by
          apply measured.bodyOf
          intro child member
          obtain ⟨childId, _, childFound⟩ := Attempt.exists_of_mem_mapM childrenFound member
          exact inductionHypothesis childFound
        exact (isMeasured_containerContent bodyMeasured fun size isLabel =>
          measured.label isLabel).pad strips

end IsMeasured

end LayoutInput

namespace BoxBounds

/-- The strips of a box are left free, and its content has a given size. -/
structure Fits (bounds : BoxBounds Rat) (spacing : Spacing Rat) (content : Size Rat) : Prop where
  margin : Bounds.IsShrunk spacing.margin bounds.visible bounds.outer
  inner : Bounds.IsShrunk spacing.inner bounds.content bounds.visible
  hasSize : bounds.content.HasSize content

/-- A box of the size of its content with its strips leaves the strips free. -/
theorem fits_ofOuter
    {spacing : Spacing Rat}
    {content : Size Rat}
    {outer : Bounds Rat}
    (spacingMeasured : spacing.IsMeasured)
    (contentMeasured : content.IsMeasured)
    (hasSize : outer.HasSize (content.pad spacing.total)) :
    (ofOuter spacing outer).Fits spacing content := by
  have outerExtent (axis : Axis) :
      outer.extent axis =
        content.along axis + (spacing.margin.along axis + spacing.inner.along axis) := by
    rw [hasSize axis, Size.along_pad, spacing.along_total]
  have visible : Bounds.IsShrunk spacing.margin (ofOuter spacing outer).visible outer := by
    apply Bounds.isShrunk_shrink
    intro axis
    have inside := contentMeasured axis
    have strips := spacingMeasured.inner.along_nonneg axis
    rw [outerExtent]
    linarith
  have visibleExtent (axis : Axis) :
      (ofOuter spacing outer).visible.extent axis =
        content.along axis + spacing.inner.along axis := by
    rw [visible.extent_eq, outerExtent]
    ring
  have isContent :
      Bounds.IsShrunk spacing.inner (ofOuter spacing outer).content
        (ofOuter spacing outer).visible := by
    apply Bounds.isShrunk_shrink
    intro axis
    exact (le_add_of_nonneg_left (contentMeasured axis)).trans (visibleExtent axis).ge
  refine ⟨visible, isContent, fun axis => ?_⟩
  rw [isContent.extent_eq, visibleExtent, add_sub_cancel_right]

/-- An area lies in the content, below the strip of a label if there is one. -/
structure Holds (content : Bounds Rat) (label : Option (Size Rat)) (area : Bounds Rat) : Prop where
  inside : area.IsInside content
  belowLabel : ∀ size ∈ label, content.minY + size.height ≤ area.minY

variable {bounds : BoxBounds Rat} {body : Size Rat} {label : Option (Size Rat)}

/-- The strip of a label that has room is cut off at the top of the content. -/
theorem belowHeader_eq
    {size : Size Rat}
    (fits : size.height ≤ bounds.content.extent .cross) :
    bounds.belowHeader size =
      { bounds.content with minY := bounds.content.minY + size.height } := by
  have room : size.height ≤ bounds.content.height := fits
  rw [belowHeader, header, Bounds.ofTopLeft, Scalar.positivePart_rat,
    max_eq_left (sub_nonneg.mpr room)]
  simp only [Bounds.topLeft, Bounds.width, Bounds.height, Bounds.ofTopLeft, Bounds.mk.injEq,
    true_and]
  constructor <;> ring

/-- A label is not higher than the content that it is part of. -/
theorem height_le_of_hasSize
    {size : Size Rat}
    (hasSize : bounds.content.HasSize (LayoutInput.containerContent body (some size)))
    (bodyMeasured : body.IsMeasured) :
    size.height ≤ bounds.content.extent .cross := by
  rw [hasSize .cross]
  exact le_add_of_nonneg_left (bodyMeasured .cross)

/-- The content of a container has room for its body below its label. -/
theorem along_le_extent_body
    (hasSize : bounds.content.HasSize (LayoutInput.containerContent body label))
    (bodyMeasured : body.IsMeasured)
    (axis : Axis) :
    body.along axis ≤ (bounds.body label).extent axis := by
  cases label with
  | none =>
      exact (hasSize axis).ge
  | some size =>
      rw [BoxBounds.body, belowHeader_eq (height_le_of_hasSize hasSize bodyMeasured)]
      have contentExtent := hasSize axis
      cases axis with
      | main =>
          refine le_of_le_of_eq ?_ contentExtent.symm
          simp only [LayoutInput.containerContent, Size.along, Scalar.larger_rat]
          exact le_max_left _ _
      | cross =>
          simp only [LayoutInput.containerContent, Bounds.extent, Bounds.range,
            Size.along] at contentExtent ⊢
          linarith

/-- What lies in the body of a container lies in its content and below its label. -/
theorem holds_of_isInside_body
    {area : Bounds Rat}
    (hasSize : bounds.content.HasSize (LayoutInput.containerContent body label))
    (bodyMeasured : body.IsMeasured)
    (labelMeasured : ∀ size ∈ label, size.IsMeasured)
    (isInside : area.IsInside (bounds.body label)) :
    Holds bounds.content label area := by
  cases label with
  | none =>
      exact ⟨isInside, fun _ isLabel => nomatch isLabel⟩
  | some size =>
      rw [BoxBounds.body, belowHeader_eq (height_le_of_hasSize hasSize bodyMeasured)] at isInside
      have height : 0 ≤ size.height := labelMeasured size rfl .cross
      constructor
      case inside =>
        intro axis
        obtain ⟨after, ordered, before⟩ := isInside axis
        refine ⟨?_, ordered, ?_⟩
        · cases axis with
          | main =>
              exact after
          | cross =>
              exact (le_add_of_nonneg_right height).trans after
        · cases axis <;> exact before
      case belowLabel =>
        intro shown isLabel
        cases isLabel
        exact (isInside .cross).1

end BoxBounds

namespace SizedBox

variable
  {laneWidth : Rat}
  {node : Node Rat}
  {roads : OwnRoads}
  {children : List (SizedBox Rat)}
  {area : Bounds Rat}

/-- A body of the size that was found for it has room for its roads and children. -/
theorem hasRoom
    (laneMeasured : 0 ≤ laneWidth)
    (childrenMeasured : ∀ child ∈ children, child.outer.IsMeasured)
    (enough : roads.gaps.length = children.length + 1)
    (fits :
      ∀ axis,
        (LayoutInput.bodySize laneWidth node.itemFrame roads (children.map (·.outer))).along axis ≤
          area.extent axis) :
    Body.HasRoom ⟨area, node.itemFrame⟩ (roads.gaps.map (·.width laneWidth))
      (roads.startEdge.width laneWidth) (roads.endEdge.width laneWidth)
      (children.map (item node)) := by
  have breadth := fits node.itemFrame.cross.axis
  rw [LayoutInput.along_cross_bodySize] at breadth
  constructor
  case gapsMeasured =>
    intro width member
    obtain ⟨lanes, _, rfl⟩ := List.mem_map.mp member
    exact lanes.width_nonneg laneMeasured
  case startMeasured =>
    exact roads.startEdge.width_nonneg laneMeasured
  case endMeasured =>
    exact roads.endEdge.width_nonneg laneMeasured
  case itemsMeasured =>
    intro shown member
    obtain ⟨child, isChild, rfl⟩ := List.mem_map.mp member
    exact childrenMeasured child isChild
  case enoughGaps =>
    rw [List.length_map, List.length_map, enough]
    exact Nat.le_succ _
  case length =>
    have length := fits node.itemFrame.main.axis
    rw [LayoutInput.along_main_bodySize, List.map_map] at length
    rw [List.map_map]
    exact length
  case breadth =>
    have widest : (0 : Rat) ≤ _ :=
      Scalar.le_foldl_larger (.inl rfl :
        (0 : Rat) = 0 ∨
          0 ∈ (children.map (·.outer)).map (·.along node.itemFrame.cross.axis))
    exact (le_add_of_nonneg_left widest).trans breadth
  case itemBreadth =>
    intro shown member
    obtain ⟨child, isChild, rfl⟩ := List.mem_map.mp member
    have narrower :=
      LayoutInput.along_le_widest (List.mem_map_of_mem isChild : child.outer ∈ _)
        node.itemFrame.cross.axis
    rw [add_comm]
    exact (add_le_add_left narrower _).trans breadth

end SizedBox

end BoxDiagram
