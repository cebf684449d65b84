import BoxDiagram.Proofs.Diagram.Numbers
import BoxDiagram.Proofs.Layout.Arrangement
import BoxDiagram.Proofs.Layout.Numbers
import BoxDiagram.Proofs.Layout.Sizing
import BoxDiagram.Proofs.Number.Bounded

namespace BoxDiagram

open Single (IsExtent IsMeasure IsUpTo grain isRepresentable_zero rounds_add value)

/-!
# The parts of a box fit into it

In single precision a sum of extents may be infinite, but where it is not, its terms
exceed it at most by one grain.  So the strips, the label, the children and the roads of a
box that is not too large fit into it, but for a few grains.
-/

/-- What holds at both ends of each axis holds of every strip. -/
theorem Insets.each_of_axes
    {α : Type}
    {holds : α → Prop}
    {insets : Insets α}
    (axes :
      ∀ axis : Axis, holds (insets.side axis.forward.reverse) ∧ holds (insets.side axis.forward)) :
    insets.Each holds
  | .right => (axes .main).2
  | .down => (axes .cross).2
  | .left => (axes .main).1
  | .up => (axes .cross).1

/-- A size grows by the sum of both strips. -/
theorem Size.along_pad_eq
    {α : Type}
    [Scalar α]
    (size : Size α)
    (insets : Insets α)
    (axis : Axis) :
    (size.pad insets).along axis =
      size.along axis + (insets.side axis.forward.reverse + insets.side axis.forward) := by
  cases axis <;> rfl

section Strips

variable {bound : Rat} {first second insets : Insets Float32} {size : Size Float32}

/-- Sums of strips that are extents are extents. -/
theorem Insets.isExtent_add
    (firstExtent : first.Each IsExtent)
    (secondExtent : second.Each IsExtent) :
    (first.add second).Each IsExtent := by
  intro direction
  rw [Insets.side_add]
  exact (firstExtent direction).add (secondExtent direction)

/-- A size that is padded by extents is one of extents. -/
theorem Size.isExtent_pad
    (sizeExtent : size.Each IsExtent)
    (insetsExtent : insets.Each IsExtent) :
    (size.pad insets).Each IsExtent := by
  intro axis
  rw [along_pad_eq]
  exact (sizeExtent axis).add ((insetsExtent _).add (insetsExtent _))

/-- What is padded, and the strips, have the bound of the padded size. -/
theorem Size.isUpTo_of_pad
    (sizeExtent : size.Each IsExtent)
    (insetsExtent : insets.Each IsExtent)
    (upTo : (size.pad insets).Each (IsUpTo bound)) :
    size.Each (IsUpTo bound) ∧ insets.Each (IsUpTo bound) := by
  have parts :
      ∀ axis,
        IsUpTo bound (size.along axis) ∧
          IsUpTo bound (insets.side axis.forward.reverse + insets.side axis.forward) := by
    intro axis
    have sum := upTo axis
    rw [along_pad_eq] at sum
    exact IsUpTo.of_add (sizeExtent axis) ((insetsExtent _).add (insetsExtent _)) sum
  exact ⟨fun axis => (parts axis).1,
    Insets.each_of_axes fun axis =>
      IsUpTo.of_add (insetsExtent _) (insetsExtent _) (parts axis).2⟩

end Strips

/-- Strips that are measures are extents. -/
theorem Spacing.Each.of_isMeasure
    {spacing : Spacing Float32}
    (measures : spacing.Each IsMeasure) :
    spacing.Each IsExtent := by
  obtain ⟨margin, border, padding⟩ := measures
  exact ⟨fun side => (margin side).isExtent, fun side => (border side).isExtent,
    fun side => (padding side).isExtent⟩

/-- All layers together are extents. -/
theorem Spacing.isExtent_total
    {spacing : Spacing Float32}
    (extent : spacing.Each IsExtent) :
    spacing.total.Each IsExtent :=
  Insets.isExtent_add (Insets.isExtent_add extent.margin extent.border) extent.padding

/-- The roads of a container, the edges first. -/
def OwnRoads.all (roads : OwnRoads) : List RoadLanes :=
  roads.startEdge :: roads.endEdge :: roads.gaps

namespace LayoutInput

section Sizes

variable
  {laneWidth : Float32}
  {frame : Compass}
  {roads : OwnRoads}
  {children : List (Size Float32)}
  {label : Option (Size Float32)}
  {bound : Rat}

/-- The body of a container has a size of extents. -/
theorem isExtent_bodySize
    (roadsExtent : ∀ lanes ∈ roads.all, IsExtent (lanes.width laneWidth))
    (childrenExtent : ∀ child ∈ children, child.Each IsExtent) :
    (bodySize laneWidth frame roads children).Each IsExtent := by
  have zeroExtent : IsExtent (Scalar.zero : Float32) := (IsUpTo.zero le_rfl).isExtent
  have along :
      ∀ axis, ∀ extent ∈ children.map (·.along axis), IsExtent extent := by
    intro axis
    exact List.forall_mem_map.mpr fun child member => childrenExtent child member axis
  rw [OwnRoads.all, List.forall_mem_cons, List.forall_mem_cons] at roadsExtent
  obtain ⟨startExtent, endExtent, gapsExtent⟩ := roadsExtent
  refine frame.forall_axis ?_ ?_
  · rw [bodySize, Size.along_ofAxis]
    exact IsExtent.foldl IsExtent.add (IsExtent.foldl IsExtent.add zeroExtent (along _))
      (List.forall_mem_map.mpr gapsExtent)
  · rw [bodySize, frame.cross_axis_eq, Size.along_other_ofAxis]
    exact (IsExtent.foldl IsExtent.larger zeroExtent (along _)).add (startExtent.add endExtent)

/-- The children and roads of a small body are small. -/
theorem isUpTo_of_bodySize
    (roadsExtent : ∀ lanes ∈ roads.all, IsExtent (lanes.width laneWidth))
    (childrenExtent : ∀ child ∈ children, child.Each IsExtent)
    (upTo : (bodySize laneWidth frame roads children).Each (IsUpTo bound)) :
    (∀ lanes ∈ roads.all, IsUpTo bound (lanes.width laneWidth)) ∧
      ∀ child ∈ children, child.Each (IsUpTo bound) := by
  have zeroExtent : IsExtent (Scalar.zero : Float32) := (IsUpTo.zero le_rfl).isExtent
  have along :
      ∀ axis, ∀ extent ∈ children.map (·.along axis), IsExtent extent := by
    intro axis
    exact List.forall_mem_map.mpr fun child member => childrenExtent child member axis
  have length := upTo frame.main.axis
  have breadth := upTo frame.cross.axis
  rw [bodySize, Size.along_ofAxis] at length
  rw [bodySize, frame.cross_axis_eq, Size.along_other_ofAxis, ← frame.cross_axis_eq] at breadth
  rw [OwnRoads.all, List.forall_mem_cons, List.forall_mem_cons] at roadsExtent ⊢
  obtain ⟨startExtent, endExtent, gapsExtent⟩ := roadsExtent
  obtain ⟨items, gaps⟩ :=
    IsUpTo.of_foldl IsExtent.add IsUpTo.of_add
      (IsExtent.foldl IsExtent.add zeroExtent (along _)) (List.forall_mem_map.mpr gapsExtent)
      length
  obtain ⟨_, lengths⟩ := IsUpTo.of_foldl IsExtent.add IsUpTo.of_add zeroExtent (along _) items
  obtain ⟨widest, edges⟩ :=
    IsUpTo.of_add (IsExtent.foldl IsExtent.larger zeroExtent (along _))
      (startExtent.add endExtent) breadth
  obtain ⟨_, breadths⟩ :=
    IsUpTo.of_foldl IsExtent.larger IsUpTo.of_larger zeroExtent (along _) widest
  obtain ⟨startEdge, endEdge⟩ := IsUpTo.of_add startExtent endExtent edges
  refine ⟨⟨startEdge, endEdge, List.forall_mem_map.mp gaps⟩, ?_⟩
  intro child member
  exact frame.forall_axis (lengths _ (List.mem_map_of_mem member))
    (breadths _ (List.mem_map_of_mem member))

/-- The content of a container has a size of extents. -/
theorem isExtent_containerContent
    {body : Size Float32}
    (bodyExtent : body.Each IsExtent)
    (labelExtent : ∀ size ∈ label, size.Each IsExtent) :
    (containerContent body label).Each IsExtent := by
  cases label with
  | none =>
      exact bodyExtent
  | some size =>
      intro axis
      cases axis with
      | main =>
          exact (bodyExtent .main).larger (labelExtent size rfl .main)
      | cross =>
          exact (bodyExtent .cross).add (labelExtent size rfl .cross)

/-- The body of a container has the bound of its content. -/
theorem isUpTo_of_containerContent
    {body : Size Float32}
    (bodyExtent : body.Each IsExtent)
    (labelExtent : ∀ size ∈ label, size.Each IsExtent)
    (upTo : (containerContent body label).Each (IsUpTo bound)) :
    body.Each (IsUpTo bound) := by
  cases label with
  | none =>
      exact upTo
  | some size =>
      intro axis
      cases axis with
      | main =>
          exact (IsUpTo.of_larger (bodyExtent .main) (labelExtent size rfl .main)
            (upTo .main)).1
      | cross =>
          exact (IsUpTo.of_add (bodyExtent .cross) (labelExtent size rfl .cross)
            (upTo .cross)).1

/-- The content of a cell has a size of extents. -/
theorem isExtent_cellContent
    {node : Node Float32}
    (measures : node.Each IsMeasure)
    (labelExtent : ∀ size ∈ label, size.Each IsExtent) :
    (cellContent node label).Each IsExtent := by
  have shown : (label.getD Size.zero).Each IsExtent := by
    cases label with
    | none =>
        intro axis
        cases axis <;> exact (IsUpTo.zero le_rfl).isExtent
    | some size =>
        exact labelExtent size rfl
  intro axis
  cases axis with
  | main =>
      cases isSet : node.width with
      | none =>
          simpa [cellContent, Size.along, isSet] using shown .main
      | some width =>
          simpa [cellContent, Size.along, isSet] using (measures.width width isSet).isExtent
  | cross =>
      cases isSet : node.height with
      | none =>
          simpa [cellContent, Size.along, isSet] using shown .cross
      | some height =>
          simpa [cellContent, Size.along, isSet] using (measures.height height isSet).isExtent

end Sizes

/-- Every road of a container has its lanes in the table. -/
theorem exists_road_of_ownRoads
    {α : Type}
    {input : LayoutInput α}
    {node : Node α}
    {roads : OwnRoads}
    (succeeded : input.ownRoads node = .ok roads) :
    ∀ lanes ∈ roads.all, ∃ road, input.table.get? road = some lanes := by
  have exists_road :
      ∀ {road : Road} {lanes : RoadLanes},
        input.lanes road = .ok lanes → ∃ road, input.table.get? road = some lanes := by
    intro road lanes isFound
    refine ⟨road, ?_⟩
    rw [LayoutInput.lanes] at isFound
    split at isFound
    · rename_i found isLanes
      cases isFound
      exact isLanes
    · cases isFound
  obtain ⟨gaps, gapsFound, succeeded⟩ := Attempt.bind_eq_ok_iff.mp succeeded
  obtain ⟨startEdge, startFound, succeeded⟩ := Attempt.bind_eq_ok_iff.mp succeeded
  obtain ⟨endEdge, endFound, same⟩ := Attempt.bind_eq_ok_iff.mp succeeded
  cases same
  rw [OwnRoads.all, List.forall_mem_cons, List.forall_mem_cons]
  refine ⟨exists_road startFound, exists_road endFound, ?_⟩
  intro lanes member
  obtain ⟨avenue, _, isFound⟩ := Attempt.exists_of_mem_mapM gapsFound member
  exact exists_road isFound

/-- All numbers of a diagram are measures, its labels are finite and its lanes not too many. -/
structure IsBounded (input : LayoutInput Float32) : Prop where
  diagram : input.diagram.Each IsMeasure
  label :
    ∀ {id : NodeId} {size : Size Float32}, input.label? id = some size → size.Each IsMeasure
  lanes :
    ∀ {road : Road} {lanes : RoadLanes},
      input.table.get? road = some lanes → lanes.count ≤ 2 ^ 65

end LayoutInput

/-- The strips around a content leave it free in a box of a given size, but for a few grains. -/
structure Node.Fits (node : Node Float32) (content outer : Size Float32) : Prop where
  marginMeasure : node.spacing.margin.Each IsMeasure
  innerMeasure : node.spacing.inner.Each IsMeasure
  contentMeasure : content.Each IsMeasure
  length_le :
    ∀ axis : Axis,
      value (node.spacing.margin.side axis.forward.reverse) +
          (value (node.spacing.inner.side axis.forward.reverse) + value (content.along axis) +
            value (node.spacing.inner.side axis.forward)) +
          value (node.spacing.margin.side axis.forward) ≤
        value (outer.along axis) + 8 * grain

/-- The outer strip and the rounded sum of the two inner ones fit into the sum of all three. -/
theorem Single.strips_le
    {margin border padding : Float32}
    (marginMeasure : IsMeasure margin)
    (borderMeasure : IsMeasure border)
    (paddingMeasure : IsMeasure padding)
    (upTo : IsUpTo (2 ^ 127) (margin + border + padding)) :
    IsMeasure (border + padding) ∧
      value margin + value (border + padding) ≤ value (margin + border + padding) + 3 * grain := by
  have unit : grain = 2 ^ 103 := rfl
  have outsideExtent := marginMeasure.isExtent.add borderMeasure.isExtent
  obtain ⟨outsideUpTo, _⟩ := IsUpTo.of_add outsideExtent paddingMeasure.isExtent upTo
  have outside_le := IsUpTo.add_le marginMeasure.isExtent borderMeasure.isExtent outsideUpTo
  have all_le := IsUpTo.add_le outsideExtent paddingMeasure.isExtent upTo
  have marginNonneg := marginMeasure.nonneg
  have inner_nonneg := add_nonneg borderMeasure.nonneg paddingMeasure.nonneg
  have rounds := rounds_add borderMeasure.isFinite paddingMeasure.isFinite
  obtain ⟨isFinite, close⟩ :=
    rounds.near (abs_le.mpr ⟨by linarith, by linarith [upTo.le]⟩)
  refine ⟨⟨isFinite, (rounds.nearest isFinite).ge isRepresentable_zero inner_nonneg⟩, ?_⟩
  linarith [le_of_abs_le close]

/-- The strips and the content of a box fit into its size, but for a few grains. -/
theorem Node.fits_of_pad
    {node : Node Float32}
    {content : Size Float32}
    (spacing : node.spacing.Each IsMeasure)
    (contentExtent : content.Each IsExtent)
    (upTo : (content.pad node.spacing.total).Each (IsUpTo (2 ^ 127))) :
    node.Fits content (content.pad node.spacing.total) := by
  have totalExtent := Spacing.isExtent_total (.of_isMeasure spacing)
  obtain ⟨contentUpTo, stripsUpTo⟩ := Size.isUpTo_of_pad contentExtent totalExtent upTo
  have side_eq :
      ∀ direction,
        node.spacing.total.side direction =
          node.spacing.margin.side direction + node.spacing.border.side direction +
            node.spacing.padding.side direction := by
    intro direction
    rw [Spacing.total, Insets.side_add, Insets.side_add]
  have strips :
      ∀ direction,
        IsMeasure (node.spacing.inner.side direction) ∧
          value (node.spacing.margin.side direction) +
              value (node.spacing.inner.side direction) ≤
            value (node.spacing.total.side direction) + 3 * grain := by
    intro direction
    rw [Spacing.inner, Insets.side_add, side_eq]
    exact Single.strips_le (spacing.margin direction) (spacing.border direction)
      (spacing.padding direction) (side_eq direction ▸ stripsUpTo direction)
  refine ⟨spacing.margin, fun direction => (strips direction).1,
    fun axis => (contentUpTo axis).isMeasure, fun axis => ?_⟩
  have sumExtent := (totalExtent axis.forward.reverse).add (totalExtent axis.forward)
  have whole := upTo axis
  rw [Size.along_pad_eq] at whole ⊢
  have whole_le := IsUpTo.add_le (contentExtent axis) sumExtent whole
  obtain ⟨_, sumUpTo⟩ := IsUpTo.of_add (contentExtent axis) sumExtent whole
  have sum_le := IsUpTo.add_le (totalExtent _) (totalExtent _) sumUpTo
  linarith [(strips axis.forward.reverse).2, (strips axis.forward).2]

/--
The children and gaps of a container are added up to the length of its body, and each
child is no broader than what the edge roads leave of it, but for a few grains.
-/
structure OwnRoads.Fit
    (laneWidth : Float32)
    (frame : Compass)
    (roads : OwnRoads)
    (children : List (Size Float32))
    (body : Size Float32) : Prop where
  roadsUpTo : ∀ lanes ∈ roads.all, IsUpTo (2 ^ 127) (lanes.width laneWidth)
  childrenMeasure : ∀ child ∈ children, child.Each IsMeasure
  length :
    body.along frame.main.axis =
      Scalar.sum
        (children.map (·.along frame.main.axis) ++ roads.gaps.map (·.width laneWidth))
  edges :
    value (roads.startEdge.width laneWidth) + value (roads.endEdge.width laneWidth) ≤
      value (body.along frame.cross.axis) + 2 * grain
  breadth :
    ∀ child ∈ children,
      value (roads.startEdge.width laneWidth) + value (roads.endEdge.width laneWidth) +
          value (child.along frame.cross.axis) ≤
        value (body.along frame.cross.axis) + 2 * grain

/-- The widths of roads that fit are measures. -/
theorem OwnRoads.Fit.roadsMeasure
    {laneWidth : Float32}
    {frame : Compass}
    {roads : OwnRoads}
    {children : List (Size Float32)}
    {body : Size Float32}
    (fits : roads.Fit laneWidth frame children body) :
    IsMeasure (roads.startEdge.width laneWidth) ∧
      IsMeasure (roads.endEdge.width laneWidth) ∧
        ∀ lanes ∈ roads.gaps, IsMeasure (lanes.width laneWidth) := by
  have measures : ∀ lanes ∈ roads.all, IsMeasure (lanes.width laneWidth) :=
    fun lanes member => (fits.roadsUpTo lanes member).isMeasure
  rw [OwnRoads.all, List.forall_mem_cons, List.forall_mem_cons] at measures
  exact measures

namespace LayoutInput

/-- The children and roads of a body that is not too large fit into it. -/
theorem fit_bodySize
    {laneWidth : Float32}
    {frame : Compass}
    {roads : OwnRoads}
    {children : List (Size Float32)}
    (roadsExtent : ∀ lanes ∈ roads.all, IsExtent (lanes.width laneWidth))
    (childrenExtent : ∀ child ∈ children, child.Each IsExtent)
    (upTo : (bodySize laneWidth frame roads children).Each (IsUpTo (2 ^ 127))) :
    roads.Fit laneWidth frame children (bodySize laneWidth frame roads children) := by
  obtain ⟨roadsUpTo, childrenUpTo⟩ := isUpTo_of_bodySize roadsExtent childrenExtent upTo
  have breadthUpTo := upTo frame.cross.axis
  rw [OwnRoads.all, List.forall_mem_cons, List.forall_mem_cons] at roadsExtent
  obtain ⟨startExtent, endExtent, _⟩ := roadsExtent
  have along :
      ∀ extent ∈ children.map (·.along frame.main.axis.other), IsExtent extent :=
    List.forall_mem_map.mpr fun child member => childrenExtent child member _
  have zeroExtent : IsExtent (Scalar.zero : Float32) := (IsUpTo.zero le_rfl).isExtent
  have widestExtent := IsExtent.foldl IsExtent.larger zeroExtent along
  have breadth_eq :
      (bodySize laneWidth frame roads children).along frame.cross.axis =
        (children.map (·.along frame.main.axis.other)).foldl Scalar.larger Scalar.zero +
          (roads.startEdge.width laneWidth + roads.endEdge.width laneWidth) := by
    rw [bodySize, frame.cross_axis_eq, Size.along_other_ofAxis]
  rw [breadth_eq] at breadthUpTo
  have breadth_le := IsUpTo.add_le widestExtent (startExtent.add endExtent) breadthUpTo
  obtain ⟨widestUpTo, edgesUpTo⟩ :=
    IsUpTo.of_add widestExtent (startExtent.add endExtent) breadthUpTo
  have edges_le := IsUpTo.add_le startExtent endExtent edgesUpTo
  rw [← breadth_eq] at breadth_le
  constructor
  case roadsUpTo => exact roadsUpTo
  case childrenMeasure => exact fun child member axis => (childrenUpTo child member axis).isMeasure
  case length => rw [bodySize, Size.along_ofAxis, Scalar.sum, Scalar.sum, List.foldl_append]
  case edges => linarith [widestUpTo.nonneg]
  case breadth =>
    intro child member
    have child_le :=
      (IsUpTo.of_foldl IsExtent.larger IsUpTo.of_larger zeroExtent along
        ⟨widestUpTo.isFinite, widestUpTo.nonneg, le_rfl⟩).2 _ (List.mem_map_of_mem member)
    rw [frame.cross_axis_eq] at breadth_le ⊢
    linarith [child_le.le]

/-- A body and the label above it fit into the content of a container. -/
theorem containerContent_le
    {body : Size Float32}
    {label : Option (Size Float32)}
    (bodyExtent : body.Each IsExtent)
    (labelExtent : ∀ size ∈ label, size.Each IsExtent)
    (upTo : (containerContent body label).Each (IsUpTo (2 ^ 127))) :
    (∀ axis, value (body.along axis) ≤ value ((containerContent body label).along axis)) ∧
      ∀ size ∈ label,
        value size.height + value body.height ≤
          value (containerContent body label).height + grain := by
  cases label with
  | none => exact ⟨fun _ => le_rfl, fun _ isNone => by cases isNone⟩
  | some size =>
      have heights := IsUpTo.add_le (bodyExtent .cross) (labelExtent size rfl .cross) (upTo .cross)
      constructor
      · intro axis
        have self : IsUpTo _ ((containerContent body (some size)).along axis) :=
          ⟨(upTo axis).isFinite, (upTo axis).nonneg, le_rfl⟩
        cases axis with
        | main =>
            exact (IsUpTo.of_larger (bodyExtent .main) (labelExtent size rfl .main) self).1.le
        | cross =>
            exact (IsUpTo.of_add (bodyExtent .cross) (labelExtent size rfl .cross) self).1.le
      · intro shown isShown
        cases isShown
        exact (add_comm _ _).trans_le heights

end LayoutInput

/-- All that lies in a box fits into it, to a given number of levels. -/
inductive SizedBox.Fits (room : Rat) (laneWidth : Float32) :
    Nat → SizedBox Float32 → Prop where
  | cell
      {levels : Nat}
      {node : Node Float32}
      {label : Option (Size Float32)}
      {content outer : Size Float32}
      (nodeFits : node.Fits content outer)
      (labelMeasure : ∀ size ∈ label, size.Each IsMeasure) :
      Fits room laneWidth (levels + 1) (.cell node label outer)
  | container
      {levels : Nat}
      {node : Node Float32}
      {label : Option (Size Float32)}
      {body content outer : Size Float32}
      {roads : OwnRoads}
      {children : List (SizedBox Float32)}
      (nodeFits : node.Fits content outer)
      (labelMeasure : ∀ size ∈ label, size.Each IsMeasure)
      (body_le : ∀ axis, value (body.along axis) ≤ value (content.along axis))
      (labelled :
        ∀ size ∈ label, value size.height + value body.height ≤ value content.height + grain)
      (bodyUpTo : body.Each (IsUpTo room))
      (bodyFits : roads.Fit laneWidth node.itemFrame (children.map (·.outer)) body)
      (counts : ∀ lanes ∈ roads.all, lanes.count ≤ 2 ^ 65)
      (gapCount : roads.gaps.length = children.length + 1)
      (childrenFit : ∀ child ∈ children, Fits room laneWidth levels child) :
      Fits room laneWidth (levels + 1) (.container node label outer roads children)

namespace LayoutInput.IsBounded

variable {input : LayoutInput Float32} {node : Node Float32} {roads : OwnRoads} {id : NodeId}

/-- Labels have sizes of extents. -/
theorem isExtent_label
    (bounded : input.IsBounded) :
    ∀ size ∈ input.label? id, size.Each IsExtent :=
  fun _ isLabel axis => (bounded.label isLabel axis).isExtent

/-- The spacing of each box is of extents. -/
theorem isExtent_spacing
    (bounded : input.IsBounded)
    (found : input.diagram.graph.get? id = some node) :
    node.spacing.Each IsExtent :=
  .of_isMeasure (bounded.diagram.node found).spacing

/-- The roads of a container have lanes that can be counted. -/
theorem count_le_of_ownRoads
    (bounded : input.IsBounded)
    (succeeded : input.ownRoads node = .ok roads) :
    ∀ lanes ∈ roads.all, lanes.count ≤ 2 ^ 65 := by
  intro lanes member
  obtain ⟨road, isFound⟩ := exists_road_of_ownRoads succeeded lanes member
  exact bounded.lanes isFound

/-- The roads of a container have widths that are extents. -/
theorem isExtent_width
    (bounded : input.IsBounded)
    (succeeded : input.ownRoads node = .ok roads) :
    ∀ lanes ∈ roads.all, IsExtent (lanes.width input.diagram.document.laneWidth) := by
  intro lanes member
  have count := Single.isUpTo_ofNat (bounded.count_le_of_ownRoads succeeded lanes member)
    (by decide)
  have laneWidth := bounded.diagram.document.laneWidth
  exact (Single.rounds_mul count.isFinite laneWidth.isFinite).isExtent
    (mul_nonneg count.nonneg laneWidth.nonneg)

/-- No size of a box is negative or undefined. -/
theorem isExtent_outer
    (bounded : input.IsBounded)
    {limit levels : Nat}
    {box : SizedBox Float32}
    (measured : input.measure limit levels id = .ok box) :
    box.outer.Each IsExtent := by
  induction levels generalizing id box with
  | zero =>
      cases measured
  | succ levels inductionHypothesis =>
      obtain ⟨node, found, ⟨_, rfl⟩ | ⟨_, children, roads, childrenFound, roadsFound, rfl⟩⟩ :=
        measure_cases measured
      · exact Size.isExtent_pad
          (isExtent_cellContent (bounded.diagram.node found) bounded.isExtent_label)
          (Spacing.isExtent_total (bounded.isExtent_spacing found))
      · refine Size.isExtent_pad
          (isExtent_containerContent
            (isExtent_bodySize (bounded.isExtent_width roadsFound) ?_) bounded.isExtent_label)
          (Spacing.isExtent_total (bounded.isExtent_spacing found))
        refine List.forall_mem_map.mpr fun child member => ?_
        obtain ⟨childId, _, isChild⟩ := Attempt.exists_of_mem_mapM childrenFound member
        exact inductionHypothesis isChild

/-- All that lies in a box fits into it, if its size is not too large. -/
theorem fits_of_measure
    (bounded : input.IsBounded)
    {room : Rat}
    (room_le : room ≤ 2 ^ 127)
    {limit levels : Nat}
    {box : SizedBox Float32}
    (measured : input.measure limit levels id = .ok box)
    (upTo : box.outer.Each (IsUpTo room)) :
    box.Fits room input.diagram.document.laneWidth levels := by
  induction levels generalizing id box with
  | zero =>
      cases measured
  | succ levels inductionHypothesis =>
      have largest : ∀ {size : Size Float32}, size.Each (IsUpTo room) →
          size.Each (IsUpTo (2 ^ 127)) :=
        fun each axis => (each axis).mono room_le
      obtain ⟨node, found, ⟨_, rfl⟩ | ⟨_, children, roads, childrenFound, roadsFound, rfl⟩⟩ :=
        measure_cases measured
      · exact .cell (Node.fits_of_pad (bounded.diagram.node found).spacing
          (isExtent_cellContent (bounded.diagram.node found) bounded.isExtent_label)
          (largest upTo)) fun size isLabel => bounded.label isLabel
      · have spacing := (bounded.diagram.node found).spacing
        have roadsExtent := bounded.isExtent_width roadsFound
        have childrenExtent : ∀ child ∈ children.map (·.outer), child.Each IsExtent := by
          refine List.forall_mem_map.mpr fun child member => ?_
          obtain ⟨childId, _, isChild⟩ := Attempt.exists_of_mem_mapM childrenFound member
          exact bounded.isExtent_outer isChild
        have bodyExtent :
            (bodySize input.diagram.document.laneWidth node.itemFrame roads
              (children.map (·.outer))).Each IsExtent :=
          isExtent_bodySize roadsExtent childrenExtent
        have labelExtent : ∀ size ∈ input.label? node.id, size.Each IsExtent :=
          bounded.isExtent_label
        have contentExtent := isExtent_containerContent bodyExtent labelExtent
        obtain ⟨contentUpTo, _⟩ :=
          Size.isUpTo_of_pad contentExtent (Spacing.isExtent_total (.of_isMeasure spacing)) upTo
        have bodyUpTo :=
          isUpTo_of_containerContent bodyExtent labelExtent contentUpTo
        obtain ⟨body_le, labelled⟩ :=
          containerContent_le bodyExtent labelExtent (largest contentUpTo)
        obtain ⟨_, outers⟩ := isUpTo_of_bodySize roadsExtent childrenExtent bodyUpTo
        refine .container (Node.fits_of_pad spacing contentExtent (largest upTo))
          (fun size isLabel => bounded.label isLabel) body_le labelled bodyUpTo
          (fit_bodySize roadsExtent childrenExtent (largest bodyUpTo))
          (bounded.count_le_of_ownRoads roadsFound) ?_ ?_
        · rw [length_gaps_of_ownRoads roadsFound, Attempt.length_of_mapM childrenFound]
        · intro child member
          obtain ⟨childId, _, isChild⟩ := Attempt.exists_of_mem_mapM childrenFound member
          exact inductionHypothesis isChild (List.forall_mem_map.mp outers child member)

end LayoutInput.IsBounded

end BoxDiagram
