import BoxDiagram.Proofs.Layout.Engine
import BoxDiagram.Proofs.Layout.Extents
import BoxDiagram.Proofs.Number.Monotone

namespace BoxDiagram

open Attempt (Agree)
open Single (IsExtent IsMeasure IsUpTo)

/-!
# More lanes make no box smaller

A box is measured by sums and maxima of the extents of its parts, in single precision.
None of them becomes smaller where the parts become larger, so more lanes on the roads of
a box or of boxes in it never make the box smaller, along either axis.
-/

/-- The second size is at least as large, along both axes. -/
def Size.Widens (first second : Size Float32) : Prop :=
  ∀ axis, Single.Widens (first.along axis) (second.along axis)

/-- A padded size widens with the size. -/
theorem Size.Widens.pad
    {first second : Size Float32}
    {insets : Insets Float32}
    (widens : first.Widens second)
    (insetsExtent : insets.Each IsExtent) :
    (first.pad insets).Widens (second.pad insets) := by
  intro axis
  rw [along_pad_eq, along_pad_eq]
  exact (widens axis).add (.refl ((insetsExtent _).add (insetsExtent _)))

/-- The second road has at least as many lanes, and not more than can be counted. -/
structure RoadLanes.Fewer (lanes others : RoadLanes) : Prop where
  le : lanes.count ≤ others.count
  few : others.count ≤ 2 ^ 65

/-- Each road of a container has at least as many lanes. -/
structure OwnRoads.Fewer (roads others : OwnRoads) : Prop where
  gaps : List.Forall₂ RoadLanes.Fewer roads.gaps others.gaps
  startEdge : roads.startEdge.Fewer others.startEdge
  endEdge : roads.endEdge.Fewer others.endEdge

/-- A road with more lanes is wider. -/
theorem RoadLanes.Fewer.width
    {lanes others : RoadLanes}
    {laneWidth : Float32}
    (fewer : lanes.Fewer others)
    (measure : IsMeasure laneWidth) :
    Single.Widens (lanes.width laneWidth) (others.width laneWidth) :=
  .ofNat_mul fewer.le fewer.few measure

namespace LayoutInput

section Sizes

variable
  {laneWidth : Float32}
  {roads others : OwnRoads}
  {children wider : List (Size Float32)}

/-- A body widens with its children and roads. -/
theorem bodySize_widens
    (measure : IsMeasure laneWidth)
    (frame : Compass)
    (fewer : roads.Fewer others)
    (childrenWiden : List.Forall₂ Size.Widens children wider) :
    (bodySize laneWidth frame roads children).Widens (bodySize laneWidth frame others wider) := by
  have zeroWidens : Single.Widens (Scalar.zero : Float32) Scalar.zero :=
    .refl (IsUpTo.zero le_rfl).isExtent
  have along :
      ∀ axis,
        List.Forall₂ Single.Widens (children.map (·.along axis)) (wider.map (·.along axis)) := by
    intro axis
    rw [List.forall₂_map_left_iff, List.forall₂_map_right_iff]
    exact childrenWiden.imp fun _ _ widens => widens axis
  have gaps :
      List.Forall₂ Single.Widens (roads.gaps.map (·.width laneWidth))
        (others.gaps.map (·.width laneWidth)) := by
    rw [List.forall₂_map_left_iff, List.forall₂_map_right_iff]
    exact fewer.gaps.imp fun _ _ lanesFewer => lanesFewer.width measure
  refine frame.forall_axis ?_ ?_
  · rw [bodySize, bodySize, Size.along_ofAxis, Size.along_ofAxis]
    exact .foldl .add (.foldl .add zeroWidens (along _)) gaps
  · rw [bodySize, bodySize, frame.cross_axis_eq, Size.along_other_ofAxis, Size.along_other_ofAxis]
    exact (Single.Widens.foldl .larger zeroWidens (along _)).add
      ((fewer.startEdge.width measure).add (fewer.endEdge.width measure))

/-- A content widens with its body. -/
theorem containerContent_widens
    {body widerBody : Size Float32}
    {label : Option (Size Float32)}
    (bodyWidens : body.Widens widerBody)
    (labelExtent : ∀ size ∈ label, size.Each IsExtent) :
    (containerContent body label).Widens (containerContent widerBody label) := by
  cases label with
  | none =>
      exact bodyWidens
  | some size =>
      intro axis
      cases axis with
      | main =>
          exact (bodyWidens .main).larger (.refl (labelExtent size rfl .main))
      | cross =>
          exact (bodyWidens .cross).add (.refl (labelExtent size rfl .cross))

end Sizes

/-- Two inputs differ in the number of lanes only, and the second one has more. -/
structure HasFewerLanes (input other : LayoutInput Float32) : Prop where
  graph_eq : other.diagram.graph = input.diagram.graph
  laneWidth_eq : other.diagram.document.laneWidth = input.diagram.document.laneWidth
  labels_eq : other.labels = input.labels
  measures : input.diagram.Each IsMeasure
  labelExtent :
    ∀ {id : NodeId}, ∀ size ∈ input.label? id, size.Each IsExtent
  lanes : ∀ road, Option.Rel RoadLanes.Fewer (input.table.get? road) (other.table.get? road)

namespace HasFewerLanes

variable {input other : LayoutInput Float32}

/-- More lanes do not change labels. -/
theorem label_eq
    (fewer : input.HasFewerLanes other)
    (id : NodeId) :
    other.label? id = input.label? id := by
  rw [label?, label?, fewer.labels_eq]

/-- Each road of one table has no fewer lanes in the other. -/
theorem lanes_agree
    (fewer : input.HasFewerLanes other)
    (road : Road) :
    Agree RoadLanes.Fewer (input.lanes road) (other.lanes road) := by
  have related := fewer.lanes road
  rw [LayoutInput.lanes, LayoutInput.lanes]
  generalize input.table.get? road = own at *
  generalize other.table.get? road = more at *
  cases related with
  | none =>
      exact .error _ _
  | some lanesFewer =>
      exact .ok lanesFewer

/-- The roads of a container have no fewer lanes with the other table. -/
theorem ownRoads_agree
    (fewer : input.HasFewerLanes other)
    (node : Node Float32) :
    Agree OwnRoads.Fewer (input.ownRoads node) (other.ownRoads node) := by
  refine .bind (.mapM fun avenue _ => fewer.lanes_agree (.main node.id avenue)) ?_
  intro gaps otherGaps gapsFewer
  refine .bind (fewer.lanes_agree (.cross node.id 0)) fun _ _ startFewer => ?_
  refine .bind (fewer.lanes_agree (.cross node.id 1)) fun _ _ endFewer => ?_
  exact .ok ⟨gapsFewer, startFewer, endFewer⟩

/-- A container is no smaller than one with smaller children and fewer lanes. -/
theorem sizedContainer_widens
    (fewer : input.HasFewerLanes other)
    {id : NodeId}
    {node : Node Float32}
    {roads others : OwnRoads}
    {children wider : List (SizedBox Float32)}
    (found : input.diagram.graph.get? id = some node)
    (roadsFewer : roads.Fewer others)
    (childrenWiden :
      List.Forall₂ (fun child widened => child.outer.Widens widened.outer) children wider) :
    (input.sizedContainer node roads children).outer.Widens
      (other.sizedContainer node others wider).outer := by
  rw [sizedContainer, sizedContainer, fewer.label_eq, fewer.laneWidth_eq]
  refine Size.Widens.pad (containerContent_widens ?_ fewer.labelExtent)
    (Spacing.isExtent_total (.of_isMeasure (fewer.measures.node found).spacing))
  refine bodySize_widens fewer.measures.document.laneWidth node.itemFrame roadsFewer ?_
  rwa [List.forall₂_map_left_iff, List.forall₂_map_right_iff]

/-- A cell has no lanes, so it is of one size. -/
theorem sizedCell_widens
    (fewer : input.HasFewerLanes other)
    {id : NodeId}
    {node : Node Float32}
    (found : input.diagram.graph.get? id = some node) :
    (input.sizedCell node).outer.Widens (other.sizedCell node).outer := by
  have measures := fewer.measures.node found
  rw [sizedCell, sizedCell, fewer.label_eq]
  exact fun axis => .refl
    (Size.isExtent_pad (isExtent_cellContent measures fewer.labelExtent)
      (Spacing.isExtent_total (.of_isMeasure measures.spacing)) axis)

/-- No box is smaller than the one with fewer lanes, by induction on the levels of boxes. -/
theorem measure_agree
    (fewer : input.HasFewerLanes other)
    (limit levels : Nat)
    (id : NodeId) :
    Agree (fun box widened => box.outer.Widens widened.outer)
      (input.measure limit levels id) (other.measure limit levels id) := by
  induction levels generalizing id with
  | zero =>
      exact .error _ _
  | succ levels inductionHypothesis =>
      rw [measure, measure, fewer.graph_eq]
      cases isFound : input.diagram.graph.find id with
      | error _ =>
          exact .error _ _
      | ok node =>
          have found := Graph.find_eq_ok_iff.mp isFound
          rw [Attempt.ofGraph_ok, Attempt.ok_bind, Attempt.ok_bind]
          split
          · refine .bind (.mapM fun child _ => inductionHypothesis child) ?_
            intro children wider childrenWiden
            refine .bind (fewer.ownRoads_agree node) fun roads others roadsFewer => .ok ?_
            exact fewer.sizedContainer_widens found roadsFewer childrenWiden
          · exact .ok (fewer.sizedCell_widens found)

/-- The whole layout is no smaller than the one with fewer lanes. -/
theorem size_widens
    (fewer : input.HasFewerLanes other)
    {depthLimit : Nat}
    {layout widened : Layout Float32}
    (succeeded : LayoutEngine.nested depthLimit input = .ok layout)
    (otherSucceeded : LayoutEngine.nested depthLimit other = .ok widened) :
    layout.size.Widens widened.size := by
  obtain ⟨root, measured, size_eq⟩ := LayoutEngine.exists_root_of_nested succeeded
  obtain ⟨widenedRoot, otherMeasured, widened_eq⟩ :=
    LayoutEngine.exists_root_of_nested otherSucceeded
  obtain ⟨found, isFound, widens⟩ :=
    (fewer.measure_agree depthLimit (depthLimit + 1) NodeId.root).exists_ok measured
  obtain rfl := Except.ok.inj (isFound.symm.trans otherMeasured)
  rwa [size_eq, widened_eq]

end HasFewerLanes

end LayoutInput

end BoxDiagram
