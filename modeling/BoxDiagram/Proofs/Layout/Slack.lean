import BoxDiagram.Layout.Placement
import BoxDiagram.Proofs.Layout.Extents
import BoxDiagram.Proofs.Number.Counted

namespace BoxDiagram

open Single
  (IsCanvas IsMeasure IsNear IsOnRange IsSpan IsUpTo grain grain_pos value value_zero)

/-!
# Rectangles in a room

A rectangle is placed in the one around it by a fixed number of rounded steps, each of which
moves it at most a few grains further out of the room of the whole.  The children and roads
of a container are added up to no more than the extent of its body, but for a small part of
the room for each of them.
-/

namespace Single

/-- How far from the origin coordinates are certainly finite, and so are their sums. -/
def reach : Rat :=
  2 ^ 127 - 256 * grain

theorem isCanvas_reach :
    IsCanvas 0 reach :=
  ⟨le_rfl, by norm_num [reach, grain], by rw [reach]; linarith⟩

variable {room slack extent : Rat} {number : Float32} {range : Float32 × Float32}

/-- A canvas ends where its coordinates are certainly finite. -/
theorem IsCanvas.slack_le_reach
    (canvas : IsCanvas room slack) :
    slack ≤ reach ∧ room + slack ≤ reach := by
  obtain ⟨_, _, inRange⟩ := canvas
  rw [reach]
  constructor <;> linarith

/-- What is near a room is on the canvas. -/
theorem IsNear.reaches
    (near : IsNear room slack number)
    (canvas : IsCanvas room slack) :
    IsNear 0 reach number :=
  have within := canvas.slack_le_reach
  ⟨near.isFinite, by linarith [near.low], by linarith [near.high]⟩

/-- A span near a room is on the canvas. -/
theorem IsSpan.reaches
    (span : IsSpan room slack extent range)
    (canvas : IsCanvas room slack) :
    IsSpan 0 reach 0 range :=
  have first := span.first.reaches canvas
  have last := span.last.reaches canvas
  ⟨first, last, span.ordered, by linarith [first.high], by linarith [last.low]⟩

end Single

open Single (reach isCanvas_reach)

namespace Bounds

variable
  {room slack more : Rat}
  {bounds : Bounds Float32}
  {corner : Point Float32}
  {size smaller own : Size Float32}

/--
The rectangle, and one of a given size at each of its corners, are at most a slack outside
of the room.
-/
def IsPlaced (room slack : Rat) (size : Size Float32) (bounds : Bounds Float32) : Prop :=
  ∀ axis, IsSpan room slack (value (size.along axis)) (bounds.range axis)

/-- The rectangle lies where all coordinates are finite and so are their sums. -/
def IsOnCanvas (bounds : Bounds Float32) : Prop :=
  ∀ axis, IsSpan 0 reach 0 (bounds.range axis)

/-- A rectangle from a corner on is placed where its size leads, but for one grain. -/
theorem isPlaced_ofTopLeft
    (canvas : IsCanvas room slack)
    (cornerNear : corner.Each (IsNear room slack))
    (measure : size.Each IsMeasure)
    (fits : ∀ axis, value (corner.along axis) + value (size.along axis) ≤ room + slack) :
    (ofTopLeft corner size).IsPlaced room (slack + grain) size := by
  intro axis
  rw [range_ofTopLeft]
  exact Single.isSpan_from canvas (cornerNear axis) (measure axis) (fits axis)

/-- The ranges of a rectangle are given by their starts and lengths. -/
theorem forall_range_ofRanges
    {holds : Axis → Float32 × Float32 → Prop}
    {forward sideways : Float32 × Float32}
    {axis : Axis}
    (along : holds axis (forward.1, forward.1 + (forward.2 - forward.1)))
    (across : holds axis.other (sideways.1, sideways.1 + (sideways.2 - sideways.1))) :
    ∀ other, holds other ((ofRanges axis forward sideways).range other) := by
  intro other
  cases axis <;> cases other
  · exact along
  · exact across
  · exact across
  · exact along

/-- A rectangle of two spans is placed where they are, but for two grains. -/
theorem isPlaced_ofRanges
    {forward sideways : Float32 × Float32}
    {axis : Axis}
    (canvas : IsCanvas room slack)
    (forwardSpan : IsSpan room slack (value (size.along axis)) forward)
    (sidewaysSpan : IsSpan room slack (value (size.along axis.other)) sideways) :
    (ofRanges axis forward sideways).IsPlaced room (slack + 2 * grain) size :=
  forall_range_ofRanges (forwardSpan.relay canvas) (sidewaysSpan.relay canvas)

namespace IsPlaced

/-- A rectangle that is placed is placed with more slack and for a smaller size. -/
theorem mono
    (placed : bounds.IsPlaced room slack size)
    (slack_le : slack ≤ more)
    (size_le : ∀ axis, value (smaller.along axis) ≤ value (size.along axis)) :
    bounds.IsPlaced room more smaller :=
  fun axis => (placed axis).mono slack_le (size_le axis)

/-- A rectangle that is placed is on the canvas. -/
theorem isOnCanvas
    (placed : bounds.IsPlaced room slack size)
    (canvas : IsCanvas room slack) :
    bounds.IsOnCanvas :=
  fun axis => (placed axis).reaches canvas

end IsPlaced

namespace IsOnCanvas

/-- A rectangle on the canvas has finite coordinates. -/
theorem each_isFinite
    (isOn : bounds.IsOnCanvas) :
    bounds.Each (Scalar.isFinite · = true) :=
  fun axis => ⟨(isOn axis).first.isFinite, (isOn axis).last.isFinite⟩

end IsOnCanvas

/-- A rectangle of two spans is on the canvas. -/
theorem isOnCanvas_ofRanges
    {forward sideways : Float32 × Float32}
    {axis : Axis}
    {extent other : Rat}
    (canvas : IsCanvas room (slack + 2 * grain))
    (slack_nonneg : 0 ≤ slack)
    (forwardSpan : IsSpan room slack extent forward)
    (sidewaysSpan : IsSpan room slack other sideways) :
    (ofRanges axis forward sideways).IsOnCanvas :=
  have inner : IsCanvas room slack := canvas.mono slack_nonneg (by linarith [grain_pos])
  forall_range_ofRanges ((forwardSpan.relay inner).reaches canvas)
    ((sidewaysSpan.relay inner).reaches canvas)

/-- In the middle of a rectangle on the canvas, any finite size is finite. -/
theorem each_isFinite_centered
    (canvas : IsCanvas room (slack + 2 * grain))
    (slack_nonneg : 0 ≤ slack)
    (ends : bounds.Each (IsNear room slack))
    (measure : own.Each IsMeasure) :
    (bounds.centered own).Each (Scalar.isFinite · = true) := by
  have inner : IsCanvas room slack := canvas.mono slack_nonneg (by linarith [grain_pos])
  intro axis
  obtain ⟨first, last⟩ := ends axis
  have around := Single.isFinite_around canvas (first.middle last inner).1 (measure axis)
  cases axis <;> exact around

end Bounds

namespace BoxBounds

variable
  {room slack : Rat}
  {bounds : BoxBounds Float32}
  {outer : Bounds Float32}
  {content body size : Size Float32}
  {label : Option (Size Float32)}

/-- The drawn box is on the canvas, and its content leads ten grains further. -/
theorem isPlaced_ofOuter
    {node : Node Float32}
    (fits : node.Fits content size)
    (canvas : IsCanvas room (slack + 10 * grain))
    (slack_nonneg : 0 ≤ slack)
    (placed : outer.IsPlaced room slack size) :
    (ofOuter node.spacing outer).visible.IsOnCanvas ∧
      (ofOuter node.spacing outer).content.IsPlaced room (slack + 10 * grain) content := by
  have positive := grain_pos
  have innerNonneg := fun direction => (fits.innerMeasure direction).nonneg
  have contentNonneg := fun axis => (fits.contentMeasure axis).nonneg
  have visible :
      ∀ axis,
        IsSpan room (slack + 9 * grain)
          (value (node.spacing.inner.side axis.forward.reverse) + value (content.along axis) +
            value (node.spacing.inner.side axis.forward))
          ((ofOuter node.spacing outer).visible.range axis) := by
    intro axis
    have shrunk := (placed axis).shrink (canvas.mono (by linarith) (by linarith))
      (fits.marginMeasure axis.forward.reverse) (fits.marginMeasure axis.forward)
      (by linarith [innerNonneg axis.forward.reverse, innerNonneg axis.forward,
        contentNonneg axis])
      (show 0 ≤ 8 * grain by linarith) (fits.length_le axis)
    have moved := shrunk.mono (show _ ≤ slack + 9 * grain by linarith) le_rfl
    cases axis <;> exact moved
  refine ⟨fun axis => (visible axis).reaches (canvas.mono (by linarith) (by linarith)), ?_⟩
  intro axis
  have shrunk := (visible axis).shrink (canvas.mono (by linarith) (by linarith))
    (fits.innerMeasure axis.forward.reverse) (fits.innerMeasure axis.forward)
    (contentNonneg axis) le_rfl (add_zero _).ge
  have moved := shrunk.mono (show _ ≤ slack + 10 * grain by linarith) le_rfl
  cases axis <;> exact moved

/-- What is left below the label of a container leads five grains further. -/
theorem isPlaced_body
    (placed : bounds.content.IsPlaced room slack content)
    (canvas : IsCanvas room (slack + 5 * grain))
    (slack_nonneg : 0 ≤ slack)
    (labelMeasure : ∀ size ∈ label, size.Each IsMeasure)
    (bodyMeasure : body.Each IsMeasure)
    (body_le : ∀ axis, value (body.along axis) ≤ value (content.along axis))
    (labelled :
      ∀ size ∈ label, value size.height + value body.height ≤ value content.height + grain) :
    (bounds.body label).IsPlaced room (slack + 5 * grain) body := by
  have positive := grain_pos
  cases label with
  | none =>
      exact placed.mono (by linarith) body_le
  | some size =>
      have across := ((placed .main).relay (canvas.mono slack_nonneg (by linarith))).mono
        (show _ ≤ slack + 5 * grain by linarith) (body_le .main)
      have below := (placed .cross).rest (canvas.mono (by linarith) (by linarith)) slack_nonneg
        (labelMeasure size rfl .cross) (bodyMeasure .cross).nonneg positive.le (labelled size rfl)
      have moved := below.mono (show _ ≤ slack + 5 * grain by linarith) le_rfl
      intro axis
      cases axis with
      | main =>
          exact across
      | cross =>
          exact moved

/-- The label of a container is finite with its box. -/
theorem each_isFinite_containerLabel
    (placed : bounds.content.IsPlaced room slack content)
    (canvas : IsCanvas room (slack + 5 * grain))
    (slack_nonneg : 0 ≤ slack)
    (labelMeasure : ∀ size ∈ label, size.Each IsMeasure)
    (bodyMeasure : body.Each IsMeasure)
    (labelled :
      ∀ size ∈ label, value size.height + value body.height ≤ value content.height + grain)
    (node : Node Float32) :
    ∀ shown ∈ bounds.containerLabel node label,
      shown.bounds.Each (Scalar.isFinite · = true) := by
  have positive := grain_pos
  intro shown isShown
  cases label with
  | none =>
      cases isShown
  | some size =>
      have labelSize := labelMeasure size rfl
      have fits := labelled size rfl
      have across := (placed .main).relay (canvas.mono slack_nonneg (by linarith))
      have below := Single.isSpan_from (canvas.mono (by linarith) (by linarith))
        ((placed .cross).first.mono (show slack ≤ slack + grain by linarith)) (labelSize .cross)
        (by
          have bodyNonneg : 0 ≤ value body.height := (bodyMeasure .cross).nonneg
          have fromFirst := (placed .cross).fromFirst
          change value (bounds.content.range .cross).1 + value size.height ≤ _
          change value (bounds.content.range .cross).1 + value content.height ≤ _ at fromFirst
          linarith)
      have ends : (bounds.header size).Each (IsNear room (slack + 2 * grain)) := by
        intro axis
        cases axis with
        | main =>
            exact ⟨across.first, across.last⟩
        | cross =>
            exact ⟨below.first.mono (by linarith), below.last.mono (by linarith)⟩
      have centered := Bounds.each_isFinite_centered (canvas.mono (by linarith) (by linarith))
        (by linarith) ends labelSize
      cases hasText : node.label with
      | none =>
          simp [containerLabel, hasText] at isShown
      | some text =>
          simp only [containerLabel, hasText, Option.mem_def, Option.some.injEq] at isShown
          subst isShown
          exact centered

/-- The text of a cell is finite with its box. -/
theorem each_isFinite_cellLabel
    (placed : bounds.content.IsPlaced room slack content)
    (canvas : IsCanvas room (slack + 2 * grain))
    (slack_nonneg : 0 ≤ slack)
    (labelMeasure : ∀ size ∈ label, size.Each IsMeasure)
    (node : Node Float32) :
    ∀ shown ∈ bounds.cellLabel node label, shown.bounds.Each (Scalar.isFinite · = true) := by
  intro shown isShown
  obtain ⟨text, _, rfl⟩ := Option.map_eq_some_iff.mp isShown
  cases label with
  | none =>
      exact fun axis => ⟨(placed axis).first.isFinite, (placed axis).last.isFinite⟩
  | some size =>
      exact Bounds.each_isFinite_centered canvas slack_nonneg
        (fun axis => ⟨(placed axis).first, (placed axis).last⟩) (labelMeasure size rfl)

end BoxBounds

namespace Stretch

/-- Gaps and items in the order in which they alternate. -/
def interleave {α : Type} : List α → List α → List α
  | [], _ => []
  | gap :: gaps, [] => gap :: interleave gaps []
  | gap :: gaps, item :: items => gap :: item :: interleave gaps items

/-- No gap and no item comes twice. -/
theorem interleave_subperm
    {α : Type}
    (gaps items : List α) :
    (interleave gaps items).Subperm (items ++ gaps) := by
  induction gaps generalizing items with
  | nil => exact List.nil_subperm
  | cons gap rest inductionHypothesis =>
      cases items with
      | nil => exact (List.subperm_cons gap).mpr (inductionHypothesis [])
      | cons item others =>
          have moved : (item :: others ++ gap :: rest).Perm (gap :: item :: (others ++ rest)) := by
            rw [List.cons_append]
            exact (List.perm_middle.cons item).trans (.swap gap item _)
          exact ((List.subperm_cons gap).mpr ((List.subperm_cons item).mpr
            (inductionHypothesis others))).trans moved.symm.subperm

/-- Each stretch starts where the gaps and items before it end, and takes its own extent. -/
theorem exists_split_of_mem_alternate
    {α : Type}
    [Scalar α]
    {offset : α}
    {gaps items : List α}
    {stretch : Stretch α}
    (member :
      stretch ∈ (alternate offset gaps items).1 ∨ stretch ∈ (alternate offset gaps items).2) :
    ∃ before after,
      interleave gaps items = before ++ stretch.extent :: after ∧
        stretch.offset = before.foldl (· + ·) offset := by
  induction gaps generalizing offset items with
  | nil => rcases member with isGap | isItem <;> contradiction
  | cons gap rest inductionHypothesis =>
      cases items with
      | nil =>
          have cases_of_mem :
              stretch = ⟨offset, gap⟩ ∨
                stretch ∈ (alternate (offset + gap) rest []).1 ∨
                  stretch ∈ (alternate (offset + gap) rest []).2 := by
            simpa [alternate, or_assoc] using member
          rcases cases_of_mem with rfl | later
          · exact ⟨[], _, rfl, rfl⟩
          · obtain ⟨before, after, split, offset_eq⟩ := inductionHypothesis later
            exact ⟨gap :: before, after, congrArg (gap :: ·) split, offset_eq⟩
      | cons item others =>
          have cases_of_mem :
              stretch = ⟨offset, gap⟩ ∨ stretch = ⟨offset + gap, item⟩ ∨
                stretch ∈ (alternate (offset + gap + item) rest others).1 ∨
                  stretch ∈ (alternate (offset + gap + item) rest others).2 := by
            simp only [alternate, List.mem_cons] at member
            tauto
          rcases cases_of_mem with rfl | rfl | later
          · exact ⟨[], _, rfl, rfl⟩
          · exact ⟨[gap], _, rfl, rfl⟩
          · obtain ⟨before, after, split, offset_eq⟩ := inductionHypothesis later
            exact ⟨gap :: item :: before, after, congrArg (gap :: item :: ·) split, offset_eq⟩

/--
Gaps and items that alternate end where their rounded sum ends, but for a small part of
the room for each of them.
-/
theorem fits_alternate
    {room : Rat}
    {gaps items : List Float32}
    {stretch : Stretch Float32}
    (measures : ∀ extent ∈ items ++ gaps, IsMeasure extent)
    (upTo : IsUpTo room (Scalar.sum (items ++ gaps)))
    (small : room + (items ++ gaps).length * (room / (3 * 2 ^ 17)) ≤ 2 ^ 127)
    (member :
      stretch ∈ (alternate Scalar.zero gaps items).1 ∨
        stretch ∈ (alternate Scalar.zero gaps items).2) :
    IsMeasure stretch.offset ∧ IsMeasure stretch.extent ∧
      value stretch.offset + value stretch.extent ≤
        value (Scalar.sum (items ++ gaps)) +
          (items ++ gaps).length * (room / (3 * 2 ^ 17)) := by
  obtain ⟨before, after, split, offset_eq⟩ := exists_split_of_mem_alternate member
  have subperm : (before ++ [stretch.extent]).Subperm (items ++ gaps) := by
    refine List.Subperm.trans ?_ (interleave_subperm gaps items)
    rw [split, List.append_cons before stretch.extent after]
    exact (List.sublist_append_left _ _).subperm
  obtain ⟨measure, fits⟩ := Single.sum_add_le measures upTo small subperm
  rw [offset_eq]
  exact ⟨measure, measures _ (subperm.subset (by simp)), fits⟩

end Stretch

/-- An item is not moved further across the flow than there is space left, but for a grain. -/
theorem Alignment.offset_le
    {available item : Float32}
    (availableMeasure : IsMeasure available)
    (itemMeasure : IsMeasure item)
    (alignment : Alignment) :
    IsMeasure (alignment.offset available item) ∧
      value (alignment.offset available item) ≤
        max (value available - value item) 0 + grain := by
  have positive := grain_pos
  have largest : (2 : Rat) ^ 128 - 2 ^ 104 = 2 ^ 128 - 2 * grain := by norm_num [grain]
  have available_le := le_of_abs_le (Single.abs_value_le available)
  have item_le := le_of_abs_le (Single.abs_value_le item)
  have availableNonneg := availableMeasure.nonneg
  have itemNonneg := itemMeasure.nonneg
  obtain ⟨free, close⟩ := Single.positivePart_sub availableMeasure.isFinite itemMeasure.isFinite
    (abs_le.mpr ⟨by linarith, by linarith⟩)
  have free_le := le_of_abs_le close
  cases alignment with
  | start =>
      have space_nonneg := le_max_right (value available - value item) 0
      exact ⟨Single.isMeasure_zero, by
        change value Scalar.zero ≤ _
        rw [value_zero]
        linarith⟩
  | center =>
      have halfway :
          IsUpTo _ (Scalar.floor (Scalar.half (Scalar.positivePart (available - item)))) :=
        (IsUpTo.half ⟨free.isFinite, free.nonneg, le_rfl⟩).floor
      exact ⟨halfway.isMeasure, halfway.le.trans (by linarith)⟩
  | last =>
      exact ⟨free, by
        change value (Scalar.positivePart (available - item)) ≤ _
        linarith⟩

/-- The gaps, items and edge roads of a container lie where its roads and children fit. -/
structure Arrangement.IsPlaced
    (room slack : Rat)
    (frame : Compass)
    (gapWidths : List Float32)
    (startWidth endWidth : Float32)
    (sizes : List (Size Float32))
    (arrangement : Arrangement Float32) : Prop where
  gaps :
    List.Forall₂
      (fun width area => area.IsPlaced room slack (.ofAxis frame.main.axis width Scalar.zero))
      gapWidths arrangement.gaps
  items : List.Forall₂ (fun size area => area.IsPlaced room slack size) sizes arrangement.items
  startEdge :
    arrangement.startEdge.IsPlaced room slack (.ofAxis frame.main.axis Scalar.zero startWidth)
  endEdge :
    arrangement.endEdge.IsPlaced room slack (.ofAxis frame.main.axis Scalar.zero endWidth)

section Lists

variable {β γ δ : Type}

/-- What holds of each element and the list that it comes from holds of both lists. -/
theorem forall₂_of_map_eq
    {holds : γ → δ → Prop}
    {list : List β}
    {others : List γ}
    {first : β → γ}
    {second : β → δ}
    (same : list.map first = others)
    (each : ∀ element ∈ list, holds (first element) (second element)) :
    List.Forall₂ holds others (list.map second) := by
  rw [← same, List.forall₂_map_left_iff, List.forall₂_map_right_iff, List.forall₂_same]
  exact each

theorem eq_of_mem_zip
    {firsts : List β}
    {seconds : List γ}
    {first : β → δ}
    {second : γ → δ}
    (same : firsts.map first = seconds.map second)
    {pair : β × γ}
    (member : pair ∈ firsts.zip seconds) :
    first pair.1 = second pair.2 := by
  obtain ⟨index, isPair⟩ := List.mem_iff_getElem?.mp member
  obtain ⟨isFirst, isSecond⟩ := List.getElem?_zip_eq_some.mp isPair
  simpa [isFirst, isSecond] using congrArg (·[index]?) same

end Lists

namespace Body

variable {room slack : Rat} {body : Body Float32}

/-- Stretches that are on the ranges of a body are a rectangle near it. -/
theorem isPlaced_onCanvas
    {forward sideways : Stretch Float32}
    {size : Size Float32}
    (canvas : IsCanvas room (slack + 2 * grain))
    (slack_nonneg : 0 ≤ slack)
    (finite : body.bounds.Each (Scalar.isFinite · = true))
    (forwardOn : IsOnRange room slack (body.bounds.range body.frame.main.axis) forward)
    (sidewaysOn : IsOnRange room slack (body.bounds.range body.frame.cross.axis) sideways)
    (forward_eq : value (size.along body.frame.main.axis) ≤ value forward.extent)
    (sideways_eq : value (size.along body.frame.cross.axis) ≤ value sideways.extent) :
    (body.onCanvas forward sideways).IsPlaced room (slack + 4 * grain) size := by
  have positive := grain_pos
  have span :
      ∀ {stretch : Stretch Float32} (axis : Axis),
        IsOnRange room slack (body.bounds.range (body.frame.axisDirection axis).axis) stretch →
          IsSpan room (slack + 2 * grain) (value stretch.extent)
            (stretch.within (body.bounds.range (body.frame.axisDirection axis).axis)
              (body.frame.isReversed axis)) :=
    fun axis onRange =>
      onRange.isSpan_within (canvas.mono (by linarith) (by linarith)) slack_nonneg
        (finite _).1 (finite _).2 _
  have along := (span .main forwardOn).mono le_rfl forward_eq
  have across := (span .cross sidewaysOn).mono le_rfl sideways_eq
  rw [body.frame.cross_axis_eq] at across
  exact (Bounds.isPlaced_ofRanges canvas along across).mono (by linarith) fun _ => le_rfl

/-- A gap takes all of a body across the flow. -/
theorem isPlaced_gap
    {gap : Stretch Float32}
    (canvas : IsCanvas room (slack + 2 * grain))
    (slack_nonneg : 0 ≤ slack)
    (finite : body.bounds.Each (Scalar.isFinite · = true))
    (gapOn : IsOnRange room slack (body.bounds.range body.frame.main.axis) gap)
    (whole :
      IsOnRange room slack (body.bounds.range body.frame.cross.axis)
        ⟨Scalar.zero, body.extent .cross⟩) :
    (body.onCanvas gap ⟨Scalar.zero, body.extent .cross⟩).IsPlaced room (slack + 4 * grain)
      (.ofAxis body.frame.main.axis gap.extent Scalar.zero) := by
  refine isPlaced_onCanvas canvas slack_nonneg finite gapOn whole ?_ ?_
  · rw [Size.along_ofAxis]
  · rw [body.frame.cross_axis_eq, Size.along_other_ofAxis, value_zero]
    exact whole.extent.nonneg

/-- A road at an edge takes all of a body along the flow. -/
theorem isPlaced_edge
    {offset width : Float32}
    (canvas : IsCanvas room (slack + 2 * grain))
    (slack_nonneg : 0 ≤ slack)
    (finite : body.bounds.Each (Scalar.isFinite · = true))
    (whole :
      IsOnRange room slack (body.bounds.range body.frame.main.axis)
        ⟨Scalar.zero, body.extent .main⟩)
    (edgeOn : IsOnRange room slack (body.bounds.range body.frame.cross.axis) ⟨offset, width⟩) :
    (body.onCanvas ⟨Scalar.zero, body.extent .main⟩ ⟨offset, width⟩).IsPlaced room
      (slack + 4 * grain) (.ofAxis body.frame.main.axis Scalar.zero width) := by
  refine isPlaced_onCanvas canvas slack_nonneg finite whole edgeOn ?_ ?_
  · rw [Size.along_ofAxis, value_zero]
    exact whole.extent.nonneg
  · rw [body.frame.cross_axis_eq, Size.along_other_ofAxis]

/-- Items lie at their stretches along the flow and between the edge roads across it. -/
theorem isPlaced_items
    {stretches : List (Stretch Float32)}
    {items : List (Item Float32)}
    {startWidth endWidth : Float32}
    (canvas : IsCanvas room (slack + 2 * grain))
    (slack_nonneg : 0 ≤ slack)
    (finite : body.bounds.Each (Scalar.isFinite · = true))
    (sameExtents : stretches.map (·.extent) = items.map (body.itemExtent .main))
    (forwardOn :
      ∀ stretch ∈ stretches,
        IsOnRange room slack (body.bounds.range body.frame.main.axis) stretch)
    (sidewaysOn :
      ∀ item ∈ items,
        IsOnRange room slack (body.bounds.range body.frame.cross.axis)
          (body.sidewaysStretch startWidth endWidth item)) :
    List.Forall₂ (fun size area => area.IsPlaced room (slack + 4 * grain) size)
      (items.map (·.size))
      ((stretches.zip items).map fun (forward, item) =>
        body.onCanvas forward (body.sidewaysStretch startWidth endWidth item)) := by
  have sameCount := congrArg List.length sameExtents
  rw [List.length_map, List.length_map] at sameCount
  have sizes_eq : (stretches.zip items).map (·.2.size) = items.map (·.size) := by
    have pairs := congrArg (List.map Item.size) (List.map_snd_zip sameCount.ge)
    rwa [List.map_map] at pairs
  refine forall₂_of_map_eq sizes_eq fun pair isPair => ?_
  obtain ⟨isStretch, isItem⟩ := List.of_mem_zip isPair
  have sameExtent := eq_of_mem_zip sameExtents isPair
  exact isPlaced_onCanvas canvas slack_nonneg finite (forwardOn _ isStretch)
    (sidewaysOn _ isItem) (congrArg value sameExtent).ge le_rfl

section Arrange

variable
  {excess : Rat}
  {laneWidth : Float32}
  {roads : OwnRoads}
  {items : List (Item Float32)}
  {size : Size Float32}

/-- Gaps and items are on the range along the flow, but for a part of the room for each. -/
theorem isOnRange_alternate
    (room_nonneg : 0 ≤ room)
    (placed : body.bounds.IsPlaced room slack size)
    (fits : roads.Fit laneWidth body.frame (items.map (·.size)) size)
    (upTo : IsUpTo room (size.along body.frame.main.axis))
    (excess_eq : excess = (items.length + roads.gaps.length) * (room / (3 * 2 ^ 17)))
    (small : room + excess ≤ 2 ^ 127)
    {stretch : Stretch Float32}
    (member :
      stretch ∈
          (Stretch.alternate Scalar.zero (roads.gaps.map (·.width laneWidth))
            (items.map (body.itemExtent .main))).1 ∨
        stretch ∈
          (Stretch.alternate Scalar.zero (roads.gaps.map (·.width laneWidth))
            (items.map (body.itemExtent .main))).2) :
    IsOnRange room (slack + excess) (body.bounds.range body.frame.main.axis) stretch := by
  have count_eq :
      ((items.map (body.itemExtent .main) ++ roads.gaps.map (·.width laneWidth)).length : Rat) =
        items.length + roads.gaps.length := by
    rw [List.length_append, List.length_map, List.length_map, Nat.cast_add]
  have length_eq :
      size.along body.frame.main.axis =
        Scalar.sum
          (items.map (body.itemExtent .main) ++ roads.gaps.map (·.width laneWidth)) := by
    rw [fits.length, List.map_map]
    rfl
  have measures :
      ∀ extent ∈ items.map (body.itemExtent .main) ++ roads.gaps.map (·.width laneWidth),
        IsMeasure extent := by
    have childrenMeasure := List.forall_mem_map.mp fits.childrenMeasure
    exact List.forall_mem_append.mpr ⟨List.forall_mem_map.mpr fun item isItem =>
      childrenMeasure item isItem _, List.forall_mem_map.mpr fits.roadsMeasure.2.2⟩
  rw [length_eq] at upTo
  obtain ⟨offsetMeasure, extentMeasure, sum_le⟩ :=
    Stretch.fits_alternate measures upTo (by rw [count_eq, ← excess_eq]; exact small) member
  rw [count_eq, ← excess_eq, ← length_eq] at sum_le
  refine .of_le (placed _) offsetMeasure extentMeasure ?_ sum_le
  rw [excess_eq]
  positivity

/-- An item lies between the edge roads of its container. -/
theorem isOnRange_sidewaysStretch
    (canvas : IsCanvas room slack)
    (placed : body.bounds.IsPlaced room slack size)
    (fits : roads.Fit laneWidth body.frame (items.map (·.size)) size)
    {item : Item Float32}
    (isItem : item ∈ items) :
    IsOnRange room (slack + 6 * grain) (body.bounds.range body.frame.cross.axis)
      (body.sidewaysStretch (roads.startEdge.width laneWidth) (roads.endEdge.width laneWidth)
        item) := by
  obtain ⟨startMeasure, endMeasure, _⟩ := fits.roadsMeasure
  have isSize : item.size ∈ items.map (·.size) := List.mem_map_of_mem isItem
  have measure : IsMeasure (body.itemExtent .cross item) := fits.childrenMeasure _ isSize _
  obtain ⟨available, _⟩ := (placed body.frame.cross.axis).space canvas startMeasure endMeasure
    fits.edges
  obtain ⟨offsetMeasure, offset_le⟩ := Alignment.offset_le available measure item.alignment
  exact IsOnRange.between (placed _) canvas startMeasure endMeasure measure
    (fits.breadth _ isSize) offsetMeasure offset_le

/-- What a container arranges on its body is placed near it. -/
theorem isPlaced_arrange
    (canvas : IsCanvas room (slack + excess + 8 * grain))
    (slack_nonneg : 0 ≤ slack)
    (placed : body.bounds.IsPlaced room slack size)
    (fits : roads.Fit laneWidth body.frame (items.map (·.size)) size)
    (upTo : IsUpTo room (size.along body.frame.main.axis))
    (gapCount : roads.gaps.length = items.length + 1)
    (excess_eq : excess = (items.length + roads.gaps.length) * (room / (3 * 2 ^ 17))) :
    (body.arrange (roads.gaps.map (·.width laneWidth)) (roads.startEdge.width laneWidth)
          (roads.endEdge.width laneWidth) items).IsPlaced
      room (slack + excess + 10 * grain) body.frame (roads.gaps.map (·.width laneWidth))
      (roads.startEdge.width laneWidth) (roads.endEdge.width laneWidth) (items.map (·.size)) := by
  have positive := grain_pos
  have room_nonneg := canvas.room_nonneg
  have excess_nonneg : 0 ≤ excess := excess_eq ▸ by positivity
  have inner : IsCanvas room slack := canvas.mono slack_nonneg (by linarith)
  have near : IsCanvas room (slack + excess + 6 * grain + 2 * grain) :=
    canvas.mono (by linarith) (by linarith)
  have near_nonneg : 0 ≤ slack + excess + 6 * grain := by linarith
  obtain ⟨startMeasure, endMeasure, _⟩ := fits.roadsMeasure
  have finite : body.bounds.Each (Scalar.isFinite · = true) :=
    fun axis => ⟨(placed axis).first.isFinite, (placed axis).last.isFinite⟩
  have whole :
      ∀ axis,
        IsOnRange room (slack + excess + 6 * grain)
          (body.bounds.range (body.frame.axisDirection axis).axis)
          ⟨Scalar.zero, body.extent axis⟩ :=
    fun axis => (IsOnRange.whole (placed _) inner).mono (by linarith)
  have alternate :
      ∀ {stretch : Stretch Float32},
        stretch ∈
              (Stretch.alternate Scalar.zero (roads.gaps.map (·.width laneWidth))
                (items.map (body.itemExtent .main))).1 ∨
            stretch ∈
              (Stretch.alternate Scalar.zero (roads.gaps.map (·.width laneWidth))
                (items.map (body.itemExtent .main))).2 →
          IsOnRange room (slack + excess + 6 * grain) (body.bounds.range body.frame.main.axis)
            stretch :=
    fun member =>
      (isOnRange_alternate room_nonneg placed fits upTo excess_eq
        (by linarith [canvas.inRange]) member).mono (by linarith)
  obtain ⟨gapExtents, itemExtents⟩ :=
    Stretch.extents_alternate (Scalar.zero : Float32)
      (show (items.map (body.itemExtent .main)).length ≤
          (roads.gaps.map (·.width laneWidth)).length by
        rw [List.length_map, List.length_map, gapCount]
        exact Nat.le_succ _)
  rw [show slack + excess + 10 * grain = slack + excess + 6 * grain + 4 * grain by ring]
  constructor
  case gaps =>
    exact forall₂_of_map_eq gapExtents fun stretch isGap =>
      isPlaced_gap near near_nonneg finite (alternate (.inl isGap)) (whole .cross)
  case items =>
    exact isPlaced_items near near_nonneg finite itemExtents
      (fun stretch isStretch => alternate (.inr isStretch))
      fun item isItem => (isOnRange_sidewaysStretch inner placed fits isItem).mono (by linarith)
  case startEdge =>
    have atStart :
        IsOnRange room (slack + 2 * grain) (body.bounds.range body.frame.cross.axis)
          ⟨Scalar.zero, roads.startEdge.width laneWidth⟩ := by
      refine .of_le (placed _) Single.isMeasure_zero startMeasure (by linarith) ?_
      linarith [fits.edges, endMeasure.nonneg, value_zero]
    exact isPlaced_edge near near_nonneg finite (whole .main) (atStart.mono (by linarith))
  case endEdge =>
    have atEnd :
        IsOnRange room (slack + 4 * grain) (body.bounds.range body.frame.cross.axis)
          ⟨body.extent .cross - roads.endEdge.width laneWidth,
            roads.endEdge.width laneWidth⟩ := by
      refine .atEnd (placed _) inner endMeasure ?_
      linarith [fits.edges, startMeasure.nonneg]
    exact isPlaced_edge near near_nonneg finite (whole .main) (atEnd.mono (by linarith))

end Arrange

end Body

end BoxDiagram
