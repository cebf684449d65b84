import BoxDiagram.Proofs.Layout.Placement
import BoxDiagram.Proofs.Layout.Slack

namespace BoxDiagram

open Single (IsCanvas IsMeasure IsNear IsUpTo grain grain_pos isCanvas_reach reach value)

/-!
# Boxes stay on the canvas

Each box of a layout lies in its size and a slack around it, which grows by a few grains for
each level and a small part of the size for each box.  So boxes stay where coordinates are
finite, as long as the size leaves room for the slack.
-/

/-- A box and its gates are on the canvas, and its label is finite. -/
structure NodeLayout.IsOnCanvas (node : NodeLayout Float32) : Prop where
  bounds : node.bounds.IsOnCanvas
  visible : node.visible.IsOnCanvas
  content : node.content.IsOnCanvas
  label : ∀ label ∈ node.label, label.bounds.Each (Scalar.isFinite · = true)
  gates : ∀ gate ∈ node.gates, gate.point.Each (IsNear 0 (reach + 44 * grain))

/-- A road and its lanes are on the canvas. -/
structure RoadLayout.IsOnCanvas (road : RoadLayout Float32) : Prop where
  bounds : road.bounds.IsOnCanvas
  line : ∀ lane ∈ road.lanes, IsNear 0 reach lane.line
  lane : ∀ lane ∈ road.lanes, lane.bounds.IsOnCanvas

/-- All boxes and roads are on the canvas. -/
structure Placement.IsOnCanvas (placement : Placement Float32) : Prop where
  nodes : ∀ node ∈ placement.nodes, node.IsOnCanvas
  roads : ∀ road ∈ placement.roads, road.IsOnCanvas

theorem Placement.isOnCanvas_empty :
    (empty : Placement Float32).IsOnCanvas := by
  constructor <;> intro _ isNone <;> cases isNone

theorem Placement.IsOnCanvas.append
    {first second : Placement Float32}
    (firstOn : first.IsOnCanvas)
    (secondOn : second.IsOnCanvas) :
    (first.append second).IsOnCanvas where
  nodes := List.forall_mem_append.mpr ⟨firstOn.nodes, secondOn.nodes⟩
  roads := List.forall_mem_append.mpr ⟨firstOn.roads, secondOn.roads⟩

section Roads

variable
  {room slack : Rat}
  {laneWidth : Float32}
  {bounds : Bounds Float32}
  {size : Size Float32}
  {lanes : RoadLanes}

/-- A lane lies at its road, but for a few grains. -/
theorem LaneLayout.isOnCanvas_within
    {lane : Nat}
    {side : Direction}
    (canvas : IsCanvas room (slack + 26 * grain))
    (slack_nonneg : 0 ≤ slack)
    (placed : bounds.IsPlaced room slack size)
    (measure : IsMeasure laneWidth)
    (few : lanes.count ≤ 2 ^ 65)
    (upTo : IsUpTo (2 ^ 127) (lanes.width laneWidth))
    (width_le : value (lanes.width laneWidth) ≤ value (size.along side.axis))
    (inside : lane < lanes.count)
    (link : Option LinkId) :
    IsNear 0 reach (within laneWidth bounds side lane link).line ∧
      (within laneWidth bounds side lane link).bounds.IsOnCanvas := by
  have positive := grain_pos
  obtain ⟨step, half, half_le, step_le⟩ :=
    Single.lane_le (few.trans (by decide)) inside measure upTo
  have span := placed side.axis
  have ⟨_, firstLow, firstHigh⟩ := span.first
  have ⟨_, lastLow, lastHigh⟩ := span.last
  have fromFirst := span.fromFirst
  have fromLast := span.fromLast
  have stepNonneg := step.nonneg
  have halfNonneg := half.nonneg
  change _ ≤ value (lanes.width laneWidth) + 20 * grain at step_le
  have stepCanvas : IsCanvas room (slack + 20 * grain) := canvas.mono (by linarith) (by linarith)
  have beside :
      IsNear room (slack + 23 * grain) (within laneWidth bounds side lane link).line ∧
        -(slack + 23 * grain) ≤
            value (within laneWidth bounds side lane link).line -
              value (Scalar.half laneWidth) ∧
          value (within laneWidth bounds side lane link).line + value (Scalar.half laneWidth) ≤
            room + (slack + 23 * grain) := by
    simp only [within]
    split
    · obtain ⟨line, close⟩ := (Single.rounds_sub span.last.isFinite step.isFinite).isNear
        stepCanvas (by linarith) (by linarith)
      obtain ⟨below, above⟩ := abs_le.mp close
      exact ⟨line.mono (by linarith), by linarith, by linarith⟩
    · obtain ⟨line, close⟩ := (Single.rounds_add span.first.isFinite step.isFinite).isNear
        stepCanvas (by linarith) (by linarith)
      obtain ⟨below, above⟩ := abs_le.mp close
      exact ⟨line.mono (by linarith), by linarith, by linarith⟩
  obtain ⟨line, low, high⟩ := beside
  have lineCanvas : IsCanvas room (slack + 23 * grain) := canvas.mono (by linarith) (by linarith)
  refine ⟨line.reaches lineCanvas, ?_⟩
  have across := Single.isSpan_beside lineCanvas line half low high
  exact Bounds.isOnCanvas_ofRanges (canvas.mono (by linarith) (by linarith)) (by linarith) across
    ((placed side.axis.other).mono (by linarith) le_rfl)

/-- A road is on the canvas with all of its lanes. -/
theorem RoadLayout.isOnCanvas_within
    {frame : Compass}
    {road : Road}
    (canvas : IsCanvas room (slack + 26 * grain))
    (slack_nonneg : 0 ≤ slack)
    (placed : bounds.IsPlaced room slack size)
    (measure : IsMeasure laneWidth)
    (few : lanes.count ≤ 2 ^ 65)
    (upTo : IsUpTo (2 ^ 127) (lanes.width laneWidth))
    (width_le :
      value (lanes.width laneWidth) ≤ value (size.along (frame.axisDirection road.axis).axis)) :
    (within laneWidth frame road lanes bounds).IsOnCanvas := by
  have each :
      ∀ lane ∈ (within laneWidth frame road lanes bounds).lanes,
        IsNear 0 reach lane.line ∧ lane.bounds.IsOnCanvas := by
    refine List.forall_mem_map.mpr fun entry member => ?_
    have inside : entry.2 < lanes.count := by
      simpa using List.snd_lt_of_mem_zipIdx member
    exact LaneLayout.isOnCanvas_within canvas slack_nonneg placed measure few upTo width_le
      inside _
  exact ⟨placed.isOnCanvas (canvas.mono slack_nonneg (by linarith [grain_pos])),
    fun lane member => (each lane member).1, fun lane member => (each lane member).2⟩

/-- The roads of a container are on the canvas. -/
theorem OwnRoads.isOnCanvas_layouts
    {roads : OwnRoads}
    {node : Node Float32}
    {sizes : List (Size Float32)}
    {arrangement : Arrangement Float32}
    (canvas : IsCanvas room (slack + 26 * grain))
    (slack_nonneg : 0 ≤ slack)
    (placed :
      arrangement.IsPlaced room slack node.itemFrame (roads.gaps.map (·.width laneWidth))
        (roads.startEdge.width laneWidth) (roads.endEdge.width laneWidth) sizes)
    (measure : IsMeasure laneWidth)
    (counts : ∀ lanes ∈ roads.all, lanes.count ≤ 2 ^ 65)
    (upTo : ∀ lanes ∈ roads.all, IsUpTo (2 ^ 127) (lanes.width laneWidth)) :
    ∀ road ∈ roads.layouts laneWidth node arrangement, road.IsOnCanvas := by
  rw [all, List.forall_mem_cons, List.forall_mem_cons] at counts upTo
  obtain ⟨startCount, endCount, gapCounts⟩ := counts
  obtain ⟨startUpTo, endUpTo, gapsUpTo⟩ := upTo
  refine List.forall_mem_append.mpr ⟨List.forall_mem_map.mpr ?_, ?_⟩
  · intro entry member
    have isPair := List.fst_mem_of_mem_zipIdx member
    obtain ⟨isLanes, _⟩ := List.of_mem_zip isPair
    have gapPlaced :=
      (List.forall₂_iff_zip.mp (List.forall₂_map_left_iff.mp placed.gaps)).2 isPair
    exact RoadLayout.isOnCanvas_within canvas slack_nonneg gapPlaced measure
      (gapCounts _ isLanes) (gapsUpTo _ isLanes) (by
        change _ ≤ value (Size.along _ node.itemFrame.main.axis)
        rw [Size.along_ofAxis])
  · have edge :
        ∀ width,
          value width ≤
            value ((Size.ofAxis node.itemFrame.main.axis Scalar.zero width).along
              node.itemFrame.cross.axis) := by
      intro width
      rw [node.itemFrame.cross_axis_eq, Size.along_other_ofAxis]
    rw [List.forall_mem_cons, List.forall_mem_singleton]
    exact ⟨RoadLayout.isOnCanvas_within canvas slack_nonneg placed.startEdge measure startCount
        startUpTo (edge _),
      RoadLayout.isOnCanvas_within canvas slack_nonneg placed.endEdge measure endCount endUpTo
        (edge _)⟩

end Roads

namespace SizedBox

variable {room slack : Rat} {levels : Nat} {laneWidth : Float32}

/-- A box without gates is on the canvas with its rectangles and its label. -/
theorem isOnCanvas_layout
    {node : Node Float32}
    {content size : Size Float32}
    {shown : Option (LabelLayout Float32)}
    {outer : Bounds Float32}
    (nodeFits : node.Fits content size)
    (canvas : IsCanvas room (slack + 10 * grain))
    (slack_nonneg : 0 ≤ slack)
    (placed : outer.IsPlaced room slack size)
    (shownFinite : ∀ text ∈ shown, text.bounds.Each (Scalar.isFinite · = true)) :
    ((BoxBounds.ofOuter node.spacing outer).layout node shown).IsOnCanvas := by
  obtain ⟨visible, content⟩ := BoxBounds.isPlaced_ofOuter nodeFits canvas slack_nonneg placed
  exact {
    bounds := placed.isOnCanvas (canvas.mono slack_nonneg (by linarith [grain_pos]))
    visible := visible
    content := content.isOnCanvas canvas
    label := shownFinite
    gates := fun gate isNone => by cases isNone }

/-- Several boxes are on the canvas if each of them is. -/
theorem isOnCanvas_placeAll
    {boxes : List (SizedBox Float32)}
    {outers : List (Bounds Float32)}
    (arePlaced :
      List.Forall₂ (fun box outer => (box.place laneWidth outer).IsOnCanvas) boxes outers) :
    (placeAll laneWidth boxes outers).IsOnCanvas := by
  induction arePlaced with
  | nil => exact Placement.isOnCanvas_empty
  | cons isPlaced _ inductionHypothesis =>
      rw [placeAll]
      exact isPlaced.append inductionHypothesis

/-- What the sums along a container cost is paid by its boxes. -/
theorem excess_le
    (children : List (SizedBox Float32))
    (room_nonneg : 0 ≤ room) :
    (children.length + (children.length + 1)) * (room / (3 * 2 ^ 17)) ≤
        (boxesOfAll children + 1) * (room / 2 ^ 17) ∧
      ∀ child ∈ children,
        (children.length + (children.length + 1)) * (room / (3 * 2 ^ 17)) +
            child.boxes * (room / 2 ^ 17) ≤
          (boxesOfAll children + 1) * (room / 2 ^ 17) := by
  have count_nonneg : (0 : Rat) ≤ children.length := Nat.cast_nonneg _
  constructor
  · have count_le : (children.length : Rat) ≤ boxesOfAll children :=
      Nat.cast_le.mpr (length_le_boxesOfAll children)
    nlinarith
  · intro child member
    have counted : ((child.boxes + children.length : Nat) : Rat) ≤
        (boxesOfAll children + 1 : Nat) :=
      Nat.cast_le.mpr (boxes_add_length_le member)
    push_cast at counted
    have one_le : (1 : Rat) ≤ children.length := by
      exact_mod_cast List.length_pos_of_mem member
    nlinarith

/-- The children and roads of a container are placed near its body. -/
theorem isPlaced_arrangement
    {node : Node Float32}
    {roads : OwnRoads}
    {children : List (SizedBox Float32)}
    {body : Bounds Float32}
    {size : Size Float32}
    {excess : Rat}
    (canvas : IsCanvas room (slack + excess + 8 * grain))
    (slack_nonneg : 0 ≤ slack)
    (placed : body.IsPlaced room slack size)
    (fits : roads.Fit laneWidth node.itemFrame (children.map (·.outer)) size)
    (upTo : IsUpTo room (size.along node.itemFrame.main.axis))
    (gapCount : roads.gaps.length = children.length + 1)
    (excess_eq :
      excess = (children.length + (children.length + 1)) * (room / (3 * 2 ^ 17))) :
    (arrangement laneWidth node roads children body).IsPlaced room
      (slack + excess + 10 * grain) node.itemFrame (roads.gaps.map (·.width laneWidth))
      (roads.startEdge.width laneWidth) (roads.endEdge.width laneWidth)
      (children.map (·.outer)) := by
  have sizes_eq : children.map (·.outer) = (children.map (item node)).map (·.size) := by
    rw [List.map_map]
    rfl
  have bodyPlaced :
      (⟨body, node.itemFrame⟩ : Body Float32).bounds.IsPlaced room slack size :=
    placed
  rw [sizes_eq] at fits ⊢
  refine Body.isPlaced_arrange canvas slack_nonneg bodyPlaced fits upTo
    (by rw [gapCount, List.length_map]) ?_
  rw [excess_eq, gapCount, List.length_map]
  push_cast
  ring

/--
All that lies in a box that fits is on the canvas, if the room leaves grains free for each
level and a small part of it for each box.
-/
theorem Fits.isOnCanvas
    {box : SizedBox Float32}
    {outer : Bounds Float32}
    (fits : box.Fits room laneWidth levels)
    (measure : IsMeasure laneWidth)
    (slack_nonneg : 0 ≤ slack)
    (placed : outer.IsPlaced room slack box.outer)
    (canvas :
      IsCanvas room
        (slack + box.boxes * (room / 2 ^ 17) + levels * (32 * grain) + 64 * grain)) :
    (box.place laneWidth outer).IsOnCanvas := by
  have positive := grain_pos
  have room_nonneg := canvas.room_nonneg
  have part_nonneg : 0 ≤ room / 2 ^ 17 := by positivity
  induction fits generalizing slack outer with
  | @cell levels node label content size nodeFits labelMeasure =>
      have levels_nonneg : 0 ≤ ((levels + 1 : Nat) : Rat) * (32 * grain) := by positivity
      have boxes_nonneg : 0 ≤ (boxes (.cell node label size) : Rat) * (room / 2 ^ 17) := by
        positivity
      have near : IsCanvas room (slack + 64 * grain) := canvas.mono (by linarith) (by linarith)
      obtain ⟨_, contentPlaced⟩ := BoxBounds.isPlaced_ofOuter nodeFits
        (near.mono (by linarith) (by linarith)) slack_nonneg placed
      have shownFinite := BoxBounds.each_isFinite_cellLabel contentPlaced
        (near.mono (by linarith) (by linarith)) (by linarith) labelMeasure node
      have own := isOnCanvas_layout nodeFits (near.mono (by linarith) (by linarith))
        slack_nonneg placed shownFinite
      rw [place]
      exact ⟨List.forall_mem_singleton.mpr own, List.forall_mem_nil _⟩
  | @container levels node label body content size roads children nodeFits labelMeasure body_le
      labelled bodyUpTo bodyFits counts gapCount childrenFit inductionHypothesis =>
      obtain ⟨ownExcess_le, childExcess_le⟩ := excess_le children room_nonneg
      have excess_nonneg :
          0 ≤ (children.length + (children.length + 1) : Rat) * (room / (3 * 2 ^ 17)) := by
        positivity
      generalize excess_eq :
        (children.length + (children.length + 1) : Rat) * (room / (3 * 2 ^ 17)) = excess at *
      rw [boxes, Nat.cast_add_one, Nat.cast_add_one] at canvas
      have levels_nonneg : 0 ≤ (levels : Rat) * (32 * grain) := by positivity
      have near : IsCanvas room (slack + excess + 64 * grain) :=
        canvas.mono (by linarith) (by linarith)
      have bodyMeasure : body.Each IsMeasure := fun axis => (bodyUpTo axis).isMeasure
      obtain ⟨_, contentPlaced⟩ := BoxBounds.isPlaced_ofOuter nodeFits
        (near.mono (by linarith) (by linarith)) slack_nonneg placed
      have shownFinite := BoxBounds.each_isFinite_containerLabel contentPlaced
        (near.mono (by linarith) (by linarith)) (by linarith) labelMeasure bodyMeasure labelled
        node
      have own := isOnCanvas_layout nodeFits (near.mono (by linarith) (by linarith))
        slack_nonneg placed shownFinite
      have bodyPlaced := BoxBounds.isPlaced_body contentPlaced
        (near.mono (by linarith) (by linarith)) (by linarith) labelMeasure bodyMeasure body_le
        labelled
      have arranged := isPlaced_arrangement (near.mono (by linarith) (by linarith)) (by linarith)
        bodyPlaced bodyFits (bodyUpTo _) gapCount excess_eq.symm
      have ownRoads :=
        OwnRoads.isOnCanvas_layouts (near.mono (by linarith) (by linarith)) (by linarith)
          arranged measure counts bodyFits.roadsUpTo
      rw [place]
      refine Placement.IsOnCanvas.append ⟨List.forall_mem_singleton.mpr own, ownRoads⟩ ?_
      have childrenPlaced := (List.forall₂_and_left _ _).mpr
        ⟨fun child (member : child ∈ children) => member,
          List.forall₂_map_left_iff.mp arranged.items⟩
      refine isOnCanvas_placeAll (childrenPlaced.imp fun child area isChild => ?_)
      refine inductionHypothesis child isChild.1 (by linarith) isChild.2 (canvas.mono ?_ ?_)
      · have boxes_nonneg : 0 ≤ (child.boxes : Rat) * (room / 2 ^ 17) := by positivity
        linarith
      · linarith [childExcess_le child isChild.1]

end SizedBox

end BoxDiagram
