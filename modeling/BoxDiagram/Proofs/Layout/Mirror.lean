import BoxDiagram.Layout.Placement
import BoxDiagram.Proofs.Layout.Arrangement

namespace BoxDiagram

/-!
# Reversed axes mirror a container

Turning one axis of the frame of a container around, within the same body, mirrors
everything that the container arranges about the middle of the body: children, roads and
lanes change sides, and along the turned frame each is where it was.
-/

/-! ## Turned frames -/

namespace Compass

/-- The frame with one of its axes running the other way. -/
def reverseAxis (frame : Compass) : Axis → Compass
  | .main => ⟨frame.main.reverse, frame.cross, by simpa using frame.crossing⟩
  | .cross => ⟨frame.main, frame.cross.reverse, by simpa using frame.crossing⟩

variable (frame : Compass) (axis along : Axis)

theorem axisDirection_reverseAxis :
    (frame.reverseAxis axis).axisDirection along =
      if along = axis then (frame.axisDirection along).reverse else frame.axisDirection along := by
  cases axis <;> cases along <;> rfl

/-- The axes of a turned frame lie where they lay. -/
@[simp] theorem axis_axisDirection_reverseAxis :
    ((frame.reverseAxis axis).axisDirection along).axis = (frame.axisDirection along).axis := by
  rw [axisDirection_reverseAxis]
  split
  · exact Direction.axis_reverse _
  · rfl

theorem isReversed_reverseAxis :
    (frame.reverseAxis axis).isReversed along =
      if along = axis then !frame.isReversed along else frame.isReversed along := by
  have flipped (direction : Direction) : direction.reverse.isReversed = !direction.isReversed := by
    cases direction <;> rfl
  rw [isReversed, axisDirection_reverseAxis, isReversed]
  split
  · exact flipped _
  · rfl

/-- Two axes of a frame that lie along one axis of the canvas are the same. -/
theorem axis_axisDirection_inj
    {first second : Axis} :
    (frame.axisDirection first).axis = (frame.axisDirection second).axis ↔ first = second := by
  constructor
  · intro same
    cases first <;> cases second
    · rfl
    · exact absurd same frame.crossing
    · exact absurd same.symm frame.crossing
    · rfl
  · rintro rfl
    rfl

end Compass

/-! ## Mirror images -/

/-- A line across an axis of the canvas, about which coordinates along this axis are mirrored. -/
structure Mirror where
  axis : Axis
  middle : Rat

namespace Mirror

variable (mirror : Mirror) (along : Axis)

/-- The coordinate along an axis of what is mirrored. -/
def coordinate (number : Rat) : Rat :=
  if along = mirror.axis then 2 * mirror.middle - number else number

/-- The range along an axis of what is mirrored; the ends change places. -/
def range (ends : Rat × Rat) : Rat × Rat :=
  if along = mirror.axis then (mirror.coordinate along ends.2, mirror.coordinate along ends.1)
  else ends

/-- The mirror image of a rectangle. -/
def bounds (area : Bounds Rat) : Bounds Rat where
  minX := (mirror.range .main (area.range .main)).1
  minY := (mirror.range .cross (area.range .cross)).1
  maxX := (mirror.range .main (area.range .main)).2
  maxY := (mirror.range .cross (area.range .cross)).2

@[simp] theorem range_bounds
    (area : Bounds Rat) :
    (mirror.bounds area).range along = mirror.range along (area.range along) := by
  cases along <;> rfl

/-- A rectangle given by its ranges is mirrored range by range. -/
theorem bounds_ofRanges
    (forward sideways : Rat × Rat) :
    mirror.bounds (.ofRanges along forward sideways) =
      .ofRanges along (mirror.range along forward) (mirror.range along.other sideways) := by
  cases along <;>
    simp [bounds, Bounds.ofRanges, Bounds.ofTopLeft, Bounds.range, Point.ofAxis, Size.ofAxis,
      Axis.other]

/-- What lies around a coordinate lies around its mirror image. -/
theorem range_around
    (number half : Rat) :
    mirror.range along (number - half, number + half) =
      (mirror.coordinate along number - half, mirror.coordinate along number + half) := by
  simp only [range, coordinate]
  split
  · ext <;> simp only <;> ring
  · rfl

/-- A lane of a road whose lanes have a fixed coordinate along an axis, in the mirror. -/
def lane (fixedAxis : Axis) (lane : LaneLayout Rat) : LaneLayout Rat where
  lane := lane.lane
  link := lane.link
  line := mirror.coordinate fixedAxis lane.line
  bounds := mirror.bounds lane.bounds

/-- A road in the mirror, with the lanes in the order in which they were. -/
def road (road : RoadLayout Rat) : RoadLayout Rat where
  road := road.road
  bounds := mirror.bounds road.bounds
  fixedAxis := road.fixedAxis
  lanes := road.lanes.map (mirror.lane road.fixedAxis)

/-- The mirror image of an arrangement. -/
def arrangement (arrangement : Arrangement Rat) : Arrangement Rat where
  gaps := arrangement.gaps.map mirror.bounds
  items := arrangement.items.map mirror.bounds
  startEdge := mirror.bounds arrangement.startEdge
  endEdge := mirror.bounds arrangement.endEdge

end Mirror

/-- Rectangles with the same ranges along both axes of a frame are equal. -/
theorem Bounds.eq_of_ranges
    {first second : Bounds Rat}
    (frame : Compass)
    (same :
      ∀ axis, first.range (frame.axisDirection axis).axis =
        second.range (frame.axisDirection axis).axis) :
    first = second := by
  have sameRange : ∀ axis, first.range axis = second.range axis :=
    frame.forall_axis (same .main) (same .cross)
  obtain ⟨sameLeft, sameRight⟩ := Prod.mk.inj (sameRange .main)
  obtain ⟨sameTop, sameBottom⟩ := Prod.mk.inj (sameRange .cross)
  cases first
  cases second
  simp_all

/-- A stretch of a range that is run through the other way is mirrored in the range. -/
theorem Stretch.within_not
    (stretch : Stretch Rat)
    (range : Rat × Rat)
    (reversed : Bool) :
    stretch.within range (!reversed) =
      (range.1 + range.2 - (stretch.within range reversed).2,
        range.1 + range.2 - (stretch.within range reversed).1) := by
  cases reversed with
  | false =>
      simp only [within, Bool.not_false, Bool.false_eq_true, if_false, if_true]
      ext <;> simp only <;> ring
  | true =>
      simp only [within, Bool.not_true, Bool.false_eq_true, if_false, if_true]
      ext <;> simp only <;> ring

/-- A lane lies half its width on both sides of its line, all along its road. -/
theorem LaneLayout.bounds_within
    (laneWidth : Rat)
    (area : Bounds Rat)
    (side : Direction)
    (number : Nat)
    (link : Option LinkId) :
    (within laneWidth area side number link).bounds =
      .ofRanges side.axis
        ((within laneWidth area side number link).line - Scalar.half laneWidth,
          (within laneWidth area side number link).line + Scalar.half laneWidth)
        (area.range side.axis.other) :=
  rfl

namespace Body

variable (body : Body Rat) (axis : Axis)

/-- The body with one axis of its frame running the other way. -/
def reverseAxis : Body Rat :=
  { body with frame := body.frame.reverseAxis axis }

/-- The line through the middle of a body, across an axis of its frame. -/
def midline : Mirror where
  axis := (body.frame.axisDirection axis).axis
  middle := body.bounds.center.along (body.frame.axisDirection axis).axis

/-- The stretch of an axis of the frame that a rectangle takes. -/
def stretchOf (along : Axis) (area : Bounds Rat) : Stretch Rat :=
  let whole := body.bounds.range (body.frame.axisDirection along).axis
  let part := area.range (body.frame.axisDirection along).axis
  { offset := if body.frame.isReversed along then whole.2 - part.2 else part.1 - whole.1
    extent := part.2 - part.1 }

theorem range_onCanvas
    (along : Axis)
    (forward sideways : Stretch Rat) :
    (body.onCanvas forward sideways).range (body.frame.axisDirection along).axis =
      Stretch.within (match along with | .main => forward | .cross => sideways)
        (body.bounds.range (body.frame.axisDirection along).axis)
        (body.frame.isReversed along) := by
  cases along with
  | main =>
      exact body.range_main_onCanvas forward sideways
  | cross =>
      exact body.range_cross_onCanvas forward sideways

/-- The two ends of a body are equally far from its midline. -/
theorem coordinate_midline
    (number : Rat) :
    (body.midline axis).coordinate (body.frame.axisDirection axis).axis number =
      (body.bounds.range (body.frame.axisDirection axis).axis).1 +
        (body.bounds.range (body.frame.axisDirection axis).axis).2 - number := by
  simp only [Mirror.coordinate, midline, if_true]
  cases (body.frame.axisDirection axis).axis <;>
    simp only [Bounds.center, Point.along, Bounds.range, Scalar.half_rat] <;> ring

theorem range_midline
    (along : Axis)
    (ends : Rat × Rat) :
    (body.midline axis).range (body.frame.axisDirection along).axis ends =
      if along = axis then
        ((body.bounds.range (body.frame.axisDirection along).axis).1 +
            (body.bounds.range (body.frame.axisDirection along).axis).2 - ends.2,
          (body.bounds.range (body.frame.axisDirection along).axis).1 +
            (body.bounds.range (body.frame.axisDirection along).axis).2 - ends.1)
      else ends := by
  by_cases isTurned : along = axis
  · subst isTurned
    rw [Mirror.range, coordinate_midline, coordinate_midline, midline, if_pos rfl, if_pos rfl]
  · have isApart : (body.frame.axisDirection along).axis ≠ (body.midline axis).axis :=
      fun same => isTurned (body.frame.axis_axisDirection_inj.mp same)
    rw [Mirror.range, if_neg isApart, if_neg isTurned]

/-- The same stretches of a turned frame make the mirror image. -/
theorem onCanvas_reverseAxis
    (forward sideways : Stretch Rat) :
    (body.reverseAxis axis).onCanvas forward sideways =
      (body.midline axis).bounds (body.onCanvas forward sideways) := by
  apply Bounds.eq_of_ranges body.frame
  intro along
  have turned := (body.reverseAxis axis).range_onCanvas along forward sideways
  simp only [reverseAxis, Compass.axis_axisDirection_reverseAxis] at turned
  rw [Mirror.range_bounds, range_midline, range_onCanvas, reverseAxis, turned,
    Compass.isReversed_reverseAxis]
  by_cases isTurned : along = axis
  · rw [if_pos isTurned, if_pos isTurned]
    exact Stretch.within_not _ _ _
  · rw [if_neg isTurned, if_neg isTurned]

/-- Along a turned frame a mirror image takes the stretch that was taken before. -/
theorem stretchOf_reverseAxis
    (along : Axis)
    (area : Bounds Rat) :
    (body.reverseAxis axis).stretchOf along ((body.midline axis).bounds area) =
      body.stretchOf along area := by
  simp only [stretchOf, reverseAxis, Compass.axis_axisDirection_reverseAxis,
    Mirror.range_bounds, range_midline, Compass.isReversed_reverseAxis]
  by_cases isTurned : along = axis
  · rw [if_pos isTurned, if_pos isTurned]
    cases body.frame.isReversed along <;> simp <;> ring
  · rw [if_neg isTurned, if_neg isTurned]

theorem extent_reverseAxis
    (along : Axis) :
    (body.reverseAxis axis).extent along = body.extent along := by
  simp only [extent, reverseAxis, Compass.axis_axisDirection_reverseAxis]

theorem itemExtent_reverseAxis
    (along : Axis) :
    (body.reverseAxis axis).itemExtent along = body.itemExtent along := by
  funext item
  simp only [itemExtent, reverseAxis, Compass.axis_axisDirection_reverseAxis]

theorem sidewaysStretch_reverseAxis
    (startWidth endWidth : Rat)
    (item : Item Rat) :
    (body.reverseAxis axis).sidewaysStretch startWidth endWidth item =
      body.sidewaysStretch startWidth endWidth item := by
  simp only [sidewaysStretch, extent_reverseAxis, itemExtent_reverseAxis]

/-- What is arranged along a turned frame is the mirror image of what was arranged. -/
theorem arrange_reverseAxis
    (gapWidths : List Rat)
    (startWidth endWidth : Rat)
    (items : List (Item Rat)) :
    (body.reverseAxis axis).arrange gapWidths startWidth endWidth items =
      (body.midline axis).arrangement (body.arrange gapWidths startWidth endWidth items) := by
  simp only [arrange, Mirror.arrangement, extent_reverseAxis, itemExtent_reverseAxis,
    sidewaysStretch_reverseAxis, onCanvas_reverseAxis, List.map_map, Function.comp_def]

/-! ## Lanes -/

/-- The lines of lanes are counted from the end of a road where its frame starts. -/
theorem line_reverseAxis
    (laneWidth : Rat)
    (along : Axis)
    (area : Bounds Rat)
    (number : Nat)
    (link : Option LinkId) :
    (LaneLayout.within laneWidth ((body.midline axis).bounds area)
        ((body.frame.reverseAxis axis).axisDirection along) number link).line =
      (body.midline axis).coordinate (body.frame.axisDirection along).axis
        (LaneLayout.within laneWidth area (body.frame.axisDirection along) number link).line := by
  have turned := body.frame.isReversed_reverseAxis axis along
  simp only [Compass.isReversed] at turned
  simp only [LaneLayout.within, Compass.axis_axisDirection_reverseAxis, Mirror.range_bounds,
    range_midline, turned]
  by_cases isTurned : along = axis
  · subst isTurned
    rw [if_pos rfl, if_pos rfl, coordinate_midline]
    cases (body.frame.axisDirection along).isReversed <;> simp <;> ring
  · have isApart : (body.frame.axisDirection along).axis ≠ (body.midline axis).axis :=
      fun same => isTurned (body.frame.axis_axisDirection_inj.mp same)
    rw [if_neg isTurned, if_neg isTurned, Mirror.coordinate, if_neg isApart]

/-- On the mirror image of a road the lanes of a turned frame are mirrored. -/
theorem lane_reverseAxis
    (laneWidth : Rat)
    (along : Axis)
    (area : Bounds Rat)
    (number : Nat)
    (link : Option LinkId) :
    LaneLayout.within laneWidth ((body.midline axis).bounds area)
        ((body.frame.reverseAxis axis).axisDirection along) number link =
      (body.midline axis).lane (body.frame.axisDirection along).axis
        (.within laneWidth area (body.frame.axisDirection along) number link) := by
  have sameLine := body.line_reverseAxis axis laneWidth along area number link
  have sameBand :
      (LaneLayout.within laneWidth ((body.midline axis).bounds area)
          ((body.frame.reverseAxis axis).axisDirection along) number link).bounds =
        (body.midline axis).bounds
          (LaneLayout.within laneWidth area (body.frame.axisDirection along) number
            link).bounds := by
    rw [LaneLayout.bounds_within, LaneLayout.bounds_within, sameLine, Mirror.bounds_ofRanges,
      Mirror.range_around, Mirror.range_bounds, Compass.axis_axisDirection_reverseAxis]
  rw [LaneLayout.mk.injEq]
  exact ⟨rfl, rfl, sameLine, sameBand⟩

theorem road_reverseAxis
    (laneWidth : Rat)
    (road : Road)
    (lanes : RoadLanes)
    (area : Bounds Rat) :
    RoadLayout.within laneWidth (body.frame.reverseAxis axis) road lanes
        ((body.midline axis).bounds area) =
      (body.midline axis).road (.within laneWidth body.frame road lanes area) := by
  simp only [RoadLayout.within, Mirror.road, Compass.axis_axisDirection_reverseAxis,
    lane_reverseAxis, List.map_map, Function.comp_def]

end Body

/-! ## Containers -/

/-- The box with one axis of the frame of its contents running the other way. -/
def Node.reverseAxis (node : Node Rat) (axis : Axis) : Node Rat :=
  { node with itemFrame := node.itemFrame.reverseAxis axis }

/-- The roads of a container at the mirror images of places are mirrored, lane by lane. -/
theorem OwnRoads.layouts_reverseAxis
    (roads : OwnRoads)
    (laneWidth : Rat)
    (node : Node Rat)
    (axis : Axis)
    (body : Bounds Rat)
    (arrangement : Arrangement Rat) :
    roads.layouts laneWidth (node.reverseAxis axis)
        ((Body.midline ⟨body, node.itemFrame⟩ axis).arrangement arrangement) =
      (roads.layouts laneWidth node arrangement).map
        (Body.midline ⟨body, node.itemFrame⟩ axis).road := by
  have sameRoad (road : Road) (lanes : RoadLanes) (area : Bounds Rat) :=
    Body.road_reverseAxis ⟨body, node.itemFrame⟩ axis laneWidth road lanes area
  simp only at sameRoad
  simp only [layouts, Node.reverseAxis, Mirror.arrangement, sameRoad, List.map_append,
    List.map_map, Function.comp_def, List.map_cons, List.map_nil, List.zip_map_right,
    List.zipIdx_map, Prod.map]
  rfl

/--
A container with one axis turned around, within the same body, is the mirror image of
itself: its gaps, children and roads in the same order with their lanes under the same
numbers.  Each rectangle takes the same stretches along the turned frame.
-/
theorem SizedBox.arrangement_reverseAxis
    (laneWidth : Rat)
    (node : Node Rat)
    (roads : OwnRoads)
    (children : List (SizedBox Rat))
    (body : Bounds Rat)
    (axis : Axis) :
    let mirror := Body.midline ⟨body, node.itemFrame⟩ axis
    let turned := arrangement laneWidth (node.reverseAxis axis) roads children body
    turned = mirror.arrangement (arrangement laneWidth node roads children body) ∧
      roads.layouts laneWidth (node.reverseAxis axis) turned =
        (roads.layouts laneWidth node (arrangement laneWidth node roads children body)).map
          mirror.road ∧
      ∀ along area,
        Body.stretchOf ⟨body, (node.reverseAxis axis).itemFrame⟩ along (mirror.bounds area) =
          Body.stretchOf ⟨body, node.itemFrame⟩ along area := by
  intro mirror turned
  have mirrored :
      turned = mirror.arrangement (arrangement laneWidth node roads children body) :=
    Body.arrange_reverseAxis ⟨body, node.itemFrame⟩ axis _ _ _ _
  refine ⟨mirrored, ?_, ?_⟩
  · rw [mirrored]
    exact roads.layouts_reverseAxis laneWidth node axis body _
  · exact Body.stretchOf_reverseAxis ⟨body, node.itemFrame⟩ axis

end BoxDiagram
