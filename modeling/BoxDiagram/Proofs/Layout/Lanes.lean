import BoxDiagram.Proofs.Lane.Allocation
import BoxDiagram.Proofs.Layout.Engine
import BoxDiagram.Proofs.Layout.Flow
import Mathlib.Data.List.Range

namespace BoxDiagram

/-!
# Lanes fill their roads

A road in its place is as wide as the lanes that the table has for it, in whichever
direction its container runs.  So the lanes divide the band of the road without gap or
overlap, and each lies one lane width further in this direction than the one before it.
-/

open Bounds (RangeIn)

/-! ## Ranges that divide a range -/

/-- Ranges tile a range: they lie in it, no two overlap and together they cover it. -/
structure Tiles (range : Rat × Rat) (parts : List (Rat × Rat)) : Prop where
  inside : ∀ part ∈ parts, RangeIn part range
  apart : parts.Pairwise fun first second => first.2 ≤ second.1 ∨ second.2 ≤ first.1
  covered :
    ∀ place, range.1 ≤ place → place < range.2 →
      ∃ part ∈ parts, part.1 ≤ place ∧ place < part.2

namespace Tiles

variable {lower middle upper : Rat} {parts : List (Rat × Rat)}

/-- Nothing tiles an empty range. -/
theorem nil
    (place : Rat) :
    Tiles (place, place) [] := by
  refine ⟨by simp, .nil, fun other least less => ?_⟩
  exact absurd least less.not_ge

/-- A tiled range is extended by a further part above it. -/
theorem concat
    (tiles : Tiles (lower, middle) parts)
    (isUp : lower ≤ middle)
    (ordered : middle ≤ upper) :
    Tiles (lower, upper) (parts ++ [(middle, upper)]) := by
  constructor
  case inside =>
    intro part member
    rcases List.mem_append.mp member with isEarlier | isLast
    · exact (tiles.inside part isEarlier).trans ⟨le_rfl, isUp, ordered⟩
    · rw [List.mem_singleton.mp isLast]
      exact ⟨isUp, ordered, le_rfl⟩
  case apart =>
    rw [List.pairwise_append]
    refine ⟨tiles.apart, List.pairwise_singleton _ _, fun part isEarlier last isLast => ?_⟩
    rw [List.mem_singleton.mp isLast]
    exact .inl (tiles.inside part isEarlier).2.2
  case covered =>
    intro place least less
    rcases lt_or_ge place middle with isBelow | isAbove
    · obtain ⟨part, isEarlier, holds⟩ := tiles.covered place least isBelow
      exact ⟨part, List.mem_append_left _ isEarlier, holds⟩
    · exact ⟨(middle, upper), by simp, isAbove, less⟩

/-- What tiles a range tiles it in reverse order. -/
theorem reverse
    {range : Rat × Rat}
    (tiles : Tiles range parts) :
    Tiles range parts.reverse where
  inside := by simpa using tiles.inside
  apart := List.pairwise_reverse.mpr (tiles.apart.imp Or.symm)
  covered := by simpa using tiles.covered

/-- Parts of one width that follow each other upward tile a range. -/
theorem of_steps
    {width : Rat}
    (measured : 0 ≤ width)
    (lower : Rat)
    (count : Nat) :
    Tiles (lower, lower + count * width)
      ((List.range count).map fun number : Nat =>
        (lower + number * width, lower + (number + 1) * width)) := by
  induction count with
  | zero =>
      simpa using nil lower
  | succ count inductionHypothesis =>
      have isUp : 0 ≤ (count : Rat) * width := by positivity
      have ordered : lower + count * width ≤ lower + (count + 1) * width := by
        linarith
      have extended := inductionHypothesis.concat (by linarith) ordered
      simpa [List.range_succ] using extended

end Tiles

namespace Direction

/-- The part of a range that a slot takes, counted from where the direction enters the range. -/
def slot (direction : Direction) (range : Rat × Rat) (width : Rat) (number : Nat) : Rat × Rat :=
  if direction.isReversed then
    (range.2 - ((number : Rat) + 1) * width, range.2 - (number : Rat) * width)
  else (range.1 + (number : Rat) * width, range.1 + ((number : Rat) + 1) * width)

/-- Slots that are as wide together as a range tile it, in whichever direction they follow. -/
theorem tiles_slots
    (direction : Direction)
    {range : Rat × Rat}
    {width : Rat}
    {count : Nat}
    (measured : 0 ≤ width)
    (wide : range.2 - range.1 = count * width) :
    Tiles range ((List.range count).map (direction.slot range width)) := by
  have upward := Tiles.of_steps measured range.1 count
  have reached : range.1 + count * width = range.2 := by linarith
  rw [reached] at upward
  cases isReversed : direction.isReversed with
  | false =>
      have isUpward :
          direction.slot range width =
            fun number : Nat => (range.1 + number * width, range.1 + (number + 1) * width) := by
        funext number
        simp [slot, isReversed]
      rw [isUpward]
      exact upward
  | true =>
      -- Downward the slots are those that go upward, the last one first.
      convert upward.reverse using 1
      apply List.ext_getElem
      · simp
      intro number isSlot _
      rw [List.length_map, List.length_range] at isSlot
      have mirrored : ((count - 1 - number : Nat) : Rat) = (count : Rat) - 1 - number := by
        rw [Nat.cast_sub (by omega), Nat.cast_sub (by omega), Nat.cast_one]
      simp only [List.getElem_map, List.getElem_reverse, List.getElem_range, List.length_map,
        List.length_range, slot, isReversed, if_true, mirrored, ← reached]
      ext <;> simp only <;> ring

/-- The middle of a slot. -/
def slotLine (direction : Direction) (range : Rat × Rat) (width : Rat) (number : Nat) : Rat :=
  let step := ((number : Rat) + 1 / 2) * width
  if direction.isReversed then range.2 - step else range.1 + step

/-- A slot reaches half of its width to both sides of its line. -/
theorem slot_eq
    (direction : Direction)
    (range : Rat × Rat)
    (width : Rat)
    (number : Nat) :
    direction.slot range width number =
      (direction.slotLine range width number - width / 2,
        direction.slotLine range width number + width / 2) := by
  rw [slot, slotLine]
  split <;> ext <;> simp only <;> ring

/-- The middles of two slots are at least the width of a slot apart. -/
theorem le_abs_slotLine_sub
    (direction : Direction)
    (range : Rat × Rat)
    {width : Rat}
    {first second : Nat}
    (measured : 0 ≤ width)
    (different : first ≠ second) :
    width ≤ |direction.slotLine range width first - direction.slotLine range width second| := by
  have apart : (1 : Rat) ≤ |(first : Rat) - second| := by
    have steps := Int.one_le_abs (sub_ne_zero.mpr (Int.ofNat_inj.not.mpr different))
    exact_mod_cast steps
  have distance :
      |direction.slotLine range width first - direction.slotLine range width second| =
        |(first : Rat) - second| * width := by
    rw [← abs_of_nonneg measured, ← abs_mul, abs_of_nonneg measured, slotLine, slotLine]
    split
    · rw [← abs_neg]
      congr 1
      ring
    · congr 1
      ring
  rw [distance]
  exact le_mul_of_one_le_left measured apart

end Direction

/-! ## The lanes of a road in its place -/

namespace LaneLayout

/-- The line of a lane is that of its slot. -/
theorem line_eq_slotLine
    (laneWidth : Rat)
    (area : Bounds Rat)
    (side : Direction)
    (lane : Nat)
    (link : Option LinkId) :
    (within laneWidth area side lane link).line =
      side.slotLine (area.range side.axis) laneWidth lane := by
  simp [within, Direction.slotLine]

/-- A lane takes the slot of its number. -/
theorem range_eq_slot
    (laneWidth : Rat)
    (area : Bounds Rat)
    (side : Direction)
    (lane : Nat)
    (link : Option LinkId) :
    (within laneWidth area side lane link).bounds.range side.axis =
      side.slot (area.range side.axis) laneWidth lane := by
  rw [Direction.slot_eq, ← line_eq_slotLine laneWidth area side lane link]
  exact Bounds.range_ofRanges _ _ _

end LaneLayout

namespace RoadLayout

/--
A road shows lanes that follow each other in a direction: they tile its band, reach along
all of it, and the line in the middle of each is one lane width further than the last one.
-/
structure ShowsLanes
    (band : RoadLayout Rat)
    (lanes : RoadLanes)
    (laneWidth : Rat)
    (direction : Direction) : Prop where
  fixedAxis_eq : band.fixedAxis = direction.axis
  links_eq : band.lanes.map (·.link) = lanes.toList
  numbers_eq : band.lanes.map (·.lane) = List.range lanes.count
  tiles :
    Tiles (band.bounds.range direction.axis) (band.lanes.map (·.bounds.range direction.axis))
  alongside :
    ∀ lane ∈ band.lanes,
      lane.bounds.range direction.axis.other = band.bounds.range direction.axis.other
  middle :
    ∀ lane ∈ band.lanes,
      lane.bounds.range direction.axis = (lane.line - laneWidth / 2, lane.line + laneWidth / 2)
  advances :
    (band.lanes.map (·.line)).IsChain fun line next =>
      next = if direction.isReversed then line - laneWidth else line + laneWidth

variable {laneWidth : Rat} {frame : Compass} {road : Road} {lanes : RoadLanes} {area : Bounds Rat}

/-- What depends on the numbers of the lanes only is told by their count. -/
theorem map_lanes_within
    {β : Type}
    {ofLane : LaneLayout Rat → β}
    {ofNumber : Nat → β}
    (same :
      ∀ lane link,
        ofLane (.within laneWidth area (frame.axisDirection road.axis) lane link) =
          ofNumber lane) :
    (within laneWidth frame road lanes area).lanes.map ofLane =
      (List.range lanes.count).map ofNumber := by
  rw [within, List.map_map, ← RoadLanes.length_toList]
  exact RoadMap.map_zipIdx_eq_map_range fun link lane => same lane link

/-- A road that is as wide as its lanes shows all of them. -/
theorem showsLanes_within
    (measured : 0 ≤ laneWidth)
    (wide : area.extent (frame.axisDirection road.axis).axis = lanes.width laneWidth) :
    (within laneWidth frame road lanes area).ShowsLanes lanes laneWidth
      (frame.axisDirection road.axis) := by
  constructor
  case fixedAxis_eq =>
    rfl
  case links_eq =>
    rw [within, List.map_map]
    exact List.zipIdx_map_fst 0 lanes.toList
  case numbers_eq =>
    exact (map_lanes_within fun _ _ => rfl).trans (List.map_id _)
  case tiles =>
    rw [map_lanes_within (LaneLayout.range_eq_slot laneWidth area _)]
    exact Direction.tiles_slots _ measured wide
  case alongside =>
    intro lane member
    obtain ⟨entry, _, rfl⟩ := List.mem_map.mp member
    exact Bounds.range_other_ofRanges _ _ _
  case middle =>
    intro lane member
    obtain ⟨entry, _, rfl⟩ := List.mem_map.mp member
    exact Bounds.range_ofRanges _ _ _
  case advances =>
    rw [map_lanes_within (LaneLayout.line_eq_slotLine laneWidth area _), List.isChain_map,
      List.isChain_range]
    intro lane _
    rw [Direction.slotLine, Direction.slotLine, Nat.cast_succ]
    split <;> ring

/-- Each lane lies in its road with its link. -/
theorem getElem?_lanes_within
    (laneWidth : Rat)
    (frame : Compass)
    (road : Road)
    (area : Bounds Rat)
    {lane : Nat}
    {link : Option LinkId}
    (isLink : lanes.toList[lane]? = some link) :
    (within laneWidth frame road lanes area).lanes[lane]? =
      some (.within laneWidth area (frame.axisDirection road.axis) lane link) := by
  simp [within, isLink]

end RoadLayout

/-! ## Where the lanes of a road come from -/

/-- A road in its place has the lanes of a table, and is as wide as these are together. -/
structure RoadLayout.Carries
    (band : RoadLayout Rat)
    (input : LayoutInput Rat)
    (container : Node Rat)
    (lanes : RoadLanes) : Prop where
  found : input.diagram.graph.get? band.road.container = some container
  isListed : input.table.get? band.road = some lanes
  band_eq :
    band =
      .within input.diagram.document.laneWidth container.itemFrame band.road lanes band.bounds
  extent_eq :
    band.bounds.extent (container.itemFrame.axisDirection band.road.axis).axis =
      lanes.width input.diagram.document.laneWidth

theorem RoadLayout.laneLine_of_getElem?
    {band : RoadLayout Rat}
    {number : Nat}
    {lane : LaneLayout Rat}
    (isLane : band.lanes[number]? = some lane) :
    band.laneLine (some number) = lane.line := by
  simp [laneLine, isLane]

namespace RoadLayout.Carries

variable
  {band : RoadLayout Rat}
  {input : LayoutInput Rat}
  {container : Node Rat}
  {lanes : RoadLanes}

/-- A band that carries lanes shows them. -/
theorem showsLanes
    (carries : band.Carries input container lanes)
    (measured : 0 ≤ input.diagram.document.laneWidth) :
    band.ShowsLanes lanes input.diagram.document.laneWidth
      (container.itemFrame.axisDirection band.road.axis) := by
  have shows := showsLanes_within measured carries.extent_eq
  rwa [← carries.band_eq] at shows

/-- A band fixes the coordinate of its road. -/
theorem fixedAxis_eq
    (carries : band.Carries input container lanes) :
    input.diagram.graph.fixedAxis band.road = .ok band.fixedAxis := by
  have sameAxis : band.fixedAxis = (container.itemFrame.axisDirection band.road.axis).axis :=
    congrArg RoadLayout.fixedAxis carries.band_eq
  rw [sameAxis, Graph.fixedAxis, Graph.find_eq_ok_iff.mpr carries.found]
  rfl

/-- The lane of a link has its place on the road. -/
theorem getElem?_lanes
    (carries : band.Carries input container lanes)
    {link : LinkId}
    {number : Nat}
    (isLane : lanes.IsLaneOf link number) :
    band.lanes[number]? =
      some (.within input.diagram.document.laneWidth band.bounds
        (container.itemFrame.axisDirection band.road.axis) number (some link)) := by
  have isPlaced :=
    getElem?_lanes_within input.diagram.document.laneWidth container.itemFrame band.road
      band.bounds isLane.isTaken
  rwa [← carries.band_eq] at isPlaced

/-- The lanes of different links on a road are at least one lane width apart. -/
theorem le_abs_laneLine_sub
    (carries : band.Carries input container lanes)
    (measured : 0 ≤ input.diagram.document.laneWidth)
    {first second : LinkId}
    {number other : Nat}
    (isFirst : lanes.IsLaneOf first number)
    (isSecond : lanes.IsLaneOf second other)
    (different : first ≠ second) :
    input.diagram.document.laneWidth ≤
      |band.laneLine (some number) - band.laneLine (some other)| := by
  have apart : number ≠ other := by
    rintro rfl
    have same := isFirst.isTaken
    rw [isSecond.isTaken] at same
    exact different (Option.some.inj (Option.some.inj same)).symm
  rw [laneLine_of_getElem? (carries.getElem?_lanes isFirst),
    laneLine_of_getElem? (carries.getElem?_lanes isSecond), LaneLayout.line_eq_slotLine,
    LaneLayout.line_eq_slotLine]
  exact Direction.le_abs_slotLine_sub _ _ measured apart

end RoadLayout.Carries

namespace LayoutInput

variable {α : Type} {input : LayoutInput α} {node : Node α} {roads : OwnRoads}

/-- Lanes are found exactly if the table has them. -/
theorem lanes_eq_ok_iff
    {road : Road}
    {lanes : RoadLanes} :
    input.lanes road = .ok lanes ↔ input.table.get? road = some lanes := by
  rw [LayoutInput.lanes]
  cases input.table.get? road <;> simp

/-- The roads of a container have the lanes of the table. -/
theorem get?_of_places
    (succeeded : input.ownRoads node = .ok roads)
    {arrangement : Arrangement α}
    {road : Road}
    {lanes : RoadLanes}
    {area : Bounds α}
    (places : roads.Places node.id arrangement road lanes area) :
    input.table.get? road = some lanes := by
  obtain ⟨gaps, gapsFound, succeeded⟩ := Attempt.bind_eq_ok_iff.mp succeeded
  obtain ⟨startEdge, startFound, succeeded⟩ := Attempt.bind_eq_ok_iff.mp succeeded
  obtain ⟨endEdge, endFound, same⟩ := Attempt.bind_eq_ok_iff.mp succeeded
  cases same
  cases places with
  | @gap avenue _ _ isLanes _ =>
      have inside := (List.getElem?_eq_some_iff.mp isLanes).1
      rw [Attempt.length_of_mapM gapsFound, List.length_range] at inside
      exact lanes_eq_ok_iff.mp
        (Attempt.step_of_mapM gapsFound (List.getElem?_range inside) isLanes)
  | startEdge =>
      exact lanes_eq_ok_iff.mp startFound
  | endEdge =>
      exact lanes_eq_ok_iff.mp endFound

end LayoutInput

namespace SizedBox

variable {input : LayoutInput Rat} {limit levels : Nat}

/-- The places of the roads of a container are as wide as their lanes. -/
theorem extent_of_places
    {laneWidth : Rat}
    {node : Node Rat}
    {roads : OwnRoads}
    {children : List (SizedBox Rat)}
    {body : Bounds Rat}
    (enoughGaps : children.length ≤ roads.gaps.length)
    {road : Road}
    {lanes : RoadLanes}
    {area : Bounds Rat}
    (places :
      roads.Places node.id (arrangement laneWidth node roads children body) road lanes area) :
    area.extent (node.itemFrame.axisDirection road.axis).axis = lanes.width laneWidth := by
  obtain ⟨startWide, endWide⟩ :=
    Body.extent_edges ⟨body, node.itemFrame⟩ (roads.gaps.map (·.width laneWidth))
      (roads.startEdge.width laneWidth) (roads.endEdge.width laneWidth) (children.map (item node))
  cases places with
  | gap isLanes isArea =>
      have isWidth := Body.extent_gap (by simpa using enoughGaps) isArea
      rw [List.getElem?_map, isLanes] at isWidth
      exact (Option.some.inj isWidth).symm
  | startEdge =>
      exact startWide
  | endEdge =>
      exact endWide

/-- What is placed of several boxes is placed of one of them. -/
theorem exists_of_mem_placeAll
    {laneWidth : Rat}
    {boxes : List (SizedBox Rat)}
    {bounds : List (Bounds Rat)}
    {band : RoadLayout Rat}
    (member : band ∈ (placeAll laneWidth boxes bounds).roads) :
    ∃ box ∈ boxes, ∃ outer, band ∈ (box.place laneWidth outer).roads := by
  induction boxes generalizing bounds with
  | nil =>
      cases member
  | cons box rest inductionHypothesis =>
      cases bounds with
      | nil =>
          cases member
      | cons outer others =>
          rcases List.mem_append.mp member with isFirst | isLater
          · exact ⟨box, List.mem_cons_self, outer, isFirst⟩
          · obtain ⟨other, isOther, has⟩ := inductionHypothesis isLater
            exact ⟨other, List.mem_cons_of_mem _ isOther, has⟩

/-- Every road that is placed with a box has its lanes. -/
theorem exists_carries_of_mem_place
    (tree : input.diagram.graph.IsTree)
    {id : NodeId}
    {box : SizedBox Rat}
    (measured : input.measure limit levels id = .ok box)
    {outer : Bounds Rat}
    {band : RoadLayout Rat}
    (member : band ∈ (box.place input.diagram.document.laneWidth outer).roads) :
    ∃ container lanes, band.Carries input container lanes := by
  induction levels generalizing id box outer with
  | zero =>
      cases measured
  | succ levels inductionHypothesis =>
      obtain ⟨node, found, ⟨_, rfl⟩ | ⟨_, children, roads, childrenFound, roadsFound, rfl⟩⟩ :=
        LayoutInput.measure_cases measured
      · cases member
      rcases List.mem_append.mp member with isOwn | isBelow
      · obtain ⟨road, lanes, area, places, rfl⟩ := OwnRoads.exists_places_of_mem_layouts isOwn
        have ofNode : road.container = node.id := by
          cases places <;> rfl
        have enoughGaps : children.length ≤ roads.gaps.length := by
          rw [LayoutInput.length_gaps_of_ownRoads roadsFound, Attempt.length_of_mapM childrenFound]
          exact Nat.le_succ _
        refine ⟨node, lanes, ?_, LayoutInput.get?_of_places roadsFound places, rfl,
          extent_of_places enoughGaps places⟩
        exact ofNode ▸ tree.get?_id found
      · obtain ⟨child, isChild, area, isPlaced⟩ := exists_of_mem_placeAll isBelow
        obtain ⟨childId, _, childMeasured⟩ := Attempt.exists_of_mem_mapM childrenFound isChild
        exact inductionHypothesis childMeasured isPlaced

end SizedBox

/-- Every road of a layout has the lanes of the table. -/
theorem LayoutEngine.exists_carries_of_nested
    {input : LayoutInput Rat}
    {depthLimit : Nat}
    {layout : Layout Rat}
    (tree : input.diagram.graph.IsTree)
    (inOrder : input.diagram.graph.IsInOrder)
    (isOver : input.table.lanes.IsOver input.diagram.graph)
    (succeeded : nested depthLimit input = .ok layout)
    {band : RoadLayout Rat}
    (member : band ∈ layout.roads) :
    ∃ container lanes, band.Carries input container lanes := by
  obtain ⟨root, _, measured, _, _, _, roadsEq, _⟩ := of_nested tree inOrder isOver succeeded
  rw [roadsEq] at member
  exact SizedBox.exists_carries_of_mem_place tree measured member

end BoxDiagram
