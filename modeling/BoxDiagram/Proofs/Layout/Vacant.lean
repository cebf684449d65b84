import BoxDiagram.Proofs.Attempt
import BoxDiagram.Proofs.Road.Map
import BoxDiagram.Layout.Engine

namespace BoxDiagram

open Attempt (Agree)

/-!
# Boxes and roads without links

The sizes and places of boxes and roads depend on the links through the number of
lanes of each road only.  So they are the same for lanes that are all empty.
-/

variable {α : Type}

/-- The same lanes, all of them empty. -/
def RoadLanes.vacant (lanes : RoadLanes) : RoadLanes where
  links := []
  spare := lanes.count

/-- The same road with all lanes empty. -/
def RoadLayout.vacant (road : RoadLayout α) : RoadLayout α :=
  { road with lanes := road.lanes.map fun lane => { lane with link := none } }

/-- The same placement with all lanes empty. -/
def Placement.vacant (placement : Placement α) : Placement α where
  nodes := placement.nodes
  roads := placement.roads.map (·.vacant)

/-- The same roads with all lanes empty. -/
def OwnRoads.vacant (roads : OwnRoads) : OwnRoads where
  gaps := roads.gaps.map (·.vacant)
  startEdge := roads.startEdge.vacant
  endEdge := roads.endEdge.vacant

mutual

/-- The same box with all lanes inside it empty. -/
def SizedBox.vacant : SizedBox α → SizedBox α
  | .cell node label outer => .cell node label outer
  | .container node label outer roads children =>
      .container node label outer roads.vacant (SizedBox.vacantAll children)

/-- The same boxes with all lanes inside them empty. -/
def SizedBox.vacantAll : List (SizedBox α) → List (SizedBox α)
  | [] => []
  | box :: rest => box.vacant :: SizedBox.vacantAll rest

end

/-- Without links, lanes differ in their number only. -/
theorem RoadLanes.vacant_eq_of_count
    {lanes others : RoadLanes}
    (same : others.count = lanes.count) :
    others.vacant = lanes.vacant := by
  rw [vacant, vacant, same]

/-- Without links there are as many lanes. -/
@[simp] theorem RoadLanes.count_vacant
    (lanes : RoadLanes) :
    lanes.vacant.count = lanes.count := by
  simp [vacant, count]

theorem RoadLanes.toList_vacant
    (lanes : RoadLanes) :
    lanes.vacant.toList = lanes.toList.map fun _ => none := by
  rw [List.map_const', length_toList]
  simp [vacant, toList]

theorem Placement.vacant_append
    (first second : Placement α) :
    (first.append second).vacant = first.vacant.append second.vacant := by
  simp [vacant, append]

namespace SizedBox

@[simp] theorem node_vacant
    (box : SizedBox α) :
    box.vacant.node = box.node := by
  cases box <;> simp [vacant, node]

@[simp] theorem outer_vacant
    (box : SizedBox α) :
    box.vacant.outer = box.outer := by
  cases box <;> simp [vacant, outer]

theorem vacantAll_eq_map
    (boxes : List (SizedBox α)) :
    vacantAll boxes = boxes.map (·.vacant) := by
  induction boxes with
  | nil =>
      rw [vacantAll, List.map_nil]
  | cons box rest inductionHypothesis =>
      rw [vacantAll, List.map_cons, inductionHypothesis]

end SizedBox

section Sizes

variable [Scalar α] {input other : LayoutInput α}

/-- Two inputs leave the same room: they agree but for the links, and in the number of lanes. -/
structure LayoutInput.SameRoom (input other : LayoutInput α) : Prop where
  graph_eq : other.diagram.graph = input.diagram.graph
  document_eq : other.diagram.document = input.diagram.document
  labels_eq : other.labels = input.labels
  count_eq :
    ∀ road, (other.table.get? road).map (·.count) = (input.table.get? road).map (·.count)

/-- Without links a road is as wide. -/
@[simp] theorem RoadLanes.width_vacant
    (laneWidth : α)
    (lanes : RoadLanes) :
    lanes.vacant.width laneWidth = lanes.width laneWidth := by
  rw [width, width, count_vacant]

@[simp] theorem OwnRoads.gapWidths_vacant
    (laneWidth : α)
    (roads : OwnRoads) :
    roads.vacant.gaps.map (·.width laneWidth) = roads.gaps.map (·.width laneWidth) := by
  simp [vacant, Function.comp_def]

/-- A container with its lanes emptied before or after it gets its size. -/
theorem LayoutInput.vacant_sizedContainer
    (input : LayoutInput α)
    (node : Node α)
    (roads : OwnRoads)
    (children : List (SizedBox α)) :
    (input.sizedContainer node roads children).vacant =
      input.sizedContainer node roads.vacant (children.map (·.vacant)) := by
  have outers : (children.map (·.vacant)).map (·.outer) = children.map (·.outer) := by
    simp [Function.comp_def]
  rw [sizedContainer, sizedContainer, SizedBox.vacant, SizedBox.vacantAll_eq_map, outers]
  simp only [bodySize, OwnRoads.gapWidths_vacant]
  simp [OwnRoads.vacant]

namespace LayoutInput.SameRoom

omit [Scalar α] in
/-- Tables with the same room give the same lanes, but for their links. -/
theorem lanes_agree
    (same : input.SameRoom other)
    (road : Road) :
    Agree (fun lanes others => others.vacant = lanes.vacant)
      (input.lanes road) (other.lanes road) := by
  have count := same.count_eq road
  rw [lanes, lanes]
  cases found : input.table.get? road with
  | none =>
      rw [found, Option.map_none, Option.map_eq_none_iff] at count
      rw [count]
      exact .error _ _
  | some own =>
      rw [found, Option.map_some] at count
      obtain ⟨others, othersFound, sameCount⟩ := Option.map_eq_some_iff.mp count
      rw [othersFound]
      exact .ok (RoadLanes.vacant_eq_of_count sameCount)

omit [Scalar α] in
/-- Tables with the same room give a container the same roads, but for their links. -/
theorem ownRoads_agree
    (same : input.SameRoom other)
    (node : Node α) :
    Agree (fun roads others => others.vacant = roads.vacant)
      (input.ownRoads node) (other.ownRoads node) := by
  refine .bind (.mapM fun avenue _ => same.lanes_agree (.main node.id avenue)) ?_
  intro gaps otherGaps sameGaps
  refine .bind (same.lanes_agree (.cross node.id 0)) fun first otherFirst sameFirst => ?_
  refine .bind (same.lanes_agree (.cross node.id 1)) fun last otherLast sameLast => ?_
  refine .ok ?_
  have gapsEq : otherGaps.map (·.vacant) = gaps.map (·.vacant) := by
    induction sameGaps with
    | nil => rfl
    | cons isSame _ inductionHypothesis => simp [isSame, inductionHypothesis]
  simp only [OwnRoads.vacant, gapsEq, sameFirst, sameLast]

/-- Boxes get the same sizes from inputs that leave the same room. -/
theorem measure_agree
    (same : input.SameRoom other)
    (limit levels : Nat)
    (id : NodeId) :
    Agree (fun box found => found.vacant = box.vacant)
      (input.measure limit levels id) (other.measure limit levels id) := by
  induction levels generalizing id with
  | zero =>
      exact .error _ _
  | succ levels inductionHypothesis =>
      rw [measure, measure, same.graph_eq]
      refine .bindSame fun node => ?_
      have label (id : NodeId) : other.label? id = input.label? id := by
        rw [label?, label?, same.labels_eq]
      split
      · refine .bind (.mapM fun child _ => inductionHypothesis child) ?_
        intro children others sameChildren
        refine .bind (same.ownRoads_agree node) fun roads otherRoads sameRoads => .ok ?_
        have childrenEq : others.map (·.vacant) = children.map (·.vacant) := by
          induction sameChildren with
          | nil => rfl
          | cons isSame _ inductionHypothesis => simp [isSame, inductionHypothesis]
        rw [vacant_sizedContainer, vacant_sizedContainer, sameRoads, childrenEq]
        simp only [sizedContainer, label, same.document_eq]
      · refine .ok ?_
        rw [sizedCell, sizedCell, label]

end LayoutInput.SameRoom

end Sizes

section Places

variable [Scalar α]

/-- A road is placed alike with and without links. -/
theorem RoadLayout.vacant_within
    (laneWidth : α)
    (frame : Compass)
    (road : Road)
    (lanes : RoadLanes)
    (bounds : Bounds α) :
    (within laneWidth frame road lanes bounds).vacant =
      within laneWidth frame road lanes.vacant bounds := by
  rw [within, within, vacant, RoadLanes.toList_vacant, List.zipIdx_map]
  simp only [List.map_map]
  rfl

/-- The roads of a container are placed alike with and without links. -/
theorem OwnRoads.vacant_layouts
    (roads : OwnRoads)
    (laneWidth : α)
    (node : Node α)
    (arrangement : Arrangement α) :
    (roads.layouts laneWidth node arrangement).map (·.vacant) =
      roads.vacant.layouts laneWidth node arrangement := by
  simp [layouts, vacant, List.zip_map_left, List.zipIdx_map, RoadLayout.vacant_within,
    Function.comp_def]

namespace SizedBox

omit [Scalar α] in
theorem item_vacant
    (parent : Node α)
    (box : SizedBox α) :
    box.vacant.item parent = box.item parent := by
  rw [item, item, node_vacant, outer_vacant]

/-- A container is arranged alike with and without links. -/
theorem arrangement_vacant
    (laneWidth : α)
    (node : Node α)
    (roads : OwnRoads)
    (children : List (SizedBox α))
    (body : Bounds α) :
    arrangement laneWidth node roads.vacant (vacantAll children) body =
      arrangement laneWidth node roads children body := by
  simp only [arrangement, OwnRoads.gapWidths_vacant, vacantAll_eq_map, List.map_map,
    Function.comp_def, item_vacant]
  simp [OwnRoads.vacant]

mutual

/-- Boxes and roads lie at the same places whether or not lanes are empty. -/
theorem vacant_place
    (laneWidth : α) :
    ∀ (box : SizedBox α) (outer : Bounds α),
      (box.place laneWidth outer).vacant = box.vacant.place laneWidth outer
  | .cell node label outer, _ => by
      simp [place, vacant, Placement.vacant]
  | .container node label _ roads children, outer => by
      rw [vacant, place, place, Placement.vacant_append, arrangement_vacant,
        vacant_placeAll laneWidth children]
      simp [Placement.vacant, OwnRoads.vacant_layouts]

/-- Boxes are placed alike with and without links. -/
theorem vacant_placeAll
    (laneWidth : α) :
    ∀ (boxes : List (SizedBox α)) (bounds : List (Bounds α)),
      (placeAll laneWidth boxes bounds).vacant = placeAll laneWidth (vacantAll boxes) bounds
  | [], _ => by
      simp [vacantAll, placeAll, Placement.vacant, Placement.empty]
  | _ :: _, [] => by
      simp [vacantAll, placeAll, Placement.vacant, Placement.empty]
  | box :: boxes, outer :: bounds => by
      rw [vacantAll, placeAll, placeAll, Placement.vacant_append, vacant_place laneWidth box,
        vacant_placeAll laneWidth boxes]

end

end SizedBox

end Places

end BoxDiagram
