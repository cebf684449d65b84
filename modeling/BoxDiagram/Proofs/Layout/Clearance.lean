import BoxDiagram.Proofs.Layout.OnSide
import BoxDiagram.Proofs.Layout.Passing
import BoxDiagram.Proofs.Layout.Polyline
import BoxDiagram.Proofs.Route.Walk

namespace BoxDiagram

/-!
# Lines clear of boxes

A link runs along the lanes of its route.  On each lane it stays within the container of
the road, where no child lies on the lane, and it turns only where it has not yet reached
a box beside this container or beside one around it.  So its line gets into no box but
those around its ends.
-/

theorem exists_head?_of_forall₂
    {β γ : Type}
    {related : β → γ → Prop}
    {firsts : List β}
    {seconds : List γ}
    {first : β}
    (paired : List.Forall₂ related firsts seconds)
    (isHead : firsts.head? = some first) :
    ∃ second, seconds.head? = some second ∧ related first second := by
  rw [List.head?_eq_getElem?] at isHead ⊢
  exact exists_getElem?_of_forall₂ paired isHead

theorem exists_getLast?_of_forall₂
    {β γ : Type}
    {related : β → γ → Prop}
    {firsts : List β}
    {seconds : List γ}
    {first : β}
    (paired : List.Forall₂ related firsts seconds)
    (isLast : firsts.getLast? = some first) :
    ∃ second, seconds.getLast? = some second ∧ related first second := by
  rw [← List.head?_reverse] at isLast
  obtain ⟨second, isHead, isRelated⟩ :=
    exists_head?_of_forall₂ (List.forall₂_reverse_iff.mpr paired) isLast
  exact ⟨second, List.head?_reverse.symm.trans isHead, isRelated⟩

/-- A change across an axis keeps the coordinate along it. -/
theorem Point.along_withAlong_other
    {α : Type}
    (point : Point α)
    (axis : Axis)
    (value : α) :
    (point.withAlong axis.other value).along axis = point.along axis := by
  cases axis <;> rfl

namespace Polyline

/-- No point of the segment between two points lies in the interior of a rectangle. -/
def StaysOut (area : Bounds Rat) (start finish : Point Rat) : Prop :=
  ∀ point, Point.IsOnSegment start finish point → ¬ area.Surrounds point

/-- No segment between consecutive points of a line gets into the interior of a rectangle. -/
def PassesBy (area : Bounds Rat) (points : List (Point Rat)) : Prop :=
  points.IsChain (StaysOut area)

/-- A line stays out of a rectangle in either direction. -/
theorem StaysOut.symm
    {area : Bounds Rat}
    {start finish : Point Rat}
    (staysOut : StaysOut area start finish) :
    StaysOut area finish start :=
  fun point isOn => staysOut point isOn.symm

end Polyline

open Polyline (StaysOut PassesBy)

namespace Layout

variable {graph : Graph Rat} {layout : Layout Rat}

/-- A coordinate along an axis lies on a road of a container. -/
structure LiesOn
    (layout : Layout Rat)
    (graph : Graph Rat)
    (container : Node Rat)
    (road : Road)
    (line : Axis × Rat) : Prop where
  isRoad : graph.IsRoadOf container road
  axis_eq : line.1 = (container.itemFrame.axisDirection road.axis).axis
  inside :
    ∃ band, layout.HasRoadOf container band ∧ band.road = road ∧
      Bounds.RangeIn (line.2, line.2) (band.bounds.range line.1)

/--
A segment keeps its coordinate along an axis, and neither this one nor the others get into
a box beside a given one or beside a container around it.
-/
structure RunsBeside
    (layout : Layout Rat)
    (graph : Graph Rat)
    (id : NodeId)
    (axis : Axis)
    (start finish : Point Rat) : Prop where
  level : finish.along axis = start.along axis
  fixed : layout.StaysBeside graph id axis (start.along axis)
  fromStart : layout.StaysBeside graph id axis.other (start.along axis.other)
  toFinish : layout.StaysBeside graph id axis.other (finish.along axis.other)

namespace LiesOn

variable {container : Node Rat} {road : Road} {line : Axis × Rat}

/-- A line on a road that a box meets fixes the axis of its direction. -/
theorem of_meets
    {base below holder : Node Rat}
    {direction : Direction}
    {level : Nat}
    (liesOn : layout.LiesOn graph container road line)
    (meets : graph.MeetsRoad base direction level road below holder) :
    container = holder ∧ line.1 = direction.axis := by
  have sameContainer := liesOn.isRoad.found
  rw [meets.isRoadOf.found] at sameContainer
  obtain rfl := Option.some.inj sameContainer
  have sameAxis := meets.fixedAxis_eq
  rw [meets.isRoadOf.fixedAxis_eq, ← liesOn.axis_eq] at sameAxis
  exact ⟨rfl, Except.ok.inj sameAxis⟩

/-- Lines on roads between which a link turns fix different axes. -/
theorem axis_eq_other
    {common : NodeId}
    {next : Road}
    {holder : Node Rat}
    {nextLine : Axis × Rat}
    (liesOn : layout.LiesOn graph container road line)
    (nextOn : layout.LiesOn graph holder next nextLine)
    (turns : graph.Turns common road next) :
    nextLine.1 = line.1.other := by
  obtain ⟨⟨axis, other, isAxis, isOther, differ⟩, _⟩ := turns
  rw [liesOn.isRoad.fixedAxis_eq, ← liesOn.axis_eq] at isAxis
  rw [nextOn.isRoad.fixedAxis_eq, ← nextOn.axis_eq] at isOther
  rw [← Except.ok.inj isAxis, ← Except.ok.inj isOther] at differ
  rcases nextLine.1.eq_or_eq_other line.1 with same | isOtherAxis
  · exact absurd same.symm differ
  · exact isOtherAxis

end LiesOn

namespace IsNestingOf

variable
  {container child sibling base node : Node Rat}
  {id : NodeId}
  {shown : NodeLayout Rat}
  {axis : Axis}
  {start finish : Point Rat}
  (nesting : layout.IsNestingOf graph)
include nesting

/-- A segment that runs beside a box stays out of every box that lies apart from it. -/
theorem staysOut_of_apart
    (runs : layout.RunsBeside graph base.id axis start finish)
    (areSiblings : graph.AreSiblings container child sibling)
    (aroundBase : graph.AtOrAbove child.id base.id)
    (aroundBox : graph.AtOrAbove sibling.id id)
    (found : graph.get? id = some node)
    (isShown : layout.node? id = some shown) :
    StaysOut shown.visible start finish := by
  intro point isOn surrounds
  obtain ⟨inner, _, innerShown, _⟩ := nesting.nests areSiblings.childFound
  obtain ⟨other, _, otherShown, _⟩ := nesting.nests areSiblings.siblingFound
  have isInside : shown.visible.IsInside other.bounds :=
    (nesting.visible_inside found isShown).trans
      (nesting.inside_of_atOrAbove found aroundBox otherShown isShown).1
  have isAmid := fun axis => Bounds.IsAmid.mono (surrounds axis) (isInside.rangeIn axis)
  rcases container.itemFrame.main.axis.eq_or_eq_other axis with isFixed | isMoving
  · have stops := runs.fixed.stops areSiblings aroundBase isFixed innerShown otherShown
    rw [← isOn.along_eq runs.level] at stops
    exact stops.not_isAmid (isAmid axis)
  · have startStops := runs.fromStart.stops areSiblings aroundBase isMoving innerShown otherShown
    have finishStops := runs.toFinish.stops areSiblings aroundBase isMoving innerShown otherShown
    have ordered := nesting.visible_inside areSiblings.childFound innerShown
    exact Bounds.StopsShort.not_isAmid_of_mem_uIcc (ordered.outer_self axis.other).2.1
      startStops finishStops (isOn.mem_uIcc axis.other) (isAmid axis.other)

/-- The line of a lane lies on the road of its passage. -/
theorem liesOn_of_hasLine
    {passage : Passage}
    {line : Axis × Rat}
    (isRoad : graph.IsRoadOf container passage.road)
    (hasLine : layout.HasLine passage line) :
    layout.LiesOn graph container passage.road line := by
  obtain ⟨band, member, sameRoad, rfl⟩ := hasLine
  have isBand : layout.HasRoadOf container band := by
    refine ⟨member, ?_⟩
    rw [sameRoad, nesting.tree.id_of_get? isRoad.found]
  have keeps := (nesting.flows isRoad.found).lanes isBand
  rw [sameRoad] at keeps
  refine ⟨isRoad, keeps.fixedAxis_eq, band, isBand, sameRoad, ?_⟩
  rw [keeps.fixedAxis_eq]
  exact keeps.inside passage.lane

/-- A line on a road gets into nothing beside a box around the road. -/
theorem staysBeside_of_liesOn
    {road : Road}
    {line : Axis × Rat}
    (liesOn : layout.LiesOn graph container road line)
    (found : graph.get? base.id = some base)
    (above : graph.AtOrAbove base.id container.id) :
    layout.StaysBeside graph base.id line.1 line.2 := by
  obtain ⟨band, isBand, _, inside⟩ := liesOn.inside
  have containerFound := nesting.tree.get?_id liesOn.isRoad.found
  obtain ⟨outer, _, outerShown, _⟩ := nesting.nests containerFound
  obtain ⟨shown, _, isShown, _⟩ := nesting.nests found
  have isInside :=
    (nesting.inside_of_hasRoadOf containerFound isBand outerShown).trans
      (nesting.inside_of_atOrAbove containerFound above isShown outerShown).1
  exact nesting.staysBeside_of_rangeIn found isShown (inside.trans (isInside.rangeIn line.1))

/-- No child of a container lies on a line on one of its roads. -/
theorem not_isAmid_of_liesOn
    {road : Road}
    {line : Axis × Rat}
    {inner : NodeLayout Rat}
    (liesOn : layout.LiesOn graph container road line)
    (holds : container.Holds child)
    (childFound : graph.get? child.id = some child)
    (innerShown : layout.node? child.id = some inner) :
    ¬ Bounds.IsAmid line.2 (inner.bounds.range line.1) := by
  obtain ⟨isRoad, isAxis, band, isBand, rfl, inside⟩ := liesOn
  have flows := nesting.flows isRoad.found
  have isChild : layout.HasChildAt container child.index inner :=
    ⟨child.id, holds.listed, innerShown⟩
  have isInner := (nesting.visible_inside childFound innerShown).outer_self.rangeIn line.1
  have avenue := isRoad.avenue
  rw [isAxis] at inside isInner ⊢
  cases axis : band.road.axis with
  | main =>
      rw [axis] at inside isInner
      rcases Nat.lt_or_ge child.index band.road.avenue with isBehind | isBefore
      · exact Direction.Orders.not_isAmid_of_after
          (Direction.Orders.mono (flows.gapBehind isBehind isBand axis isChild) isInner inside)
      · exact Direction.Orders.not_isAmid
          (Direction.Orders.mono (flows.gapBefore isBefore isBand axis isChild) inside isInner)
  | cross =>
      rw [axis] at inside isInner avenue
      change band.road.avenue < 2 at avenue
      obtain isStart | isEnd : band.road.avenue = 0 ∨ band.road.avenue = 1 := by omega
      · exact Direction.Orders.not_isAmid
          (Direction.Orders.mono (flows.startEdge isStart isBand axis isChild) inside isInner)
      · exact Direction.Orders.not_isAmid_of_after
          (Direction.Orders.mono (flows.endEdge isEnd isBand axis isChild) isInner inside)

/-- A segment along a road stays out of every box that does not lie around the road. -/
theorem staysOut_on_road
    {road : Road}
    {line : Axis × Rat}
    (liesOn : layout.LiesOn graph container road line)
    (startOn : start.along line.1 = line.2)
    (finishOn : finish.along line.1 = line.2)
    (fromStart : layout.StaysBeside graph road.container line.1.other (start.along line.1.other))
    (toFinish : layout.StaysBeside graph road.container line.1.other (finish.along line.1.other))
    (found : graph.get? id = some node)
    (isShown : layout.node? id = some shown)
    (notAround : ¬ graph.AtOrAbove id road.container) :
    StaysOut shown.visible start finish := by
  have containerFound := nesting.tree.get?_id liesOn.isRoad.found
  rw [← nesting.tree.id_of_get? liesOn.isRoad.found] at fromStart toFinish notAround
  have fixed := nesting.staysBeside_of_liesOn liesOn containerFound .refl
  rw [← startOn] at fixed
  have runs : layout.RunsBeside graph container.id line.1 start finish :=
    ⟨finishOn.trans startOn.symm, fixed, fromStart, toFinish⟩
  rcases nesting.tree.related_or_apart containerFound found with
    inside | around | ⟨_, _, _, areSiblings, aroundBase, aroundBox⟩
  · rcases inside.eq_or_above with rfl | above
    · exact absurd .refl notAround
    · obtain ⟨child, childFound, holds, aroundBox⟩ :=
        nesting.tree.exists_child_of_above containerFound above
      obtain ⟨inner, _, innerShown, _⟩ := nesting.nests childFound
      have isInside := (nesting.visible_inside found isShown).trans
        (nesting.inside_of_atOrAbove found aroundBox innerShown isShown).1
      intro point isOn surrounds
      have isAmid := Bounds.IsAmid.mono (surrounds line.1) (isInside.rangeIn line.1)
      rw [isOn.along_eq runs.level, startOn] at isAmid
      exact nesting.not_isAmid_of_liesOn liesOn holds childFound innerShown isAmid
  · exact absurd around.atOrAbove notAround
  · exact nesting.staysOut_of_apart runs areSiblings aroundBase aroundBox found isShown

/-- A segment that leaves a box at one of its sides stays out of every box not around it. -/
theorem staysOut_at_side
    {outer : NodeLayout Rat}
    (side : Direction)
    (baseFound : graph.get? base.id = some base)
    (baseShown : layout.node? base.id = some outer)
    (runs : layout.RunsBeside graph base.id side.axis.other start finish)
    (onSide :
      side.Orders (outer.visible.range side.axis) (start.along side.axis, start.along side.axis))
    (leaves :
      side.Orders (outer.visible.range side.axis) (finish.along side.axis, finish.along side.axis))
    (found : graph.get? id = some node)
    (isShown : layout.node? id = some shown)
    (notAround : ¬ graph.Above id base.id) :
    StaysOut shown.visible start finish := by
  rcases nesting.tree.related_or_apart baseFound found with
    inside | around | ⟨_, _, _, areSiblings, aroundBase, aroundBox⟩
  · have isInside := (nesting.inside_of_atOrAbove found inside baseShown isShown).2
    intro point isOn surrounds
    have isAmid := Bounds.IsAmid.mono (surrounds side.axis) (isInside.rangeIn side.axis)
    exact Direction.Orders.not_isAmid_of_mem_uIcc onSide leaves (isOn.mem_uIcc side.axis) isAmid
  · exact absurd around notAround
  · exact nesting.staysOut_of_apart runs areSiblings aroundBase aroundBox found isShown

/-- The line on a road that a box reaches gets into nothing beside it. -/
theorem staysBeside_of_exitRoads
    {direction : Direction}
    {ceiling : Nat}
    {exits : List (Nat × Road)}
    {road : Road}
    {line : Axis × Rat}
    (found : graph.get? base.id = some base)
    (listed : graph.exitRoads base.id direction ceiling = .ok exits)
    (member : road ∈ exits.map (·.2))
    (liesOn : layout.LiesOn graph container road line) :
    line.1 = direction.axis ∧ graph.Above container.id base.id ∧
      layout.StaysBeside graph base.id line.1 line.2 ∧
        ∀ shown, layout.node? base.id = some shown →
          direction.Orders (shown.bounds.range direction.axis) (line.2, line.2) := by
  obtain ⟨⟨number, _⟩, isExit, rfl⟩ := List.mem_map.mp member
  obtain ⟨level, below, holder, _, passes, _, meets⟩ :=
    (nesting.tree.mem_exitRoads_iff found listed).mp isExit
  obtain ⟨rfl, sameAxis⟩ := liesOn.of_meets meets
  obtain ⟨band, isBand, isRoad, inside⟩ := liesOn.inside
  rw [sameAxis] at inside ⊢
  refine ⟨rfl, ?_, nesting.staysBeside_of_meets found meets passes isBand isRoad inside, ?_⟩
  · rw [nesting.tree.above_iff found]
    exact meets.isOuter_container.mem_ancestors
  · intro shown isShown
    exact nesting.orders_of_meets meets isBand isRoad inside found
      (meets.isOuter.atOrAbove nesting.tree found) isShown

/-- Where a link turns into a road, it has not got into a box beside the other road. -/
theorem staysBeside_of_turns
    {common : NodeId}
    {road next : Road}
    {holder : Node Rat}
    {line nextLine : Axis × Rat}
    (turns : graph.Turns common road next)
    (liesOn : layout.LiesOn graph container road line)
    (nextOn : layout.LiesOn graph holder next nextLine) :
    layout.StaysBeside graph road.container nextLine.1 nextLine.2 := by
  have found := nesting.tree.get?_id liesOn.isRoad.found
  have sameId := nesting.tree.id_of_get? liesOn.isRoad.found
  have sameHolder := nesting.tree.id_of_get? nextOn.isRoad.found
  obtain ⟨_, sameContainer | outward | inward⟩ := turns
  · rw [← sameId]
    apply nesting.staysBeside_of_liesOn nextOn found
    rw [sameId, sameHolder, sameContainer]
    exact .refl
  · obtain ⟨_, direction, ceiling, exits, _, _, _, listed, member⟩ := outward
    rw [← sameId] at listed ⊢
    exact (nesting.staysBeside_of_exitRoads found listed member nextOn).2.2.1
  · obtain ⟨_, direction, ceiling, exits, _, _, _, listed, member⟩ := inward
    rw [← sameHolder] at listed
    rw [← sameId]
    have above := (nesting.staysBeside_of_exitRoads
      (nesting.tree.get?_id nextOn.isRoad.found) listed member liesOn).2.1
    exact nesting.staysBeside_of_liesOn nextOn found above.atOrAbove

/-- The turns of a link stay out of every box that lies around none of its roads. -/
theorem passesBy_turns
    {common : NodeId}
    {passages : List Passage}
    {lanes : List (Axis × Rat)}
    (found : graph.get? id = some node)
    (isShown : layout.node? id = some shown)
    (ride : List.Forall₂ layout.HasLine passages lanes)
    (turns : (passages.map (·.road)).IsChain (graph.Turns common))
    (known : ∀ passage ∈ passages, graph.HasRoad passage.road)
    (notAround : ∀ passage ∈ passages, ¬ graph.AtOrAbove id passage.road.container)
    (leaves :
      ∀ passage ∈ passages.head?, ∀ line ∈ lanes.head?,
        layout.StaysBeside graph passage.road.container line.1.other (start.along line.1.other))
    (arrives :
      ∀ passage ∈ passages.getLast?, ∀ line ∈ lanes.getLast?,
        layout.StaysBeside graph passage.road.container line.1.other
          (finish.along line.1.other)) :
    PassesBy shown.visible
      (Polyline.turns start lanes ++
        (lanes.getLast?.map fun line => finish.withAlong line.1 line.2).toList) := by
  induction ride generalizing start with
  | nil =>
      exact .nil
  | @cons passage line passages lanes hasLine later inductionHypothesis =>
      obtain ⟨container, isRoad⟩ := known passage List.mem_cons_self
      have liesOn := nesting.liesOn_of_hasLine isRoad hasLine
      have isClear := notAround passage List.mem_cons_self
      have fromStart := leaves passage rfl line rfl
      rw [← start.along_other_withAlong line.1 line.2] at fromStart
      cases later with
      | nil =>
          have toFinish := arrives passage rfl line rfl
          rw [← finish.along_other_withAlong line.1 line.2] at toFinish
          exact .cons_cons
            (nesting.staysOut_on_road liesOn (start.along_withAlong _ _)
              (finish.along_withAlong _ _) fromStart toFinish found isShown isClear)
            (.singleton _)
      | @cons next nextLine others rest nextHas _ =>
          rw [List.map_cons, List.map_cons, List.isChain_cons_cons] at turns
          obtain ⟨holder, nextRoad⟩ := known next (List.mem_cons_of_mem _ List.mem_cons_self)
          have nextOn := nesting.liesOn_of_hasLine nextRoad nextHas
          have ahead := nesting.staysBeside_of_turns turns.1 liesOn nextOn
          have behind := nesting.staysBeside_of_turns turns.1.symm nextOn liesOn
          have otherAxis := liesOn.axis_eq_other nextOn turns.1
          obtain ⟨_, crossing⟩ := nextLine
          obtain rfl : _ = line.1.other := otherAxis
          have fromTurn :
              ∀ other ∈ (next :: others).head?,
                ∀ otherLine ∈ ((line.1.other, crossing) :: rest).head?,
                  layout.StaysBeside graph other.road.container otherLine.1.other
                    ((start.withAlong line.1 line.2).along otherLine.1.other) := by
            rintro _ ⟨⟩ _ ⟨⟩
            rw [Axis.other_other, Point.along_withAlong]
            exact behind
          have staysOut :
              StaysOut shown.visible (start.withAlong line.1 line.2)
                ((start.withAlong line.1 line.2).withAlong line.1.other crossing) := by
            apply nesting.staysOut_on_road liesOn _ _ fromStart _ found isShown isClear
            · exact Point.along_withAlong _ _ _
            · rw [Point.along_withAlong_other, Point.along_withAlong]
            · rw [Point.along_withAlong]
              exact ahead
          exact .cons_cons staysOut
            (inductionHypothesis turns.2
              (fun other member => known other (List.mem_cons_of_mem _ member))
              (fun other member => notAround other (List.mem_cons_of_mem _ member))
              fromTurn arrives)

/--
A link that leaves a box from its gate stays out of every box not around it until it comes
to the road, and beside the container of the road.
-/
theorem leaves_gate
    {common : NodeId}
    {endpoint : Endpoint}
    {side : Direction}
    {road : Road}
    {line : Axis × Rat}
    {outer : NodeLayout Rat}
    {gate : Point Rat}
    (leaves : graph.LeavesOnto common endpoint side road)
    (liesOn : layout.LiesOn graph container road line)
    (baseFound : graph.get? endpoint.node = some base)
    (baseShown : layout.node? endpoint.node = some outer)
    (onSide : outer.visible.HasOnSide side gate) :
    layout.StaysBeside graph road.container line.1.other (gate.along line.1.other) ∧
      ∀ {id : NodeId} {node : Node Rat} {shown : NodeLayout Rat}, graph.get? id = some node →
        layout.node? id = some shown → ¬ graph.Above id endpoint.node →
          StaysOut shown.visible gate (gate.withAlong line.1 line.2) := by
  obtain ⟨_, ceiling, exits, _, _, _, listed, member⟩ := leaves
  have sameId := nesting.tree.id_of_get? baseFound
  rw [← sameId] at baseFound baseShown listed ⊢
  obtain ⟨sameAxis, above, reached, ordered⟩ :=
    nesting.staysBeside_of_exitRoads baseFound listed member liesOn
  have isInside := nesting.visible_inside baseFound baseShown
  have alongside := onSide.alongside.trans (isInside.rangeIn _)
  have edge := Bounds.rangeIn_edge isInside side
  rw [← onSide.onEdge] at edge
  have onLine : (gate.withAlong line.1 line.2).along side.axis = line.2 := by
    rw [← sameAxis, Point.along_withAlong]
  constructor
  · have containerFound := nesting.tree.get?_id liesOn.isRoad.found
    obtain ⟨holder, _, holderShown, _⟩ := nesting.nests containerFound
    rw [← nesting.tree.id_of_get? liesOn.isRoad.found, sameAxis]
    exact nesting.staysBeside_of_rangeIn containerFound holderShown (alongside.trans
      ((nesting.inside_of_atOrAbove baseFound above.atOrAbove holderShown baseShown).1.rangeIn _))
  · intro id node shown found isShown notAround
    refine nesting.staysOut_at_side side baseFound baseShown ⟨?_, ?_, ?_, ?_⟩ ?_ ?_ found
      isShown notAround
    · rw [← sameAxis, Point.along_other_withAlong]
    · exact nesting.staysBeside_of_rangeIn baseFound baseShown alongside
    · rw [Axis.other_other]
      exact nesting.staysBeside_of_rangeIn baseFound baseShown (edge.trans (isInside.rangeIn _))
    · rw [Axis.other_other, onLine, ← sameAxis]
      exact reached
    · rw [onSide.onEdge]
      exact Bounds.orders_edge _ _
    · rw [onLine]
      exact Direction.Orders.mono (ordered outer baseShown) (isInside.rangeIn _)
        ⟨le_rfl, le_rfl, le_rfl⟩

/-- The line of a link stays out of every box that lies around neither of its ends. -/
theorem passesBy_corners
    {common : NodeId}
    {source target : Endpoint}
    {sourceExit targetExit : Direction}
    {sourceNode targetNode : Node Rat}
    {sourceShown targetShown : NodeLayout Rat}
    {passages : List Passage}
    {lanes : List (Axis × Rat)}
    (walk :
      graph.IsWalk common source target sourceExit targetExit (passages.map (·.road)))
    (ride : List.Forall₂ layout.HasLine passages lanes)
    (sourceFound : graph.get? source.node = some sourceNode)
    (targetFound : graph.get? target.node = some targetNode)
    (sourceIs : layout.node? source.node = some sourceShown)
    (targetIs : layout.node? target.node = some targetShown)
    (startOn : sourceShown.visible.HasOnSide sourceExit start)
    (finishOn : targetShown.visible.HasOnSide targetExit finish)
    (found : graph.get? id = some node)
    (isShown : layout.node? id = some shown)
    (notSource : ¬ graph.Above id source.node)
    (notTarget : ¬ graph.Above id target.node) :
    PassesBy shown.visible (Polyline.corners start finish lanes) := by
  obtain ⟨first, isFirst, leavesSource⟩ := walk.first
  obtain ⟨last, isLast, leavesTarget⟩ := walk.last
  rw [List.head?_map, Option.map_eq_some_iff] at isFirst
  obtain ⟨firstPassage, isFirst, rfl⟩ := isFirst
  rw [List.getLast?_map, Option.map_eq_some_iff] at isLast
  obtain ⟨lastPassage, isLast, rfl⟩ := isLast
  obtain ⟨firstLine, firstIs, hasFirst⟩ := exists_head?_of_forall₂ ride isFirst
  obtain ⟨lastLine, lastIs, hasLast⟩ := exists_getLast?_of_forall₂ ride isLast
  have between := fun passage (member : passage ∈ passages) =>
    walk.between passage.road (List.mem_map_of_mem member)
  obtain ⟨⟨_, firstRoad⟩, _⟩ := between firstPassage (List.mem_of_mem_head? isFirst)
  obtain ⟨⟨_, lastRoad⟩, _⟩ := between lastPassage (List.mem_of_mem_getLast? isLast)
  obtain ⟨fromStart, leaves⟩ :=
    nesting.leaves_gate leavesSource (nesting.liesOn_of_hasLine firstRoad hasFirst) sourceFound
      sourceIs startOn
  obtain ⟨toFinish, arrives⟩ :=
    nesting.leaves_gate leavesTarget (nesting.liesOn_of_hasLine lastRoad hasLast) targetFound
      targetIs finishOn
  have turned :
      PassesBy shown.visible
        (Polyline.turns start lanes ++
          (lanes.getLast?.map fun line => finish.withAlong line.1 line.2).toList) := by
    apply nesting.passesBy_turns found isShown ride walk.turns
      (fun passage member => (between passage member).1)
      (fun passage member => (between passage member).not_atOrAbove notSource notTarget)
    · rw [isFirst, firstIs]
      rintro _ ⟨⟩ _ ⟨⟩
      exact fromStart
    · rw [isLast, lastIs]
      rintro _ ⟨⟩ _ ⟨⟩
      exact toFinish
  rw [lastIs] at turned
  obtain ⟨later, rfl⟩ := List.head?_eq_some_iff.mp firstIs
  rw [Polyline.corners, lastIs]
  refine List.IsChain.append (.cons_cons (leaves found isShown notSource) turned) (.singleton _) ?_
  rintro corner isCorner _ ⟨⟩
  rw [List.getLast?_append] at isCorner
  cases isCorner
  exact (arrives found isShown notTarget).symm

end IsNestingOf

end Layout

end BoxDiagram
