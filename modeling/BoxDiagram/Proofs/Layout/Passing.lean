import BoxDiagram.Proofs.Graph.Siblings
import BoxDiagram.Proofs.Layout.Ordered
import BoxDiagram.Proofs.Road.Exits

namespace BoxDiagram

/-!
# Lines beside boxes

A line that stays inside a container, seen along one axis, gets into no box beside this
container or beside one around it.  The same holds of the line of a road that a box meets
when it goes outward within its boundary number: up to the container of the road no sibling
lies ahead, and there the next one lies behind the road.
-/

/-- Two directions of one axis are the same or opposite. -/
theorem Direction.eq_or_eq_reverse
    {first second : Direction}
    (sameAxis : first.axis = second.axis) :
    first = second ∨ first = second.reverse := by
  revert sameAxis
  cases first <;> cases second <;> decide

theorem Axis.eq_or_eq_other
    (first second : Axis) :
    first = second ∨ first = second.other := by
  cases first <;> cases second <;> decide

namespace Bounds

/-- A rectangle inside of another one has its ranges in those of the other. -/
theorem IsInside.rangeIn
    {inner outer : Bounds Rat}
    (isInside : inner.IsInside outer)
    (axis : Axis) :
    RangeIn (inner.range axis) (outer.range axis) :=
  isInside axis

theorem IsInside.inner_self
    {inner outer : Bounds Rat}
    (isInside : inner.IsInside outer) :
    inner.IsInside inner :=
  fun axis => ⟨le_rfl, (isInside axis).2.1, le_rfl⟩

theorem IsInside.outer_self
    {inner outer : Bounds Rat}
    (isInside : inner.IsInside outer) :
    outer.IsInside outer := by
  intro axis
  obtain ⟨start, ordered, finish⟩ := isInside axis
  exact ⟨le_rfl, (start.trans ordered).trans finish, le_rfl⟩

end Bounds

/-- A layout shows all boxes of a tree, nested and in the order of their flow. -/
structure Layout.IsNestingOf (graph : Graph Rat) (layout : Layout Rat) : Prop where
  tree : graph.IsTree
  nests :
    ∀ {id : NodeId} {node : Node Rat}, graph.get? id = some node →
      ∃ shown label, layout.node? id = some shown ∧ layout.Nests node label shown
  flows : ∀ {id : NodeId} {node : Node Rat}, graph.get? id = some node → layout.Flows node

/-- Along an axis a coordinate gets into no box beside a box or beside one around it. -/
structure Layout.StaysBeside
    (layout : Layout Rat)
    (graph : Graph Rat)
    (id : NodeId)
    (axis : Axis)
    (line : Rat) : Prop where
  stops :
    ∀ {container child sibling : Node Rat} {inner other : NodeLayout Rat},
      graph.AreSiblings container child sibling → graph.AtOrAbove child.id id →
        container.itemFrame.main.axis = axis → layout.node? child.id = some inner →
          layout.node? sibling.id = some other →
            Bounds.StopsShort (inner.bounds.range axis) (other.bounds.range axis) line

namespace Layout.IsNestingOf

variable
  {graph : Graph Rat}
  {layout : Layout Rat}
  {container child sibling : Node Rat}
  {outer inner other shown : NodeLayout Rat}
  (nesting : layout.IsNestingOf graph)
include nesting

/-- What is shown of a box of the graph nests what the box holds. -/
theorem exists_nests
    {id : NodeId}
    {node : Node Rat}
    (found : graph.get? id = some node)
    (isShown : layout.node? id = some shown) :
    ∃ label, layout.Nests node label shown := by
  obtain ⟨same, label, isSame, nested⟩ := nesting.nests found
  obtain rfl := Option.some.inj (isShown.symm.trans isSame)
  exact ⟨label, nested⟩

/-- A child lies inside the visible part of its container. -/
theorem inside_of_holds
    (found : graph.get? container.id = some container)
    (holds : container.Holds child)
    (outerShown : layout.node? container.id = some outer)
    (innerShown : layout.node? child.id = some inner) :
    inner.bounds.IsInside outer.visible := by
  obtain ⟨label, nested⟩ := nesting.exists_nests found outerShown
  have isChild : layout.HasChild container inner :=
    ⟨child.id, List.mem_of_getElem? holds.listed, innerShown⟩
  exact (nested.arranges.childInside isChild).inside.trans nested.contentInside

/-- A road lies inside its container. -/
theorem inside_of_hasRoadOf
    {band : RoadLayout Rat}
    (found : graph.get? container.id = some container)
    (isBand : layout.HasRoadOf container band)
    (outerShown : layout.node? container.id = some outer) :
    band.bounds.IsInside outer.bounds := by
  obtain ⟨label, nested⟩ := nesting.exists_nests found outerShown
  exact (nested.arranges.roadInside isBand).inside.trans
    (nested.contentInside.trans nested.visibleInside)

/-- A box is drawn inside of its outer rectangle. -/
theorem visible_inside
    {id : NodeId}
    {node : Node Rat}
    (found : graph.get? id = some node)
    (isShown : layout.node? id = some shown) :
    shown.visible.IsInside shown.bounds :=
  (nesting.exists_nests found isShown).choose_spec.visibleInside

/-- A box lies inside those around it, and so do the parts that are visible. -/
theorem inside_of_atOrAbove
    {outerId id : NodeId}
    {node : Node Rat}
    (found : graph.get? id = some node)
    (above : graph.AtOrAbove outerId id)
    (outerShown : layout.node? outerId = some outer)
    (innerShown : layout.node? id = some inner) :
    inner.bounds.IsInside outer.bounds ∧ inner.visible.IsInside outer.visible := by
  induction above generalizing node inner with
  | refl =>
      obtain rfl := Option.some.inj (outerShown.symm.trans innerShown)
      have isInside := nesting.visible_inside found innerShown
      exact ⟨isInside.outer_self, isInside.inner_self⟩
  | tail _ isParent inductionHypothesis =>
      obtain ⟨holder, holderFound, rfl, holds⟩ :=
        nesting.tree.exists_holds_of_isParent found isParent
      obtain ⟨between, _, betweenShown, _⟩ := nesting.nests holderFound
      obtain ⟨boundsInside, visibleInside⟩ := inductionHypothesis holderFound betweenShown
      obtain rfl := nesting.tree.id_of_get? found
      have isInside := nesting.inside_of_holds holderFound holds betweenShown innerShown
      exact ⟨isInside.trans ((nesting.visible_inside holderFound betweenShown).trans boundsInside),
        (nesting.visible_inside found innerShown).trans (isInside.trans visibleInside)⟩

/-- Children come one after the other, as the flow of their container goes. -/
theorem precedes_of_index_lt
    (areSiblings : graph.AreSiblings container child sibling)
    (inOrder : child.index < sibling.index)
    (innerShown : layout.node? child.id = some inner)
    (otherShown : layout.node? sibling.id = some other) :
    inner.bounds.Precedes container.itemFrame.main other.bounds :=
  (nesting.flows areSiblings.containerFound).children inOrder
    ⟨child.id, areSiblings.holds.listed, innerShown⟩
    ⟨sibling.id, areSiblings.holdsSibling.listed, otherShown⟩

/-- A sibling that does not lie ahead in a direction of the flow comes before. -/
theorem precedes_of_not_isAhead
    {direction : Direction}
    (areSiblings : graph.AreSiblings container child sibling)
    (sameAxis : container.itemFrame.main.axis = direction.axis)
    (notAhead : ¬ container.IsAhead direction child.index sibling.index)
    (innerShown : layout.node? child.id = some inner)
    (otherShown : layout.node? sibling.id = some other) :
    other.bounds.Precedes direction inner.bounds := by
  have differ := areSiblings.differ
  rcases Direction.eq_or_eq_reverse sameAxis.symm with rfl | rfl
  · have inOrder : sibling.index < child.index := by
      by_contra notBefore
      exact notAhead (.inl ⟨rfl, by omega⟩)
    exact nesting.precedes_of_index_lt areSiblings.symm inOrder otherShown innerShown
  · have inOrder : child.index < sibling.index := by
      by_contra notBefore
      exact notAhead (.inr ⟨rfl, by omega⟩)
    rw [Bounds.precedes_reverse]
    exact nesting.precedes_of_index_lt areSiblings inOrder innerShown otherShown

/-- A line that stays inside a box gets into nothing beside it. -/
theorem staysBeside_of_rangeIn
    {id : NodeId}
    {node : Node Rat}
    {axis : Axis}
    {line : Rat}
    (found : graph.get? id = some node)
    (isShown : layout.node? id = some shown)
    (inside : Bounds.RangeIn (line, line) (shown.bounds.range axis)) :
    layout.StaysBeside graph id axis line := by
  constructor
  rintro container child sibling inner other areSiblings above rfl innerShown otherShown
  have isInner : Bounds.RangeIn (line, line) (inner.bounds.range container.itemFrame.main.axis) :=
    inside.trans ((nesting.inside_of_atOrAbove found above innerShown isShown).1.rangeIn _)
  have isOther :=
    (nesting.visible_inside areSiblings.siblingFound otherShown).outer_self.rangeIn
      container.itemFrame.main.axis
  rcases Nat.lt_or_gt_of_ne areSiblings.differ with inOrder | inReverse
  · have precedes := nesting.precedes_of_index_lt areSiblings inOrder innerShown otherShown
    exact ⟨container.itemFrame.main, precedes,
      Direction.Orders.mono precedes isInner isOther⟩
  · have precedes :=
      nesting.precedes_of_index_lt areSiblings.symm inReverse otherShown innerShown
    exact ⟨container.itemFrame.main.reverse, Direction.orders_reverse.mpr precedes,
      Direction.orders_reverse.mpr (Direction.Orders.mono precedes isOther isInner)⟩

/-- A road beside a child comes after it in its direction. -/
theorem precedes_beside
    {direction : Direction}
    {band : RoadLayout Rat}
    (found : graph.get? container.id = some container)
    (holds : container.Holds child)
    (innerShown : layout.node? child.id = some inner)
    (isBand : layout.HasRoadOf container band)
    (isBeside : band.road = Road.beside container child direction) :
    inner.bounds.Precedes direction band.bounds := by
  have flows := nesting.flows found
  have isChild : layout.HasChildAt container child.index inner :=
    ⟨child.id, holds.listed, innerShown⟩
  rw [← container.itemFrame.absoluteOf_relativeOf direction]
  rw [Road.beside] at isBeside
  cases relative : container.itemFrame.relativeOf direction with
  | main =>
      rw [relative] at isBeside
      exact flows.gapBehind (by simp [isBeside, Road.main]) isBand (by simp [isBeside, Road.main])
        isChild
  | mainReverse =>
      rw [relative] at isBeside
      exact Bounds.precedes_reverse.mpr
        (flows.gapBefore (by simp [isBeside, Road.main]) isBand (by simp [isBeside, Road.main])
          isChild)
  | cross =>
      rw [relative] at isBeside
      exact flows.endEdge (by simp [isBeside, Road.cross]) isBand (by simp [isBeside, Road.cross])
        isChild
  | crossReverse =>
      rw [relative] at isBeside
      exact Bounds.precedes_reverse.mpr
        (flows.startEdge (by simp [isBeside, Road.cross]) isBand
          (by simp [isBeside, Road.cross]) isChild)

/-- A road beside a child along the flow lies between its siblings and the child. -/
theorem stopsShort_beside
    {direction : Direction}
    {band : RoadLayout Rat}
    {line : Rat}
    (areSiblings : graph.AreSiblings container child sibling)
    (sameAxis : container.itemFrame.main.axis = direction.axis)
    (isBand : layout.HasRoadOf container band)
    (isBeside : band.road = Road.beside container child direction)
    (inside : Bounds.RangeIn (line, line) (band.bounds.range direction.axis))
    (innerShown : layout.node? child.id = some inner)
    (otherShown : layout.node? sibling.id = some other) :
    Bounds.StopsShort (inner.bounds.range direction.axis) (other.bounds.range direction.axis)
      line := by
  obtain ⟨isMain, avenue⟩ :
      band.road.axis = .main ∧
        (band.road.avenue = child.index ∨ band.road.avenue = child.index + 1) := by
    rcases Direction.eq_or_eq_reverse sameAxis.symm with rfl | rfl
    · have relative := container.itemFrame.relativeOf_absoluteOf .main
      rw [Compass.absoluteOf] at relative
      rw [isBeside, Road.beside, relative]
      exact ⟨rfl, .inr rfl⟩
    · have relative := container.itemFrame.relativeOf_absoluteOf .mainReverse
      rw [Compass.absoluteOf] at relative
      rw [isBeside, Road.beside, relative]
      exact ⟨rfl, .inl rfl⟩
  have flows := nesting.flows areSiblings.containerFound
  have isSibling : layout.HasChildAt container sibling.index other :=
    ⟨sibling.id, areSiblings.holdsSibling.listed, otherShown⟩
  have isOther :=
    (nesting.visible_inside areSiblings.siblingFound otherShown).outer_self.rangeIn direction.axis
  rw [← sameAxis] at inside isOther ⊢
  rcases Nat.lt_or_gt_of_ne areSiblings.differ with inOrder | inReverse
  · have roadFirst := flows.gapBefore (show _ ≤ sibling.index by omega) isBand isMain isSibling
    exact ⟨container.itemFrame.main,
      nesting.precedes_of_index_lt areSiblings inOrder innerShown otherShown,
      Direction.Orders.mono roadFirst inside isOther⟩
  · have roadLast := flows.gapBehind (show sibling.index < _ by omega) isBand isMain isSibling
    exact ⟨container.itemFrame.main.reverse,
      Direction.orders_reverse.mpr
        (nesting.precedes_of_index_lt areSiblings.symm inReverse otherShown innerShown),
      Direction.orders_reverse.mpr (Direction.Orders.mono roadLast isOther inside)⟩

/-- The line of a road that a box meets comes after the box in its direction. -/
theorem orders_of_meets
    {node below : Node Rat}
    {direction : Direction}
    {level : Nat}
    {road : Road}
    {band : RoadLayout Rat}
    {line : Rat}
    (meets : graph.MeetsRoad node direction level road below container)
    (isBand : layout.HasRoadOf container band)
    (isRoad : band.road = road)
    (inside : Bounds.RangeIn (line, line) (band.bounds.range direction.axis))
    {id : NodeId}
    {inward : Node Rat}
    (found : graph.get? id = some inward)
    (above : graph.AtOrAbove below.id id)
    (innerShown : layout.node? id = some inner) :
    direction.Orders (inner.bounds.range direction.axis) (line, line) := by
  obtain ⟨belowShown, _, isShown, _⟩ := nesting.nests meets.isOuter.found
  have precedes :=
    nesting.precedes_beside meets.found meets.holds isShown isBand (isRoad.trans meets.road_eq)
  exact Direction.Orders.mono precedes
    ((nesting.inside_of_atOrAbove found above isShown innerShown).1.rangeIn _) inside

/--
The line of a road that a box meets within its boundary number gets into nothing beside
the box or beside a container around it.
-/
theorem staysBeside_of_meets
    {node below : Node Rat}
    {direction : Direction}
    {level : Nat}
    {road : Road}
    {band : RoadLayout Rat}
    {line : Rat}
    (found : graph.get? node.id = some node)
    (meets : graph.MeetsRoad node direction level road below container)
    (passes : level < node.boundary.toward direction)
    (isBand : layout.HasRoadOf container band)
    (isRoad : band.road = road)
    (inside : Bounds.RangeIn (line, line) (band.bounds.range direction.axis)) :
    layout.StaysBeside graph node.id direction.axis line := by
  have tree := nesting.tree
  constructor
  intro holder child sibling inner other areSiblings above sameAxis innerShown otherShown
  obtain ⟨reached, box, _, sameId, isOuter⟩ :=
    tree.exists_isOuter_of_mem found ((tree.atOrAbove_iff found).mp above)
  obtain rfl : box = child := by
    have boxFound := isOuter.found
    rw [sameId, areSiblings.childFound] at boxFound
    exact (Option.some.inj boxFound).symm
  have isOuterHolder : graph.IsOuter node (reached + 1) holder :=
    isOuter.trans (.of_holds areSiblings.containerFound areSiblings.holds)
  rcases Nat.lt_trichotomy reached level with isEarlier | rfl | isLater
  · -- The siblings of a container that was left before the road lie in one left later.
    have notAhead :=
      tree.not_isAhead_of_lt_boundary found isOuter areSiblings
        (show reached + 1 < node.boundary.toward direction by omega)
    have aboveSibling : graph.AtOrAbove below.id sibling.id :=
      ((isOuterHolder.between meets.isOuter isEarlier).atOrAbove tree
        areSiblings.containerFound).tail
          (Graph.IsTree.isParent_of_holds areSiblings.siblingFound areSiblings.holdsSibling)
    exact ⟨direction.reverse,
      Direction.orders_reverse.mpr
        (nesting.precedes_of_not_isAhead areSiblings sameAxis notAhead innerShown otherShown),
      Direction.orders_reverse.mpr
        (nesting.orders_of_meets meets isBand isRoad inside areSiblings.siblingFound aboveSibling
          otherShown)⟩
  · obtain rfl := isOuter.unique meets.isOuter
    obtain rfl := meets.isOuter_container.unique isOuterHolder
    exact nesting.stopsShort_beside areSiblings sameAxis isBand
      (isRoad.trans meets.road_eq) inside innerShown otherShown
  · obtain ⟨outer, _, outerShown, _⟩ := nesting.nests meets.found
    have isInside := (nesting.inside_of_hasRoadOf meets.found isBand outerShown).rangeIn
      direction.axis
    have aboveContainer : graph.AtOrAbove box.id container.id :=
      (meets.isOuter_container.between isOuter isLater).atOrAbove tree meets.found
    exact (nesting.staysBeside_of_rangeIn meets.found outerShown (inside.trans isInside)).stops
      areSiblings aboveContainer sameAxis innerShown otherShown

end Layout.IsNestingOf

end BoxDiagram
