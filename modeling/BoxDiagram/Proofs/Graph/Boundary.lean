import BoxDiagram.Number.Exact
import BoxDiagram.Proofs.Graph.Resolved
import BoxDiagram.Proofs.Graph.Siblings
import BoxDiagram.Proofs.Road.Exits
import Mathlib.Order.Bounds.Basic

namespace BoxDiagram

/-!
# Boundary numbers

A line that leaves a box in one direction goes out of one container after the other, until
a sibling lies ahead.  The boundary number of the box is the number of levels up to there.
The roads that the box can leave onto are those on the way, and nothing stands between the
box and any of them.
-/

variable {α : Type} {graph : Graph α}

/-- Going in a direction, a child of the container of a road is passed before the road. -/
def Node.IsBefore
    (container : Node α)
    (direction : Direction)
    (index : Nat)
    (road : Road) : Prop :=
  direction = container.itemFrame.main ∧ index < road.avenue ∨
    direction = container.itemFrame.main.reverse ∧ road.avenue ≤ index

/-- No child of a container stands between another one and the road beside it. -/
theorem Node.not_isBefore_beside
    {container child : Node α}
    {direction : Direction}
    {other : Nat}
    (ahead : container.IsAhead direction child.index other) :
    ¬ container.IsBefore direction other (.beside container child direction) := by
  have forward_ne : container.itemFrame.main ≠ container.itemFrame.main.reverse := by
    cases container.itemFrame.main <;> decide
  rintro (⟨rfl, before⟩ | ⟨rfl, before⟩)
  · rw [Road.beside, Compass.relativeOf, if_pos rfl] at before
    rcases ahead with ⟨_, ahead⟩ | ⟨isBackward, _⟩
    · change other < child.index + 1 at before
      omega
    · exact forward_ne isBackward
  · have isReverse :
        container.itemFrame.relativeOf container.itemFrame.main.reverse = .mainReverse :=
      container.itemFrame.relativeOf_absoluteOf .mainReverse
    rw [Road.beside, isReverse] at before
    rcases ahead with ⟨isForward, _⟩ | ⟨_, ahead⟩
    · exact forward_ne isForward.symm
    · change child.index ≤ other at before
      omega

/-- Of a list that starts with a number of values and goes on with none, the values are kept. -/
theorem map_some_reduceOption
    {β : Type}
    {count : Nat}
    {items : List (Option β)}
    (isFirst : ∀ position item, items[position]? = some item → (item.isSome ↔ position < count)) :
    items.reduceOption.map some = items.take count := by
  induction items generalizing count with
  | nil =>
      rw [List.take_nil]
      rfl
  | cons item rest inductionHypothesis =>
      have isHead := isFirst 0 item rfl
      cases count with
      | zero =>
          obtain rfl : item = none := by simpa using isHead
          rw [List.reduceOption_cons_of_none, @inductionHypothesis 0]
          · rfl
          · intro position other isThere
            simpa using isFirst (position + 1) other (by simpa using isThere)
      | succ count =>
          obtain ⟨value, rfl⟩ := Option.isSome_iff_exists.mp (isHead.mpr (Nat.succ_pos _))
          rw [List.reduceOption_cons_of_some, List.map_cons, List.take_succ_cons,
            inductionHypothesis]
          intro position other isThere
          simpa using isFirst (position + 1) other (by simpa using isThere)

namespace Graph

/--
In the container a number of levels above a box, a sibling lies ahead of the child that is
the box or holds it, going in a direction along the flow of the container.
-/
structure HasGapAt
    (graph : Graph α)
    (node : Node α)
    (direction : Direction)
    (level : Nat) : Prop where
  pos : 1 ≤ level
  le_depth : level ≤ node.depth
  ahead :
    ∃ container child sibling,
      graph.IsOuter node level container ∧ graph.IsOuter node (level - 1) child ∧
        graph.AreSiblings container child sibling ∧
          container.IsAhead direction child.index sibling.index

/--
A box stands between another one and a road outward from it in a direction: it is a sibling
of that box or of a container around it, lies ahead, and is passed before the road is reached.
-/
structure StandsBetween
    (graph : Graph α)
    (node : Node α)
    (direction : Direction)
    (road : Road)
    (sibling : Node α) : Prop where
  ahead :
    ∃ level container child,
      graph.IsOuter node level child ∧ graph.AreSiblings container child sibling ∧
        container.IsAhead direction child.index sibling.index ∧
          graph.AtOrAbove road.container container.id ∧
            (road.container = container.id → container.IsBefore direction sibling.index road)

/-- A gap that a container meets is met by what it holds, one level later. -/
theorem HasGapAt.of_holds
    {parent node : Node α}
    {direction : Direction}
    {level : Nat}
    (gap : graph.HasGapAt parent direction level)
    (parentFound : graph.get? parent.id = some parent)
    (holds : parent.Holds node) :
    graph.HasGapAt node direction (level + 1) := by
  obtain ⟨pos, le_depth, container, child, sibling, isOuter, isOuterChild, areSiblings, ahead⟩ :=
    gap
  have isParent : graph.IsOuter node 1 parent := .of_holds parentFound holds
  refine ⟨by omega, by have := holds.depth_eq; omega, container, child, sibling, ?_, ?_,
    areSiblings, ahead⟩
  · rw [Nat.add_comm]
    exact isParent.trans isOuter
  · rw [Nat.add_sub_cancel, ← Nat.add_sub_cancel' pos]
    exact isParent.trans isOuterChild

namespace IsTree

variable {id : NodeId} {node : Node α} (tree : graph.IsTree)
include tree

/-- A child beside another one at a neighbouring position lies ahead of it at the first level. -/
theorem hasGapAt_one
    {container : Node α}
    {direction : Direction}
    {other : Nat}
    (found : graph.get? node.id = some node)
    (containerFound : graph.get? container.id = some container)
    (holds : container.Holds node)
    (inside : other < container.children.length)
    (ahead : container.IsAhead direction node.index other) :
    graph.HasGapAt node direction 1 := by
  obtain ⟨sibling, siblingFound, indexEq, holdsSibling⟩ :=
    tree.child_of_get? containerFound (List.getElem?_eq_getElem inside)
  have differ : node.index ≠ sibling.index := by
    rw [indexEq]
    rcases ahead with ⟨_, ahead⟩ | ⟨_, ahead⟩ <;> omega
  refine ⟨Nat.le_refl 1, by have := holds.depth_eq; omega, container, node, sibling,
    .of_holds containerFound holds, tree.isOuter_self found,
    ⟨containerFound, found, tree.get?_id siblingFound, holds, holdsSibling, differ⟩, ?_⟩
  rwa [indexEq]

/-- The boundary number of a box is one more than its depth, or leads to a gap. -/
theorem boundary_eq_or_hasGapAt
    (found : graph.get? node.id = some node)
    (direction : Direction) :
    node.boundary.toward direction = node.depth + 1 ∨
      graph.HasGapAt node direction (node.boundary.toward direction) := by
  induction isDeep : node.depth generalizing node with
  | zero =>
      rcases tree.parent_of_get? found with isTop | ⟨parent, _, holds⟩
      · left
        simp [isTop.boundary_eq]
      · have := holds.depth_eq
        omega
  | succ depth inductionHypothesis =>
      obtain ⟨parent, parentFound, holds⟩ := tree.exists_holds found (by omega)
      have inside := holds.index_lt
      rw [holds.boundary_eq, childBoundary, PerDirection.toward_ofFunction]
      split
      case isTrue next =>
        exact .inr <| tree.hasGapAt_one found parentFound holds next.2
          (.inl ⟨next.1, Nat.lt_succ_self _⟩)
      case isFalse =>
        split
        case isTrue previous =>
          exact .inr <| tree.hasGapAt_one found parentFound holds
            (show node.index - 1 < parent.children.length by omega)
            (.inr ⟨previous.1, by omega⟩)
        case isFalse =>
          have shallower : parent.depth = depth := by
            have := holds.depth_eq
            omega
          rcases inductionHypothesis parentFound shallower with isOutermost | gap
          · left
            omega
          · exact .inr (gap.of_holds parentFound holds)

/-- No gap is met before the boundary number of a box. -/
theorem boundary_le_of_hasGapAt
    {direction : Direction}
    {level : Nat}
    (found : graph.get? node.id = some node)
    (gap : graph.HasGapAt node direction level) :
    node.boundary.toward direction ≤ level := by
  obtain ⟨pos, _, container, child, sibling, _, isOuterChild, areSiblings, ahead⟩ := gap
  by_contra beyond
  exact tree.not_isAhead_of_lt_boundary found isOuterChild areSiblings (by omega) ahead

/-- The boundary number of a box is the least level with a gap, or else leads out of the root. -/
theorem isLeast_boundary
    (found : graph.get? node.id = some node)
    (direction : Direction) :
    IsLeast {level | graph.HasGapAt node direction level} (node.boundary.toward direction) ∨
      (∀ level, ¬ graph.HasGapAt node direction level) ∧
        node.boundary.toward direction = node.depth + 1 := by
  rcases tree.boundary_eq_or_hasGapAt found direction with isOutermost | gap
  · refine .inr ⟨fun level gap => ?_, isOutermost⟩
    have := tree.boundary_le_of_hasGapAt found gap
    have := gap.le_depth
    omega
  · exact .inl ⟨gap, fun level => tree.boundary_le_of_hasGapAt found⟩

/-- Nothing stands between a box and a road that it meets within its boundary number. -/
theorem not_standsBetween
    {below holder sibling : Node α}
    {direction : Direction}
    {level : Nat}
    {road : Road}
    (found : graph.get? node.id = some node)
    (meets : graph.MeetsRoad node direction level road below holder)
    (clear : level < node.boundary.toward direction) :
    ¬ graph.StandsBetween node direction road sibling := by
  rintro ⟨other, container, child, isOuter, areSiblings, ahead, atOrAbove, isBefore⟩
  have isContainer : graph.IsOuter node (other + 1) container :=
    isOuter.trans (.of_holds areSiblings.containerFound areSiblings.holds)
  rw [meets.container_eq, tree.atOrAbove_iff areSiblings.containerFound] at atOrAbove
  obtain ⟨more, outer, _, sameId, isOuterOuter⟩ :=
    tree.exists_isOuter_of_mem areSiblings.containerFound atOrAbove
  -- A container inside that of the road is left before any sibling lies ahead.
  rcases Nat.lt_or_ge other level with inside | outside
  · exact tree.not_isAhead_of_lt_boundary found isOuter areSiblings (by omega) ahead
  · have reached := isContainer.trans isOuterOuter
    have sameDepth : outer.depth = holder.depth := by
      have foundOuter := isOuterOuter.found
      rw [sameId, meets.found] at foundOuter
      rw [Option.some.inj foundOuter]
    have depths := meets.isOuter_container.depth_eq
    have otherDepths := reached.depth_eq
    obtain rfl : other = level := by omega
    obtain rfl := meets.isOuter.unique isOuter
    obtain rfl := meets.isOuter_container.unique isContainer
    have before := isBefore meets.container_eq
    rw [meets.road_eq] at before
    exact Node.not_isBefore_beside ahead before

/-- Of the levels that are looked up around a box each gives the road that is met there. -/
theorem meeting_iff
    (found : graph.get? id = some node)
    {direction : Direction}
    {budget level : Nat}
    {meetings : List (Option (Nat × Road))}
    {meeting : Option (Nat × Road)}
    (met :
      ((node.outward.take budget).zipIdx 1).mapM
          (fun (below, level) => graph.adjacentRoadAt direction below level) =
        .ok meetings)
    (isThere : meetings[level]? = some meeting)
    (entry : Nat × Road) :
    meeting = some entry ↔
      entry.1 = level + 1 ∧
        ∃ box container, graph.MeetsRoad node direction level entry.2 box container := by
  have inside : level < meetings.length := (List.getElem?_eq_some_iff.mp isThere).1
  rw [Attempt.length_of_mapM met, List.length_zipIdx, List.length_take, Nat.lt_min] at inside
  obtain ⟨inBudget, atLevel⟩ := inside
  have listed :
      ((node.outward.take budget).zipIdx 1)[level]? = some (node.outward[level], level + 1) := by
    rw [List.getElem?_zipIdx, List.getElem?_take_of_lt inBudget,
      List.getElem?_eq_getElem atLevel, Nat.add_comm level 1]
    rfl
  obtain ⟨expected, succeeds, isExpected⟩ :=
    tree.exists_adjacentRoadAt found direction (List.getElem?_eq_getElem atLevel) (level + 1)
  obtain rfl := Except.ok.inj (succeeds.symm.trans (Attempt.step_of_mapM met listed isThere))
  exact isExpected entry

/--
The roads that a box leaves onto are those next to the box and to the containers around it,
one for each level up to its boundary number, the ceiling and its depth.
-/
theorem exists_exitRoads_by_level
    (found : graph.get? id = some node)
    (direction : Direction)
    (ceiling : Nat) :
    ∃ roads, graph.exitRoads id direction ceiling = .ok roads ∧
      roads.length = min (min (node.boundary.toward direction) ceiling) node.depth ∧
        ∀ level number road, roads[level]? = some (number, road) →
          number = level + 1 ∧
            ∃ below container, graph.MeetsRoad node direction level road below container := by
  obtain ⟨roads, succeeded⟩ := tree.exists_exitRoads found direction ceiling
  refine ⟨roads, succeeded, ?_⟩
  rw [exitRoads, find_eq_ok_iff.mpr found, Attempt.ok_bind] at succeeded
  obtain ⟨meetings, met, same⟩ := Attempt.bind_eq_ok_iff.mp succeeded
  obtain rfl : meetings.reduceOption = roads := Except.ok.inj same
  have counted := Attempt.length_of_mapM met
  rw [List.length_zipIdx, List.length_take, Node.length_outward] at counted
  have isTaken : meetings.reduceOption.map some = meetings.take node.depth := by
    apply map_some_reduceOption
    intro level meeting isThere
    rw [Option.isSome_iff_exists]
    constructor
    · rintro ⟨entry, isEntry⟩
      obtain ⟨_, _, _, meets⟩ := (tree.meeting_iff found met isThere entry).mp isEntry
      exact meets.level_lt
    · intro inside
      obtain ⟨road, box, container, meets⟩ := tree.exists_meetsRoad found direction inside
      exact ⟨(level + 1, road),
        (tree.meeting_iff found met isThere _).mpr ⟨rfl, box, container, meets⟩⟩
  constructor
  · have := congrArg List.length isTaken
    rw [List.length_map, List.length_take] at this
    omega
  · intro level number road isThere
    have isEntry := congrArg (·[level]?) isTaken
    simp only [List.getElem?_map, isThere, Option.map_some] at isEntry
    have isThere : meetings[level]? = some (some (number, road)) := by
      rw [List.getElem?_take] at isEntry
      split at isEntry
      · exact isEntry.symm
      · cases isEntry
    exact (tree.meeting_iff found met isThere _).mp rfl

end IsTree

end Graph

namespace Diagram

variable [Scalar α] {diagram : Diagram α}

/--
The boundary number of each box of a resolved diagram is the least level with a gap in the
direction, or else one more than the number of containers around the box.  The roads onto
which the box leaves are therefore those next to the box and to the containers around it,
one for each level up to the boundary number, the ceiling and the depth of the box, and
nothing stands between the box and any of them.
-/
theorem boundary_of_ofOutline
    {outline : Outline}
    (resolved : ofOutline outline = .ok diagram)
    {id : NodeId}
    {node : Node α}
    (found : diagram.graph.get? id = some node)
    (direction : Direction) :
    (IsLeast {level | diagram.graph.HasGapAt node direction level}
          (node.boundary.toward direction) ∨
        (∀ level, ¬ diagram.graph.HasGapAt node direction level) ∧
          node.boundary.toward direction = node.depth + 1) ∧
      ∀ ceiling, ∃ roads, diagram.graph.exitRoads id direction ceiling = .ok roads ∧
        roads.length = min (min (node.boundary.toward direction) ceiling) node.depth ∧
          ∀ level number road, roads[level]? = some (number, road) →
            number = level + 1 ∧
              (∃ below container,
                diagram.graph.MeetsRoad node direction level road below container) ∧
                ∀ sibling, ¬ diagram.graph.StandsBetween node direction road sibling := by
  have tree := (isResolved_of_ofOutline resolved).tree
  refine ⟨tree.isLeast_boundary (tree.get?_id found) direction, fun ceiling => ?_⟩
  obtain ⟨roads, succeeded, counted, areMet⟩ :=
    tree.exists_exitRoads_by_level found direction ceiling
  refine ⟨roads, succeeded, counted, fun level number road isThere => ?_⟩
  obtain ⟨numberEq, below, container, meets⟩ := areMet level number road isThere
  have inside : level < roads.length := (List.getElem?_eq_some_iff.mp isThere).1
  exact ⟨numberEq, ⟨below, container, meets⟩, fun sibling =>
    tree.not_standsBetween (tree.get?_id found) meets (by omega)⟩

/-- A box in a row that runs to the left meets, going down, the box below the row. -/
theorem exists_boundary_of_ofOutline :
    ∃ (outline : Outline) (diagram : Diagram Rat) (node : Node Rat),
      ofOutline outline = .ok diagram ∧ diagram.graph.get? 2 = some node ∧
        IsLeast {level | diagram.graph.HasGapAt node .left level} 1 ∧
          IsLeast {level | diagram.graph.HasGapAt node .down level} 2 ∧
            (∀ level, ¬ diagram.graph.HasGapAt node .right level) ∧
              diagram.graph.exitRoads 2 .down 2 = .ok [(1, .cross 1 1), (2, .main 0 1)] ∧
                ∀ sibling, ¬ diagram.graph.StandsBetween node .down (.main 0 1) sibling := by
  have reads :
      ((Outline.read "[g direction=row_reverse]\n(.a)\n(.b)\n(c)").toOption.bind fun outline =>
          (ofOutline outline : Except _ (Diagram Rat)).toOption.bind fun diagram =>
            (diagram.graph.get? 2).map fun node =>
              (node.boundary, node.depth, (diagram.graph.exitRoads 2 .down 2).toOption)) =
        some (⟨3, 2, 1, 3⟩, 2, some [(1, .cross 1 1), (2, .main 0 1)]) := by
    decide +kernel
  obtain ⟨outline, _, reads⟩ := Option.bind_eq_some_iff.mp reads
  obtain ⟨diagram, resolved, reads⟩ := Option.bind_eq_some_iff.mp reads
  obtain ⟨node, found, facts⟩ := Option.map_eq_some_iff.mp reads
  have resolved := Attempt.toOption_eq_some_iff.mp resolved
  simp only [Prod.mk.injEq, Attempt.toOption_eq_some_iff] at facts
  obtain ⟨isBoundary, isDepth, exits⟩ := facts
  obtain ⟨leftward, _⟩ := boundary_of_ofOutline resolved found .left
  obtain ⟨downward, leaves⟩ := boundary_of_ofOutline resolved found .down
  obtain ⟨rightward, _⟩ := boundary_of_ofOutline resolved found .right
  obtain ⟨roads, succeeded, _, areMet⟩ := leaves 2
  obtain rfl := Except.ok.inj (exits.symm.trans succeeded)
  rw [isBoundary, isDepth] at leftward downward rightward
  refine ⟨outline, diagram, node, resolved, found, ?_, ?_, ?_, exits, ?_⟩
  · exact leftward.resolve_right fun other => absurd other.2 (by decide)
  · exact downward.resolve_right fun other => absurd other.2 (by decide)
  · rcases rightward with least | none
    · have := least.1.le_depth
      rw [isDepth] at this
      exact absurd this (by decide)
    · exact none.1
  · exact (areMet 1 2 (.main 0 1) rfl).2.2

end Diagram

end BoxDiagram
