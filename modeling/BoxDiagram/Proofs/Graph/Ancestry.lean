import BoxDiagram.Proofs.Graph.Paths
import Mathlib.Data.Nat.Find

namespace BoxDiagram

open Outline (Box)

/-!
# Questions about containers

A graph answers questions about containers from the chain that it stores with each box,
and never follows a parent.  In the graph of an outline the answers are those that the
parents give, and the order of the numbers agrees with them: a box and all that lies in
it have consecutive numbers, and boxes in different children of one container are
numbered in the order of these children.
-/

variable {α : Type}

namespace Graph

/-- The box that a number of steps, each from a box to its parent, leads to. -/
def risen? (graph : Graph α) : Nat → NodeId → Option NodeId
  | 0, id => some id
  | level + 1, id => do
      let node ← graph.get? id
      graph.risen? level (← node.parent)

/-- A number is the first one after those of a box and of all boxes in it. -/
structure IsPast (graph : Graph α) (id past : NodeId) : Prop where
  later : ∀ inner, graph.AtOrAbove id inner → inner < past
  first : ∀ bound, (∀ inner, graph.AtOrAbove id inner → inner < bound) → past ≤ bound

/-- A container is the deepest one around two boxes. -/
structure IsDeepestCommon
    (graph : Graph α)
    (container : Node α)
    (first second : NodeId) : Prop where
  found : graph.get? container.id = some container
  aboveFirst : graph.Above container.id first
  aboveSecond : graph.Above container.id second
  deepest :
    ∀ other, graph.get? other.id = some other →
      graph.Above other.id first → graph.Above other.id second →
        other = container ∨ other.depth < container.depth

/-- A child of a container is a box or lies around it. -/
structure IsBranch (graph : Graph α) (container child : Node α) (id : NodeId) : Prop where
  found : graph.get? child.id = some child
  holds : container.Holds child
  atOrAbove : graph.AtOrAbove child.id id

/-- Boxes in different children of one container are numbered in the order of these. -/
def IsPreorder (graph : Graph α) : Prop :=
  ∀ container child sibling, graph.AreSiblings container child sibling →
    ∀ first second, graph.AtOrAbove child.id first → graph.AtOrAbove sibling.id second →
      child.index < sibling.index → first < second

/-- What a graph answers about containers is what the parents of its boxes say. -/
structure KnowsContainers (graph : Graph α) : Prop where
  /-- A box lies in another one exactly if its number is among those the other one takes up. -/
  isAncestor :
    ∀ first < graph.size, ∃ past, graph.IsPast first past ∧
      ∀ second < graph.size, ∃ answer, graph.isAncestor first second = .ok answer ∧
        (answer = true ↔ graph.Above first second) ∧
          (answer = true ↔ first < second ∧ second < past)
  ancestorAt :
    ∀ id node, graph.get? id = some node →
      ∀ level, graph.ancestorAt id level = .ok (graph.risen? level id) ∧
        ((graph.risen? level id).isSome ↔ level ≤ node.depth)
  commonAncestor :
    ∀ first < graph.size, ∀ second < graph.size, ∃ answer,
      graph.commonAncestor first second = .ok answer ∧
        graph.commonAncestor second first = .ok answer ∧
          (∀ common, answer = some common ↔
            ∃ container, container.id = common ∧
              graph.IsDeepestCommon container first second) ∧
            (answer = none ↔ first = NodeId.root ∨ second = NodeId.root)
  /-- Boxes apart lie in different children of their deepest container, in their order. -/
  branches :
    ∀ first < graph.size, ∀ second < graph.size,
      first ≠ second → ¬ graph.Above first second → ¬ graph.Above second first →
        ∃ container, graph.get? container.id = some container ∧
          graph.commonAncestor first second = .ok (some container.id) ∧
            (∃ child, graph.IsBranch container child first) ∧
              (∃ sibling, graph.IsBranch container sibling second) ∧
                ∀ child sibling, graph.IsBranch container child first →
                  graph.IsBranch container sibling second →
                    child.id ≠ sibling.id ∧
                      (child.index < sibling.index ↔ first < second) ∧
                        (child.id < sibling.id ↔ first < second)

variable {graph : Graph α}

/-- A box at or below a box of the graph is in the graph. -/
theorem AtOrAbove.exists_get?
    {outer inner : NodeId}
    {node : Node α}
    (above : graph.AtOrAbove outer inner)
    (found : graph.get? outer = some node) :
    ∃ other, graph.get? inner = some other := by
  rcases Relation.ReflTransGen.cases_tail above with isSame | ⟨_, _, other, otherFound, _⟩
  · exact ⟨node, isSame ▸ found⟩
  · exact ⟨other, otherFound⟩

namespace IsTree

variable (tree : graph.IsTree)
include tree

/-- Steps to parents go outward along the chain that is stored with a box. -/
theorem risen?_eq
    {id : NodeId}
    {node : Node α}
    (found : graph.get? id = some node)
    (level : Nat) :
    graph.risen? level id = node.outward[level]? := by
  induction level generalizing id node with
  | zero =>
      simp [risen?, Node.outward, tree.id_of_get? found]
  | succ level inductionHypothesis =>
      rcases tree.parent_of_get? found with isTop | ⟨parent, parentFound, holds⟩
      · simp [risen?, found, isTop.parent_eq, Node.outward, isTop.ancestors_eq]
      · simp [risen?, found, holds.parent_eq, holds.outward_eq, inductionHypothesis parentFound]

/-- What is above a box is not deeper. -/
theorem depth_le_of_atOrAbove
    {outer inner : Node α}
    (outerFound : graph.get? outer.id = some outer)
    (innerFound : graph.get? inner.id = some inner)
    (above : graph.AtOrAbove outer.id inner.id) :
    outer.depth ≤ inner.depth := by
  obtain ⟨level, container, _, sameId, isOuter⟩ :=
    tree.exists_isOuter_of_mem innerFound ((tree.atOrAbove_iff innerFound).mp above)
  have containerFound := isOuter.found
  rw [sameId, outerFound] at containerFound
  obtain rfl := Option.some.inj containerFound
  have := isOuter.depth_eq
  omega

/-- The box in which another one lies is nearer to the root. -/
theorem depth_lt_of_above
    {outer inner : Node α}
    (outerFound : graph.get? outer.id = some outer)
    (innerFound : graph.get? inner.id = some inner)
    (above : graph.Above outer.id inner.id) :
    outer.depth < inner.depth := by
  obtain ⟨_, atOrAbove, isParent⟩ := Relation.TransGen.tail'_iff.mp above
  obtain ⟨holder, holderFound, rfl, holds⟩ := tree.exists_holds_of_isParent innerFound isParent
  have := tree.depth_le_of_atOrAbove outerFound holderFound atOrAbove
  have := holds.depth_eq
  omega

/-- A container is numbered before what lies in it. -/
theorem lt_of_above
    {outer inner : NodeId}
    (above : graph.Above outer inner) :
    outer < inner := by
  have before {parent child : NodeId} (isParent : graph.IsParent parent child) :
      parent < child := by
    have ⟨node, found, _⟩ := isParent
    obtain ⟨holder, _, rfl, holds⟩ := tree.exists_holds_of_isParent found isParent
    exact tree.id_of_get? found ▸ holds.before
  induction above with
  | single isParent =>
      exact before isParent
  | tail _ isParent inductionHypothesis =>
      exact Nat.lt_trans inductionHypothesis (before isParent)

omit tree in
/-- There is a first number behind the boxes in a box. -/
theorem exists_isPast
    {id : NodeId}
    {node : Node α}
    (found : graph.get? id = some node) :
    ∃ past, graph.IsPast id past := by
  classical
  have bounded : ∃ bound, ∀ inner, graph.AtOrAbove id inner → inner < bound :=
    ⟨graph.size, fun _ above => exists_get?_iff.mp (above.exists_get? found)⟩
  exact ⟨Nat.find bounded, Nat.find_spec bounded, fun _ isBound => Nat.find_min' bounded isBound⟩

/-- The numbers of the boxes in a container follow its own without a gap. -/
theorem above_iff_of_isPast
    (preorder : graph.IsPreorder)
    {first second past : NodeId}
    {source target : Node α}
    (sourceFound : graph.get? first = some source)
    (targetFound : graph.get? second = some target)
    (isPast : graph.IsPast first past) :
    graph.Above first second ↔ first < second ∧ second < past := by
  constructor
  · intro above
    exact ⟨tree.lt_of_above above, isPast.later second above.atOrAbove⟩
  · rintro ⟨after, beforePast⟩
    rcases tree.related_or_apart sourceFound targetFound with
      atOrAbove | below | ⟨container, child, sibling, areSiblings, aroundFirst, aroundSecond⟩
    · rcases atOrAbove.eq_or_above with isSame | above
      · exact absurd after (isSame ▸ Nat.lt_irrefl _)
      · exact above
    · exact absurd (tree.lt_of_above below) (Nat.lt_asymm after)
    · have inOrder : child.index < sibling.index := by
        rcases Nat.lt_or_gt_of_ne areSiblings.differ with before | behind
        · exact before
        · have := preorder _ _ _ areSiblings.symm _ _ aroundSecond aroundFirst behind
          exact absurd this (Nat.lt_asymm after)
      -- The second box comes after all that the first one holds.
      have allBefore : ∀ inner, graph.AtOrAbove first inner → inner < second :=
        fun inner above =>
          preorder _ _ _ areSiblings _ _ (aroundFirst.trans above) aroundSecond inOrder
      exact absurd (isPast.first second allBefore) (Nat.not_le.mpr beforePast)

/-- The first common container on the way outward is the deepest one. -/
theorem isDeepestCommon_of_isCommon
    {container : Node α}
    {first second : NodeId}
    (found : graph.get? container.id = some container)
    (isCommon : graph.IsCommon container.id first second) :
    graph.IsDeepestCommon container first second := by
  refine ⟨found, isCommon.aboveFirst, isCommon.aboveSecond, ?_⟩
  intro other otherFound aboveFirst aboveSecond
  rcases (isCommon.innermost other.id aboveFirst aboveSecond).eq_or_above with isSame | above
  · rw [isSame, otherFound] at found
    exact .inl (Option.some.inj found)
  · exact .inr (tree.depth_lt_of_above otherFound found above)

end IsTree

/-- Two boxes have one deepest common container. -/
theorem IsDeepestCommon.unique
    {container other : Node α}
    {first second : NodeId}
    (isDeepest : graph.IsDeepestCommon container first second)
    (isOther : graph.IsDeepestCommon other first second) :
    other = container := by
  rcases isDeepest.deepest other isOther.found isOther.aboveFirst isOther.aboveSecond with
    isSame | shallower
  · exact isSame
  rcases isOther.deepest container isDeepest.found isDeepest.aboveFirst isDeepest.aboveSecond with
    isSame | deeper
  · exact isSame.symm
  · exact absurd shallower (Nat.lt_asymm deeper)

/-- The deepest common container does not depend on the order of the boxes. -/
theorem IsDeepestCommon.symm
    {container : Node α}
    {first second : NodeId}
    (isDeepest : graph.IsDeepestCommon container first second) :
    graph.IsDeepestCommon container second first :=
  ⟨isDeepest.found, isDeepest.aboveSecond, isDeepest.aboveFirst,
    fun other found aboveSecond aboveFirst =>
      isDeepest.deepest other found aboveFirst aboveSecond⟩

namespace IsTree

variable (tree : graph.IsTree)
include tree

/-- Nothing lies around the root. -/
theorem not_above_root
    {outer : NodeId} :
    ¬ graph.Above outer NodeId.root :=
  fun above => Nat.not_lt_zero _ (tree.lt_of_above above)

/-- All boxes but the root are inside of another one. -/
theorem depth_pos
    {id : NodeId}
    {node : Node α}
    (found : graph.get? id = some node)
    (notRoot : id ≠ NodeId.root) :
    0 < node.depth := by
  rcases tree.parent_of_get? found with isTop | ⟨parent, _, holds⟩
  · exact absurd ((tree.id_of_get? found).symm.trans isTop.id_eq) notRoot
  · exact holds.depth_eq ▸ Nat.succ_pos _

/-- Two boxes below the root have a deepest container, and it is found. -/
theorem exists_isDeepestCommon
    {first second : NodeId}
    {source target : Node α}
    (sourceFound : graph.get? first = some source)
    (targetFound : graph.get? second = some target)
    (firstInside : first ≠ NodeId.root)
    (secondInside : second ≠ NodeId.root) :
    ∃ container, graph.commonAncestor first second = .ok (some container.id) ∧
      graph.IsDeepestCommon container first second := by
  obtain ⟨common, isFound⟩ :=
    tree.exists_commonAncestor sourceFound targetFound
      (tree.depth_pos sourceFound firstInside) (tree.depth_pos targetFound secondInside)
  have isCommon := tree.isCommon_of_commonAncestor sourceFound targetFound isFound
  have outward : common ∈ source.outward :=
    (tree.atOrAbove_iff sourceFound).mp isCommon.aboveFirst.atOrAbove
  obtain ⟨_, container, _, rfl, isOuter⟩ := tree.exists_isOuter_of_mem sourceFound outward
  exact ⟨container, isFound, tree.isDeepestCommon_of_isCommon isOuter.found isCommon⟩

/-- The chain of one box is searched for a container of the other, which the root never has. -/
theorem commonAncestor_eq_none
    {first second : NodeId}
    {source target : Node α}
    (sourceFound : graph.get? first = some source)
    (targetFound : graph.get? second = some target)
    (atRoot : first = NodeId.root ∨ second = NodeId.root) :
    graph.commonAncestor first second = .ok none := by
  rw [commonAncestor_eq sourceFound targetFound, Except.ok.injEq, List.find?_eq_none]
  intro common inSource inTarget
  have aboveFirst := (tree.above_iff sourceFound).mpr (List.mem_reverse.mp inSource)
  have aboveSecond := (tree.above_iff targetFound).mpr (List.contains_iff_mem.mp inTarget)
  rcases atRoot with rfl | rfl
  · exact tree.not_above_root aboveFirst
  · exact tree.not_above_root aboveSecond

/-- The deepest container of two boxes is found in both orders, unless one of them is the root. -/
theorem exists_commonAncestor_eq
    {first second : NodeId}
    {source target : Node α}
    (sourceFound : graph.get? first = some source)
    (targetFound : graph.get? second = some target) :
    ∃ answer, graph.commonAncestor first second = .ok answer ∧
      graph.commonAncestor second first = .ok answer ∧
        (∀ common, answer = some common ↔
          ∃ container, container.id = common ∧ graph.IsDeepestCommon container first second) ∧
          (answer = none ↔ first = NodeId.root ∨ second = NodeId.root) := by
  by_cases atRoot : first = NodeId.root ∨ second = NodeId.root
  · refine ⟨none, tree.commonAncestor_eq_none sourceFound targetFound atRoot,
      tree.commonAncestor_eq_none targetFound sourceFound atRoot.symm, ?_, by simp [atRoot]⟩
    intro common
    constructor
    · intro isSome
      cases isSome
    · rintro ⟨container, rfl, isDeepest⟩
      rcases atRoot with rfl | rfl
      · exact absurd isDeepest.aboveFirst tree.not_above_root
      · exact absurd isDeepest.aboveSecond tree.not_above_root
  · have ⟨firstInside, secondInside⟩ := not_or.mp atRoot
    obtain ⟨container, isFound, isDeepest⟩ :=
      tree.exists_isDeepestCommon sourceFound targetFound firstInside secondInside
    obtain ⟨other, isFoundBack, isDeepestBack⟩ :=
      tree.exists_isDeepestCommon targetFound sourceFound secondInside firstInside
    obtain rfl := isDeepest.unique isDeepestBack.symm
    refine ⟨some other.id, isFound, isFoundBack, ?_, by simp [atRoot]⟩
    intro common
    constructor
    · intro isSome
      exact ⟨other, Option.some.inj isSome, isDeepest⟩
    · rintro ⟨container, rfl, isOther⟩
      rw [isDeepest.unique isOther]

omit tree in
/-- Children of the deepest container around two boxes that lie apart are different. -/
theorem areSiblings_of_isBranch
    {container child sibling : Node α}
    {first second : NodeId}
    (isDeepest : graph.IsDeepestCommon container first second)
    (isChild : graph.IsBranch container child first)
    (isSibling : graph.IsBranch container sibling second)
    (differ : first ≠ second)
    (notAbove : ¬ graph.Above first second)
    (notBelow : ¬ graph.Above second first) :
    graph.AreSiblings container child sibling := by
  refine ⟨isDeepest.found, isChild.found, isSibling.found, isChild.holds, isSibling.holds, ?_⟩
  intro sameIndex
  obtain rfl :=
    eq_of_index_eq isChild.found isSibling.found isChild.holds isSibling.holds sameIndex
  rcases isChild.atOrAbove.eq_or_above with rfl | aboveFirst
  · rcases isSibling.atOrAbove.eq_or_above with rfl | aboveSecond
    · exact differ rfl
    · exact notAbove aboveSecond
  rcases isSibling.atOrAbove.eq_or_above with rfl | aboveSecond
  · exact notBelow aboveFirst
  have deeper := isChild.holds.depth_eq
  rcases isDeepest.deepest child isChild.found aboveFirst aboveSecond with rfl | shallower
  · omega
  · omega

/-- In a tree whose numbers follow the order of children, the stored chains tell of the parents. -/
theorem knowsContainers
    (preorder : graph.IsPreorder) :
    graph.KnowsContainers := by
  constructor
  case isAncestor =>
    intro first firstInside
    obtain ⟨source, sourceFound⟩ := exists_get?_iff.mpr firstInside
    obtain ⟨past, isPast⟩ := exists_isPast sourceFound
    refine ⟨past, isPast, fun second secondInside => ?_⟩
    obtain ⟨target, targetFound⟩ := exists_get?_iff.mpr secondInside
    have answer_iff : target.ancestors.contains first = true ↔ graph.Above first second := by
      rw [List.contains_iff_mem, tree.above_iff targetFound]
    refine ⟨target.ancestors.contains first, ?_, answer_iff, ?_⟩
    · rw [Graph.isAncestor, find_eq_ok_iff.mpr targetFound]
      rfl
    · rw [answer_iff, tree.above_iff_of_isPast preorder sourceFound targetFound isPast]
  case ancestorAt =>
    intro id node found level
    rw [tree.risen?_eq found, tree.ancestorAt_eq found]
    refine ⟨rfl, ?_⟩
    rw [isSome_getElem?, Node.length_outward, Nat.lt_succ_iff]
  case commonAncestor =>
    intro first firstInside second secondInside
    obtain ⟨source, sourceFound⟩ := exists_get?_iff.mpr firstInside
    obtain ⟨target, targetFound⟩ := exists_get?_iff.mpr secondInside
    exact tree.exists_commonAncestor_eq sourceFound targetFound
  case branches =>
    intro first firstInside second secondInside differ notAbove notBelow
    obtain ⟨source, sourceFound⟩ := exists_get?_iff.mpr firstInside
    obtain ⟨target, targetFound⟩ := exists_get?_iff.mpr secondInside
    have notRoot : first ≠ NodeId.root ∧ second ≠ NodeId.root := by
      constructor
      · rintro rfl
        rcases (tree.atOrAbove_root targetFound).eq_or_above with isSame | above
        · exact differ isSame.symm
        · exact notAbove above
      · rintro rfl
        rcases (tree.atOrAbove_root sourceFound).eq_or_above with isSame | above
        · exact differ isSame
        · exact notBelow above
    obtain ⟨container, isFound, isDeepest⟩ :=
      tree.exists_isDeepestCommon sourceFound targetFound notRoot.1 notRoot.2
    have exists_isBranch {id : NodeId} (above : graph.Above container.id id) :
        ∃ child, graph.IsBranch container child id := by
      obtain ⟨child, found, holds, atOrAbove⟩ := tree.exists_child_of_above isDeepest.found above
      exact ⟨child, found, holds, atOrAbove⟩
    refine ⟨container, isDeepest.found, isFound, exists_isBranch isDeepest.aboveFirst,
      exists_isBranch isDeepest.aboveSecond, ?_⟩
    intro child sibling isChild isSibling
    have areSiblings :=
      areSiblings_of_isBranch isDeepest isChild isSibling differ notAbove notBelow
    have ordered := preorder _ _ _ areSiblings
    have orderedBack := preorder _ _ _ areSiblings.symm
    rcases Nat.lt_or_gt_of_ne areSiblings.differ with before | behind
    · have inOrder := ordered _ _ isChild.atOrAbove isSibling.atOrAbove before
      have childBefore := ordered _ _ .refl .refl before
      exact ⟨Nat.ne_of_lt childBefore, by simp [before, inOrder], by simp [childBefore, inOrder]⟩
    · have inOrder := orderedBack _ _ isSibling.atOrAbove isChild.atOrAbove behind
      have childBehind := orderedBack _ _ .refl .refl behind
      exact ⟨Nat.ne_of_gt childBehind, by simp [Nat.lt_asymm behind, Nat.lt_asymm inOrder],
        by simp [Nat.lt_asymm childBehind, Nat.lt_asymm inOrder]⟩

end IsTree

end Graph

variable [Scalar α]

namespace Numbered

variable {document : Document α} {root : Box} {placed : List (Placed α)}
variable (numbered : Numbered document .root NodeId.root root placed)
include numbered

/-- The address of a box in a child goes on from the container by the position of the child. -/
theorem exists_address_of_isBranch
    {holder : Placed α}
    (isHolder : holder ∈ placed)
    {child : Node α}
    {id : NodeId}
    (isBranch : Graph.IsBranch ⟨(placed.map (·.node)).toArray⟩ holder.node child id) :
    ∃ found ∈ placed, found.node.id = id ∧
      ∃ rest, found.address = holder.address ++ child.index :: rest := by
  obtain ⟨placedChild, childMember, sameId, _, addressEq, _⟩ :=
    numbered.exists_child holder isHolder _ _ isBranch.holds.listed
  obtain ⟨node, isNode⟩ := isBranch.atOrAbove.exists_get? isBranch.found
  obtain ⟨found, member, _, rfl⟩ := numbered.exists_placed_of_get? isNode
  have atOrAbove := isBranch.atOrAbove
  rw [← sameId, numbered.atOrAbove_iff_prefix childMember member, addressEq] at atOrAbove
  obtain ⟨rest, splits⟩ := atOrAbove
  exact ⟨found, member, rfl, rest, by simp [← splits]⟩

/-- Addresses in different children of one container are in the order of these children. -/
theorem isPreorder :
    Graph.IsPreorder ⟨(placed.map (·.node)).toArray⟩ := by
  intro container child sibling areSiblings first second aroundFirst aroundSecond inOrder
  obtain ⟨holder, isHolder, rfl, _⟩ := numbered.exists_placed_of_get? areSiblings.containerFound
  obtain ⟨source, isSource, rfl, inChild, sourceEq⟩ :=
    numbered.exists_address_of_isBranch isHolder
      ⟨areSiblings.childFound, areSiblings.holds, aroundFirst⟩
  obtain ⟨target, isTarget, rfl, inSibling, targetEq⟩ :=
    numbered.exists_address_of_isBranch isHolder
      ⟨areSiblings.siblingFound, areSiblings.holdsSibling, aroundSecond⟩
  rw [numbered.id_lt_iff isSource isTarget, sourceEq, targetEq]
  exact List.append_left_lt (.rel inOrder)

end Numbered

namespace Diagram

/--
In the graph of an outline, what is answered from the stored chains of containers is what
the parents say: whether a box lies in another one, which also the numbers tell; the
container a number of levels up; and the deepest container around two boxes, whose
different children hold boxes that lie apart, in the order of their numbers.
-/
theorem knowsContainers_of_ofOutline
    {outline : Outline}
    {diagram : Diagram α}
    (succeeded : ofOutline outline = .ok diagram) :
    diagram.graph.KnowsContainers := by
  obtain ⟨placed, _, _, numbered, graphEq, _⟩ := exists_numbered_of_ofOutline succeeded
  rw [graphEq]
  exact numbered.isTree.knowsContainers numbered.isPreorder

/-- Of the boxes of two units, those of the first come first, and only the root holds both. -/
theorem exists_knowsContainers_of_ofOutline :
    ∃ (outline : Outline) (diagram : Diagram Rat),
      ofOutline outline = .ok diagram ∧
        diagram.graph.nodes.toList.map (·.ancestors) =
          [[], [0], [0, 1], [0, 1], [0], [0, 4]] ∧
          diagram.graph.commonAncestor 2 5 = .ok (some 0) ∧
            diagram.graph.ancestorAt 3 1 = .ok (some 1) ∧ diagram.graph.KnowsContainers := by
  let unit (name : String) (inner : List String) : Box :=
    { Box.leaf .unit (some name) .zero .origin with
      children := inner.map fun name => .leaf .cell (some name) .zero .origin }
  let children : List Box := [unit "a" ["b", "c"], unit "d" ["e"]]
  let outline : Outline := { Outline.empty with root := { Box.root with children } }
  have answers :
      ((ofOutline outline : Except _ (Diagram Rat)).toOption.map fun diagram =>
          (diagram.graph.nodes.toList.map (·.ancestors),
            (diagram.graph.commonAncestor 2 5).toOption,
              (diagram.graph.ancestorAt 3 1).toOption)) =
        some ([[], [0], [0, 1], [0, 1], [0], [0, 4]], some (some 0), some (some 1)) := by
    decide +kernel
  obtain ⟨diagram, resolved, answers⟩ := Option.map_eq_some_iff.mp answers
  have resolved := Attempt.toOption_eq_some_iff.mp resolved
  simp only [Prod.mk.injEq, Attempt.toOption_eq_some_iff] at answers
  exact ⟨outline, diagram, resolved, answers.1, answers.2.1, answers.2.2,
    knowsContainers_of_ofOutline resolved⟩

end Diagram

end BoxDiagram
