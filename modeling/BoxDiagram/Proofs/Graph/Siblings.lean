import BoxDiagram.Proofs.Graph.Ancestors

namespace BoxDiagram

/-!
# Boxes beside each other

Of two boxes one lies around the other, or both lie in, or are, different children of one
container.  A line that leaves a box and has not yet come to a gap between siblings has
left only containers that are the last ones in its direction.
-/

variable {α : Type} {graph : Graph α}

/-- One child of a container lies ahead of another one, going in a direction along its flow. -/
def Node.IsAhead (container : Node α) (direction : Direction) (index other : Nat) : Prop :=
  direction = container.itemFrame.main ∧ index < other ∨
    direction = container.itemFrame.main.reverse ∧ other < index

/-- Where the boundary of a child is not next to it, no sibling is ahead. -/
theorem not_isAhead_of_childBoundary
    {container : Node α}
    {direction : Direction}
    {index other : Nat}
    (inside : other < container.children.length)
    (passes : 1 < (childBoundary container index container.children.length).toward direction) :
    ¬ container.IsAhead direction index other := by
  rw [childBoundary, PerDirection.toward_ofFunction] at passes
  rintro (⟨isForward, ahead⟩ | ⟨isBackward, ahead⟩)
  · rw [if_pos ⟨isForward, by omega⟩] at passes
    omega
  · split at passes
    · omega
    · rw [if_pos ⟨isBackward, by omega⟩] at passes
      omega

namespace Graph

/-- Two different boxes are children of one container. -/
structure AreSiblings (graph : Graph α) (container child sibling : Node α) : Prop where
  containerFound : graph.get? container.id = some container
  childFound : graph.get? child.id = some child
  siblingFound : graph.get? sibling.id = some sibling
  holds : container.Holds child
  holdsSibling : container.Holds sibling
  differ : child.index ≠ sibling.index

theorem AreSiblings.symm
    {container child sibling : Node α}
    (areSiblings : graph.AreSiblings container child sibling) :
    graph.AreSiblings container sibling child :=
  ⟨areSiblings.containerFound, areSiblings.siblingFound, areSiblings.childFound,
    areSiblings.holdsSibling, areSiblings.holds, areSiblings.differ.symm⟩

/-- What is above a box is at or above it. -/
theorem Above.atOrAbove
    {outer inner : NodeId}
    (above : graph.Above outer inner) :
    graph.AtOrAbove outer inner :=
  Relation.TransGen.to_reflTransGen above

/-- A box at or above another one is this one itself or lies above it. -/
theorem AtOrAbove.eq_or_above
    {outer inner : NodeId}
    (above : graph.AtOrAbove outer inner) :
    inner = outer ∨ graph.Above outer inner :=
  Relation.reflTransGen_iff_eq_or_transGen.mp above

/-- A box further out is at or above the box. -/
theorem IsOuter.atOrAbove
    {node outer : Node α}
    {level : Nat}
    (tree : graph.IsTree)
    (found : graph.get? node.id = some node)
    (isOuter : graph.IsOuter node level outer) :
    graph.AtOrAbove outer.id node.id :=
  (tree.atOrAbove_iff found).mpr (List.mem_of_getElem? isOuter.getElem?_outward)

namespace IsTree

variable (tree : graph.IsTree)
include tree

/-- The outermost box is the root. -/
theorem id_eq_root_of_outermost
    {node top : Node α}
    (outermost : graph.IsOuter node node.depth top) :
    top.id = NodeId.root := by
  rcases tree.parent_of_get? outermost.found with isTop | ⟨_, _, holds⟩
  · exact isTop.id_eq
  · have := holds.depth_eq
    have := outermost.depth_eq
    omega

/-- The root lies at or above every box. -/
theorem atOrAbove_root
    {id : NodeId}
    {node : Node α}
    (found : graph.get? id = some node) :
    graph.AtOrAbove NodeId.root id := by
  obtain ⟨top, outermost⟩ := tree.exists_isOuter found node.depth (Nat.le_refl _)
  rw [← tree.id_eq_root_of_outermost outermost, ← tree.id_of_get? found]
  exact outermost.atOrAbove tree (tree.get?_id found)

/-- A container above a box has a child at or above it. -/
theorem exists_child_of_above
    {container : Node α}
    {id : NodeId}
    (found : graph.get? container.id = some container)
    (above : graph.Above container.id id) :
    ∃ child, graph.get? child.id = some child ∧ container.Holds child ∧
      graph.AtOrAbove child.id id := by
  obtain ⟨childId, isParent, atOrAbove⟩ := Relation.TransGen.head'_iff.mp above
  obtain ⟨child, childFound⟩ : ∃ child, graph.get? childId = some child :=
    isParent.imp fun _ => And.left
  obtain ⟨holder, holderFound, sameId, holds⟩ :=
    tree.exists_holds_of_isParent childFound isParent
  rw [sameId, found] at holderFound
  obtain rfl := Option.some.inj holderFound
  obtain rfl := tree.id_of_get? childFound
  exact ⟨child, childFound, holds, atOrAbove⟩

omit tree in
/-- No two children of a container stand at the same place. -/
theorem eq_of_index_eq
    {container child sibling : Node α}
    (found : graph.get? child.id = some child)
    (siblingFound : graph.get? sibling.id = some sibling)
    (holds : container.Holds child)
    (holdsSibling : container.Holds sibling)
    (same : child.index = sibling.index) :
    child = sibling := by
  have listed := holds.listed
  rw [same, holdsSibling.listed] at listed
  rw [← Option.some.inj listed, siblingFound] at found
  exact (Option.some.inj found).symm

/--
Of two boxes the first one lies at or above the second one, or the second one above the
first one, or they lie in, or are, siblings.
-/
theorem related_or_apart
    {first second : NodeId}
    {node other : Node α}
    (found : graph.get? first = some node)
    (otherFound : graph.get? second = some other) :
    graph.AtOrAbove first second ∨ graph.Above second first ∨
      ∃ container child sibling, graph.AreSiblings container child sibling ∧
        graph.AtOrAbove child.id first ∧ graph.AtOrAbove sibling.id second := by
  induction isDeep : other.depth generalizing second other with
  | zero =>
      obtain ⟨top, outermost⟩ := tree.exists_isOuter otherFound other.depth (Nat.le_refl _)
      obtain rfl : top = other := by
        rw [isDeep] at outermost
        exact outermost.unique (tree.isOuter_self otherFound)
      have isRoot := tree.id_eq_root_of_outermost outermost
      rw [tree.id_of_get? otherFound] at isRoot
      subst isRoot
      rcases (tree.atOrAbove_root found).eq_or_above with rfl | above
      · exact .inl .refl
      · exact .inr (.inl above)
  | succ depth inductionHypothesis =>
      obtain ⟨container, containerFound, holds⟩ := tree.exists_holds otherFound (by omega)
      have isParent := isParent_of_holds otherFound holds
      have shallower : container.depth = depth := by
        have := holds.depth_eq
        omega
      rcases inductionHypothesis containerFound shallower with
        atOrAbove | above | ⟨holder, child, sibling, areSiblings, aboveFirst, aboveContainer⟩
      · exact .inl (atOrAbove.tail isParent)
      · obtain ⟨child, childFound, holdsChild, atOrAbove⟩ :=
          tree.exists_child_of_above containerFound above
        have sameId := tree.id_of_get? otherFound
        by_cases same : child.index = other.index
        · obtain rfl :=
            eq_of_index_eq childFound (tree.get?_id otherFound) holdsChild holds same
          rw [sameId] at atOrAbove
          rcases atOrAbove.eq_or_above with rfl | above
          · exact .inl .refl
          · exact .inr (.inl above)
        · exact .inr (.inr ⟨container, child, other,
            ⟨containerFound, childFound, tree.get?_id otherFound, holdsChild, holds, same⟩,
            atOrAbove, sameId ▸ .refl⟩)
      · exact .inr (.inr ⟨holder, child, sibling, areSiblings, aboveFirst,
          aboveContainer.tail isParent⟩)

/--
A line that leaves a box and goes on at a level within its boundary number passes no
sibling at an earlier level.
-/
theorem not_isAhead_of_lt_boundary
    {node container child sibling : Node α}
    {direction : Direction}
    {level : Nat}
    (found : graph.get? node.id = some node)
    (isOuter : graph.IsOuter node level child)
    (areSiblings : graph.AreSiblings container child sibling)
    (passes : level + 1 < node.boundary.toward direction) :
    ¬ container.IsAhead direction child.index sibling.index := by
  induction level generalizing node with
  | zero =>
      obtain rfl := isOuter.unique (tree.isOuter_self found)
      rw [areSiblings.holds.boundary_eq] at passes
      exact not_isAhead_of_childBoundary areSiblings.holdsSibling.index_lt passes
  | succ level inductionHypothesis =>
      obtain ⟨parent, parentFound, holds⟩ :=
        tree.exists_holds found (by have := isOuter.depth_eq; omega)
      have isOuterParent : graph.IsOuter parent level child :=
        (IsOuter.of_holds parentFound holds).between isOuter (by omega)
      refine inductionHypothesis parentFound isOuterParent ?_
      rw [holds.boundary_eq, childBoundary, PerDirection.toward_ofFunction] at passes
      split at passes
      · omega
      · split at passes <;> omega

end IsTree

end Graph

end BoxDiagram
