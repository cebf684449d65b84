import BoxDiagram.Proofs.Graph.Tree
import Mathlib.Logic.Relation

namespace BoxDiagram

/-!
# Containers around a box

A graph stores with each box the numbers of all containers around it.  In a tree
this list agrees with the parents, so that a number of levels upward names one
box, and two boxes neither of which contains the other lie in one innermost
container.
-/

variable {α : Type} {graph : Graph α}

namespace Node

/-- The way outward from a box has one box more than its depth. -/
@[simp] theorem length_outward
    (node : Node α) :
    node.outward.length = node.depth + 1 := by
  simp [outward, depth]

/-- Outward from a box come the box itself and what is outward from its parent. -/
theorem Holds.outward_eq
    {parent child : Node α}
    (holds : parent.Holds child) :
    child.outward = child.id :: parent.outward := by
  simp [outward, holds.ancestors_eq]

/-- A child is one level deeper than its container. -/
theorem Holds.depth_eq
    {parent child : Node α}
    (holds : parent.Holds child) :
    child.depth = parent.depth + 1 := by
  simp [depth, holds.ancestors_eq]

/-- A child stands among the children of its container. -/
theorem Holds.index_lt
    {parent child : Node α}
    (holds : parent.Holds child) :
    child.index < parent.children.length :=
  (List.getElem?_eq_some_iff.mp holds.listed).1

end Node

namespace Graph

/-- A box is found exactly if the graph has it. -/
theorem find_eq_ok_iff
    {id : NodeId}
    {node : Node α} :
    graph.find id = .ok node ↔ graph.get? id = some node := by
  rw [find]
  cases graph.get? id <;> simp

/-- The numbers of boxes are those below the size of the graph. -/
theorem exists_get?_iff
    {id : NodeId} :
    (∃ node, graph.get? id = some node) ↔ id < graph.size := by
  constructor
  · rintro ⟨node, found⟩
    exact (Array.getElem?_eq_some_iff.mp found).1
  · intro inside
    exact ⟨graph.nodes[id], Array.getElem?_eq_getElem inside⟩

/-- A box under its own number finds what is outward from it. -/
theorem ancestorAt_eq_outward
    {id : NodeId}
    {node : Node α}
    (found : graph.get? id = some node)
    (isNumber : node.id = id)
    (level : Nat) :
    graph.ancestorAt id level = .ok node.outward[level]? := by
  rw [ancestorAt]
  cases level with
  | zero =>
      rw [if_pos rfl, Node.outward, isNumber]
      rfl
  | succ level =>
      rw [if_neg (Nat.succ_ne_zero level), find_eq_ok_iff.mpr found]
      by_cases inside : level + 1 ≤ node.depth
      · have mirrored : node.ancestors.length - 1 - level = node.depth - (level + 1) := by
          simp only [Node.depth]
          omega
        have reversed :
            node.ancestors.reverse[level]? = node.ancestors[node.depth - (level + 1)]? := by
          rw [List.getElem?_reverse inside, mirrored]
        rw [Node.outward, List.getElem?_cons_succ, reversed]
        exact if_pos inside
      · have outside : node.outward[level + 1]? = none := by
          rw [List.getElem?_eq_none]
          simp only [Node.length_outward]
          omega
        rw [outside]
        exact if_neg inside

/-- A box lies directly in a container. -/
def IsParent (graph : Graph α) (parent child : NodeId) : Prop :=
  ∃ node, graph.get? child = some node ∧ node.parent = some parent

/-- A box lies in a container, directly or through other ones. -/
def Above (graph : Graph α) : NodeId → NodeId → Prop :=
  Relation.TransGen graph.IsParent

/-- A container is another one or lies around it. -/
def AtOrAbove (graph : Graph α) : NodeId → NodeId → Prop :=
  Relation.ReflTransGen graph.IsParent

/-- A container is the innermost one around two boxes. -/
structure IsCommon (graph : Graph α) (common first second : NodeId) : Prop where
  aboveFirst : graph.Above common first
  aboveSecond : graph.Above common second
  innermost :
    ∀ other, graph.Above other first → graph.Above other second →
      graph.AtOrAbove other common

/-- A box of a graph is reached from another one a number of levels outward. -/
structure IsOuter (graph : Graph α) (node : Node α) (level : Nat) (outer : Node α) : Prop where
  found : graph.get? outer.id = some outer
  outward_eq : outer.outward = node.outward.drop level

namespace IsOuter

variable {node outer : Node α} {level : Nat}

/-- Each level outward is one level less deep. -/
theorem depth_eq
    (isOuter : graph.IsOuter node level outer) :
    outer.depth + level = node.depth := by
  have lengths := congrArg List.length isOuter.outward_eq
  simp only [Node.length_outward, List.length_drop] at lengths
  omega

/-- The box a number of levels outward is at that position of the list. -/
theorem getElem?_outward
    (isOuter : graph.IsOuter node level outer) :
    node.outward[level]? = some outer.id := by
  rw [← List.head?_drop, ← isOuter.outward_eq]
  rfl

/-- A container that is at least one level away is stored with the box. -/
theorem mem_ancestors
    (isOuter : graph.IsOuter node (level + 1) outer) :
    outer.id ∈ node.ancestors := by
  have atLevel := isOuter.getElem?_outward
  rw [Node.outward, List.getElem?_cons_succ] at atLevel
  exact List.mem_reverse.mp (List.mem_of_getElem? atLevel)

/-- The containers of a box are stored by their depth. -/
theorem getElem?_ancestors
    (isOuter : graph.IsOuter node (level + 1) outer) :
    node.ancestors[outer.depth]? = some outer.id := by
  have depths := isOuter.depth_eq
  have atLevel := isOuter.getElem?_outward
  have inside : level < node.ancestors.length := by
    change level < node.depth
    omega
  have mirrored : node.ancestors.length - 1 - level = outer.depth := by
    rw [← Node.depth]
    omega
  rw [Node.outward, List.getElem?_cons_succ, List.getElem?_reverse inside, mirrored] at atLevel
  exact atLevel

/-- The container of a box is one level further out. -/
theorem of_holds
    {parent : Node α}
    (found : graph.get? parent.id = some parent)
    (holds : parent.Holds node) :
    graph.IsOuter node 1 parent :=
  ⟨found, by rw [holds.outward_eq]; rfl⟩

/-- Levels outward add up. -/
theorem trans
    {further : Node α}
    {more : Nat}
    (isOuter : graph.IsOuter node level outer)
    (isFurther : graph.IsOuter outer more further) :
    graph.IsOuter node (level + more) further where
  found := isFurther.found
  outward_eq := by
    rw [isFurther.outward_eq, isOuter.outward_eq, List.drop_drop]

/-- Of two boxes outward from a third one, the further is outward from the nearer. -/
theorem between
    {further : Node α}
    {total : Nat}
    (isOuter : graph.IsOuter node level outer)
    (isFurther : graph.IsOuter node total further)
    (inOrder : level ≤ total) :
    graph.IsOuter outer (total - level) further where
  found := isFurther.found
  outward_eq := by
    rw [isFurther.outward_eq, isOuter.outward_eq, List.drop_drop, Nat.add_sub_cancel' inOrder]

/-- There is one box at each level outward. -/
theorem unique
    {other : Node α}
    (isOuter : graph.IsOuter node level outer)
    (isOther : graph.IsOuter node level other) :
    outer = other := by
  have sameId : outer.id = other.id :=
    Option.some.inj (isOuter.getElem?_outward.symm.trans isOther.getElem?_outward)
  have found := isOuter.found
  rw [sameId, isOther.found] at found
  exact (Option.some.inj found).symm

end IsOuter

namespace IsTree

variable {id : NodeId} {node : Node α} (tree : graph.IsTree)
include tree

/-- A box of a tree is found by the number it carries. -/
theorem get?_id
    (found : graph.get? id = some node) :
    graph.get? node.id = some node := by
  rw [tree.id_of_get? found]
  exact found

/-- A box is no level further out than itself. -/
theorem isOuter_self
    (found : graph.get? id = some node) :
    graph.IsOuter node 0 node :=
  ⟨tree.get?_id found, rfl⟩

/-- A box that lies in another one is held by a box of the graph. -/
theorem exists_holds
    (found : graph.get? id = some node)
    (deep : 0 < node.depth) :
    ∃ parent, graph.get? parent.id = some parent ∧ parent.Holds node := by
  rcases tree.parent_of_get? found with isTop | held
  · simp [Node.depth, isTop.ancestors_eq] at deep
  · exact held

/-- There is a box at each level outward up to the root. -/
theorem exists_isOuter
    (found : graph.get? id = some node)
    (level : Nat)
    (inside : level ≤ node.depth) :
    ∃ outer, graph.IsOuter node level outer := by
  induction level with
  | zero =>
      exact ⟨node, tree.isOuter_self found⟩
  | succ level inductionHypothesis =>
      obtain ⟨outer, isOuter⟩ := inductionHypothesis (by omega)
      have deep : 0 < outer.depth := by
        have := isOuter.depth_eq
        omega
      obtain ⟨parent, parentFound, holds⟩ := tree.exists_holds isOuter.found deep
      exact ⟨parent, isOuter.trans (.of_holds parentFound holds)⟩

/-- The ancestor at a level is the box at this level outward. -/
theorem ancestorAt_eq
    (found : graph.get? id = some node)
    (level : Nat) :
    graph.ancestorAt id level = .ok node.outward[level]? :=
  ancestorAt_eq_outward found (tree.id_of_get? found) level

/-- A container is a number of levels above a box that it is reached from. -/
theorem ancestorAt_of_isOuter
    {outer : Node α}
    {level : Nat}
    (found : graph.get? id = some node)
    (isOuter : graph.IsOuter node level outer) :
    graph.ancestorAt id level = .ok (some outer.id) := by
  rw [tree.ancestorAt_eq found, isOuter.getElem?_outward]

/-- The parent of a box holds it. -/
theorem exists_holds_of_isParent
    (found : graph.get? id = some node)
    {parent : NodeId}
    (isParent : graph.IsParent parent id) :
    ∃ holder, graph.get? holder.id = some holder ∧ holder.id = parent ∧ holder.Holds node := by
  obtain ⟨other, otherFound, hasParent⟩ := isParent
  obtain rfl := Option.some.inj (found.symm.trans otherFound)
  rcases tree.parent_of_get? found with isTop | ⟨holder, holderFound, holds⟩
  · cases isTop.parent_eq.symm.trans hasParent
  · exact ⟨holder, holderFound, Option.some.inj (holds.parent_eq.symm.trans hasParent), holds⟩

omit tree in
/-- What holds a box is its parent. -/
theorem isParent_of_holds
    {holder : Node α}
    (found : graph.get? id = some node)
    (holds : holder.Holds node) :
    graph.IsParent holder.id id :=
  ⟨node, found, holds.parent_eq⟩

/-- The containers around a box are those that the graph stores with it. -/
theorem above_iff
    (found : graph.get? id = some node)
    {outer : NodeId} :
    graph.Above outer id ↔ outer ∈ node.ancestors := by
  induction depth : node.depth generalizing id node with
  | zero =>
      have none_around : node.ancestors = [] := List.eq_nil_of_length_eq_zero depth
      constructor
      · intro above
        obtain ⟨parent, _, isParent⟩ := Relation.TransGen.tail'_iff.mp above
        obtain ⟨holder, _, _, holds⟩ := tree.exists_holds_of_isParent found isParent
        simp [holds.ancestors_eq] at none_around
      · intro member
        simp [none_around] at member
  | succ depth inductionHypothesis =>
      obtain ⟨holder, holderFound, holds⟩ := tree.exists_holds found (by omega)
      have around :
          graph.Above outer holder.id ↔ outer ∈ holder.ancestors :=
        inductionHypothesis holderFound (by have := holds.depth_eq; omega)
      constructor
      · intro above
        obtain ⟨parent, atOrAbove, isParent⟩ := Relation.TransGen.tail'_iff.mp above
        obtain ⟨other, otherFound, rfl, otherHolds⟩ :=
          tree.exists_holds_of_isParent found isParent
        have same : other.id = holder.id :=
          Option.some.inj (otherHolds.parent_eq.symm.trans holds.parent_eq)
        rw [same] at atOrAbove
        rw [holds.ancestors_eq, List.mem_append, List.mem_singleton]
        rcases Relation.reflTransGen_iff_eq_or_transGen.mp atOrAbove with isHolder | isAbove
        · exact .inr isHolder.symm
        · exact .inl (around.mp isAbove)
      · intro member
        have step := isParent_of_holds found holds
        rw [holds.ancestors_eq, List.mem_append, List.mem_singleton] at member
        rcases member with isAbove | isHolder
        · exact (around.mpr isAbove).tail step
        · subst isHolder
          exact .single step

/-- The containers at or above a box are those met on the way outward. -/
theorem atOrAbove_iff
    (found : graph.get? id = some node)
    {outer : NodeId} :
    graph.AtOrAbove outer id ↔ outer ∈ node.outward := by
  rw [AtOrAbove, Relation.reflTransGen_iff_eq_or_transGen, ← Above, tree.above_iff found,
    Node.outward, List.mem_cons, List.mem_reverse, tree.id_of_get? found]
  exact or_congr_left eq_comm

/-- A box met on the way outward is reached by a number of levels. -/
theorem exists_isOuter_of_mem
    (found : graph.get? id = some node)
    {outer : NodeId}
    (member : outer ∈ node.outward) :
    ∃ level container,
      level ≤ node.depth ∧ container.id = outer ∧ graph.IsOuter node level container := by
  obtain ⟨level, atLevel⟩ := List.mem_iff_getElem?.mp member
  have inside : level < node.outward.length := (List.getElem?_eq_some_iff.mp atLevel).1
  rw [Node.length_outward] at inside
  obtain ⟨container, isOuter⟩ := tree.exists_isOuter found level (by omega)
  refine ⟨level, container, by omega, ?_, isOuter⟩
  exact Option.some.inj (isOuter.getElem?_outward.symm.trans atLevel)

/-- Every way outward ends at the root. -/
theorem root_mem_outward
    (found : graph.get? id = some node) :
    NodeId.root ∈ node.outward := by
  obtain ⟨top, isOuter⟩ := tree.exists_isOuter found node.depth (Nat.le_refl _)
  have shallow : top.depth = 0 := by
    have := isOuter.depth_eq
    omega
  rcases tree.parent_of_get? isOuter.found with isTop | ⟨parent, _, holds⟩
  · rw [← isTop.id_eq]
    exact List.mem_of_getElem? isOuter.getElem?_outward
  · have := holds.depth_eq
    omega

end IsTree

/-- Two boxes of a graph are related exactly when their nodes say so. -/
theorem isRelated_eq
    {first second : NodeId}
    {source target : Node α}
    (sourceFound : graph.get? first = some source)
    (targetFound : graph.get? second = some target)
    (sourceId : source.id = first)
    (targetId : target.id = second) :
    graph.isRelated first second = .ok (source.isRelatedTo target) := by
  subst sourceId targetId
  simp only [isRelated, isAncestor, find_eq_ok_iff.mpr sourceFound,
    find_eq_ok_iff.mpr targetFound, Node.isRelatedTo]
  by_cases same : source.id = target.id
  · rw [if_pos same]
    simp [same]
    rfl
  · have different : (source.id == target.id) = false := beq_eq_false_iff_ne.mpr same
    rw [if_neg same, different]
    change
      (if target.ancestors.contains source.id = true then .ok true
        else .ok (source.ancestors.contains target.id) : Except GraphFault Bool) = _
    cases target.ancestors.contains source.id <;> rfl

/-- The innermost container of two boxes is the first one met outward that holds both. -/
theorem commonAncestor_eq
    {first second : NodeId}
    {source target : Node α}
    (sourceFound : graph.get? first = some source)
    (targetFound : graph.get? second = some target) :
    graph.commonAncestor first second =
      .ok (source.ancestors.reverse.find? target.ancestors.contains) := by
  rw [commonAncestor, find_eq_ok_iff.mpr sourceFound, find_eq_ok_iff.mpr targetFound]
  rfl

namespace IsTree

variable (tree : graph.IsTree)
include tree

/-- Boxes that are not related are not the root. -/
theorem depth_pos_of_not_related
    {first second : NodeId}
    {source target : Node α}
    (sourceFound : graph.get? first = some source)
    (targetFound : graph.get? second = some target)
    (apart : source.isRelatedTo target = false) :
    0 < source.depth ∧ 0 < target.depth := by
  have sourceId := tree.id_of_get? sourceFound
  have targetId := tree.id_of_get? targetFound
  simp only [Node.isRelatedTo, Bool.or_eq_false_iff, beq_eq_false_iff_ne,
    List.contains_eq_mem, decide_eq_false_iff_not] at apart
  obtain ⟨⟨different, notAbove⟩, notBelow⟩ := apart
  have aroundSource := tree.root_mem_outward sourceFound
  have aroundTarget := tree.root_mem_outward targetFound
  simp only [Node.outward, List.mem_cons, List.mem_reverse] at aroundSource aroundTarget
  constructor
  · rw [Node.depth, List.length_pos_iff]
    intro none_around
    simp only [none_around, List.not_mem_nil, or_false] at aroundSource
    rw [aroundSource] at aroundTarget
    rcases aroundTarget with same | above
    · exact different same
    · exact notAbove above
  · rw [Node.depth, List.length_pos_iff]
    intro none_around
    simp only [none_around, List.not_mem_nil, or_false] at aroundTarget
    rw [aroundTarget] at aroundSource
    rcases aroundSource with same | above
    · exact different same.symm
    · exact notBelow above

/-- Two boxes other than the root have a container in common. -/
theorem exists_commonAncestor
    {first second : NodeId}
    {source target : Node α}
    (sourceFound : graph.get? first = some source)
    (targetFound : graph.get? second = some target)
    (sourceDeep : 0 < source.depth)
    (targetDeep : 0 < target.depth) :
    ∃ common, graph.commonAncestor first second = .ok (some common) := by
  have root_mem :
      ∀ {id : NodeId} {node : Node α}, graph.get? id = some node → 0 < node.depth →
        NodeId.root ∈ node.ancestors := by
    intro id node found deep
    rcases List.mem_cons.mp (tree.root_mem_outward found) with isRoot | member
    · obtain ⟨parent, _, holds⟩ := tree.exists_holds found deep
      have later := holds.before
      rw [← isRoot] at later
      exact absurd later (Nat.not_lt_zero _)
    · exact List.mem_reverse.mp member
  rw [commonAncestor_eq sourceFound targetFound]
  have isSome :
      (source.ancestors.reverse.find? target.ancestors.contains).isSome := by
    rw [List.find?_isSome]
    exact ⟨NodeId.root, List.mem_reverse.mpr (root_mem sourceFound sourceDeep),
      List.contains_iff_mem.mpr (root_mem targetFound targetDeep)⟩
  obtain ⟨common, isCommon⟩ := Option.isSome_iff_exists.mp isSome
  exact ⟨common, by rw [isCommon]⟩

/-- What is found as the innermost container of two boxes is their innermost container. -/
theorem isCommon_of_commonAncestor
    {first second common : NodeId}
    {source target : Node α}
    (sourceFound : graph.get? first = some source)
    (targetFound : graph.get? second = some target)
    (isFound : graph.commonAncestor first second = .ok (some common)) :
    graph.IsCommon common first second := by
  rw [commonAncestor_eq sourceFound targetFound] at isFound
  obtain ⟨holdsTarget, inner, outer, splits, none_inner⟩ :=
    List.find?_eq_some_iff_append.mp (Except.ok.inj isFound)
  have aboveTarget : common ∈ target.ancestors := List.contains_iff_mem.mp holdsTarget
  have aboveSource : common ∈ source.ancestors := by
    rw [← List.mem_reverse, splits]
    simp
  refine ⟨(tree.above_iff sourceFound).mpr aboveSource,
    (tree.above_iff targetFound).mpr aboveTarget, ?_⟩
  intro other otherAboveSource otherAboveTarget
  have inSource : other ∈ inner ++ common :: outer := by
    rw [← splits, List.mem_reverse]
    exact (tree.above_iff sourceFound).mp otherAboveSource
  have inTarget := (tree.above_iff targetFound).mp otherAboveTarget
  -- The containers from the common one on are those outward from it.
  have atLevel : source.outward[inner.length + 1]? = some common := by
    simp [Node.outward, splits]
  have inside : inner.length + 1 ≤ source.depth := by
    have := congrArg List.length splits
    simp at this
    simp only [Node.depth]
    omega
  obtain ⟨container, isOuter⟩ := tree.exists_isOuter sourceFound _ inside
  obtain rfl := Option.some.inj (isOuter.getElem?_outward.symm.trans atLevel)
  rw [tree.atOrAbove_iff isOuter.found, isOuter.outward_eq]
  rcases List.mem_append.mp inSource with isInner | isOuterOrSame
  · have := none_inner other isInner
    simp [inTarget] at this
  · simpa [Node.outward, splits] using isOuterOrSame

end IsTree

end Graph

end BoxDiagram
