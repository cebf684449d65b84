import BoxDiagram.Proofs.Graph.Ancestors
import BoxDiagram.Proofs.Graph.Resolved

namespace BoxDiagram

/-!
# Accepted graphs

A list of boxes is accepted as a graph if every number in it belongs to a box, whatever else
the boxes say about each other.  In a tree the chains of ancestors agree with each other as
well; those of an accepted graph need not.
-/

variable {α : Type} {graph : Graph α}

namespace Graph

/-- Each box stands at its number, and each number that a box refers to belongs to a box. -/
structure IsClosed (graph : Graph α) : Prop where
  id_eq : ∀ {id node}, graph.get? id = some node → node.id = id
  related :
    ∀ {id node}, graph.get? id = some node →
      ∀ other ∈ node.parent.toList ++ node.ancestors ++ node.children,
        ∃ found, graph.get? other = some found

/-- A container stands in the chains of the boxes within it at its own depth. -/
structure ChainsAgree (graph : Graph α) : Prop where
  depth_eq :
    ∀ {id place outer : Nat} {node holder : Node α},
      graph.get? id = some node → node.ancestors[place]? = some outer →
        graph.get? outer = some holder → holder.depth = place

/-- In a tree chains agree. -/
theorem IsTree.chainsAgree
    (tree : graph.IsTree) :
    graph.ChainsAgree := by
  constructor
  intro id place outer node holder found atPlace holderFound
  have inside : place < node.depth := (List.getElem?_eq_some_iff.mp atPlace).1
  obtain ⟨other, isOuter⟩ := tree.exists_isOuter found (node.depth - place - 1 + 1) (by omega)
  have depths := isOuter.depth_eq
  have samePlace : other.depth = place := by omega
  have sameBox : other.id = outer := by
    have atDepth := isOuter.getElem?_ancestors
    rw [samePlace, atPlace] at atDepth
    exact (Option.some.inj atDepth).symm
  have otherFound := isOuter.found
  rw [sameBox, holderFound] at otherFound
  rw [Option.some.inj otherFound, samePlace]

/-- What is accepted as a graph is closed. -/
theorem isClosed_of_ofNodes
    {nodes : List (Node α)}
    (accepted : ofNodes nodes = .ok graph) :
    graph.IsClosed := by
  obtain rfl := nodes_of_ofNodes accepted
  have placed :
      ∀ {id : NodeId} {node : Node α}, nodes[id]? = some node →
        placementError? nodes.length id node = none := by
    intro id node isNode
    cases nodes with
    | nil =>
        cases isNode
    | cons root rest =>
        rw [ofNodes] at accepted
        split at accepted
        · cases accepted
        · split at accepted
          · cases accepted
          · exact List.findSome?_eq_none_iff.mp ‹_› (node, id)
              (List.mem_zipIdx_iff_getElem?.mpr isNode)
  constructor
  case id_eq =>
    intro id node found
    have isPlaced := placed (by simpa [get?] using found)
    rw [placementError?] at isPlaced
    by_contra misplaced
    rw [if_pos misplaced] at isPlaced
    cases isPlaced
  case related =>
    intro id node found other isRelated
    have isPlaced := placed (by simpa [get?] using found)
    rw [placementError?] at isPlaced
    split at isPlaced
    · cases isPlaced
    · rw [Option.map_eq_none_iff, danglingReference?, List.find?_eq_none] at isPlaced
      have inside := isPlaced other isRelated
      apply exists_get?_iff.mpr
      simpa [size] using inside

namespace IsClosed

variable {id : NodeId} {node : Node α}

/-- The parent that a box names is in the graph. -/
theorem exists_parent
    (closed : graph.IsClosed)
    (found : graph.get? id = some node)
    {parent : NodeId}
    (isParent : node.parent = some parent) :
    ∃ holder, graph.get? parent = some holder :=
  closed.related found parent (by simp [isParent])

/-- What is outward from a box is a box, less deep by its level if chains agree. -/
theorem exists_outward
    (closed : graph.IsClosed)
    (found : graph.get? id = some node)
    {level : Nat}
    {outer : NodeId}
    (isOutward : node.outward[level]? = some outer) :
    ∃ holder, graph.get? outer = some holder ∧
      (graph.ChainsAgree → holder.depth + level = node.depth) := by
  cases level with
  | zero =>
      obtain rfl : node.id = outer := by simpa [Node.outward] using isOutward
      rw [closed.id_eq found]
      exact ⟨node, found, fun _ => rfl⟩
  | succ level =>
      rw [Node.outward, List.getElem?_cons_succ] at isOutward
      have inside : level < node.ancestors.length := by
        simpa using (List.getElem?_eq_some_iff.mp isOutward).1
      rw [List.getElem?_reverse inside] at isOutward
      obtain ⟨holder, holderFound⟩ :=
        closed.related found outer (by simp [List.mem_of_getElem? isOutward])
      refine ⟨holder, holderFound, fun agree => ?_⟩
      have sameDepth := agree.depth_eq found isOutward holderFound
      rw [sameDepth, Node.depth]
      omega

end IsClosed

/-- A container of a box is less deep than the box if chains agree. -/
theorem ChainsAgree.depth_lt
    {id outer : NodeId}
    {node holder : Node α}
    (agree : graph.ChainsAgree)
    (found : graph.get? id = some node)
    (isAncestor : outer ∈ node.ancestors)
    (holderFound : graph.get? outer = some holder) :
    holder.depth < node.depth := by
  obtain ⟨place, atPlace⟩ := List.mem_iff_getElem?.mp isAncestor
  rw [agree.depth_eq found atPlace holderFound]
  exact (List.getElem?_eq_some_iff.mp atPlace).1

end Graph

end BoxDiagram
