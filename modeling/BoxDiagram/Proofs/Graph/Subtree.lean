import BoxDiagram.Proofs.Graph.Resolved

namespace BoxDiagram

open Outline (Box)

/-!
# Subtrees in the order of their numbers

`Graph.Subtree` lists the boxes of a graph from a box on as its lists of children
name them, a container before what it holds.  In a resolved diagram this order
is the order of the numbers.
-/

variable {α : Type}

mutual

/-- A box of a graph and all boxes below it, in the order of declaration. -/
inductive Graph.Subtree (graph : Graph α) : NodeId → List (Node α) → Prop where
  | node
      {id : NodeId}
      {node : Node α}
      {inner : List (Node α)}
      (found : graph.get? id = some node)
      (below : Graph.Subtrees graph node.children inner) :
      Subtree graph id (node :: inner)

/-- Several boxes of a graph and all boxes below them, in the order of declaration. -/
inductive Graph.Subtrees (graph : Graph α) : List NodeId → List (Node α) → Prop where
  | nil :
      Subtrees graph [] []
  | cons
      {id : NodeId}
      {ids : List NodeId}
      {nodes others : List (Node α)}
      (first : Graph.Subtree graph id nodes)
      (later : Graph.Subtrees graph ids others) :
      Subtrees graph (id :: ids) (nodes ++ others)

end

/-- The boxes of a graph are those below its root, and stand in the order of their numbers. -/
structure Graph.IsInOrder (graph : Graph α) : Prop where
  subtree : graph.Subtree NodeId.root graph.nodes.toList
  ids_eq : graph.nodes.toList.map (·.id) = List.range graph.size

theorem Graph.Subtrees.eq_nil_of_ids_eq_nil
    {graph : Graph α}
    {ids : List NodeId}
    {nodes : List (Node α)}
    (below : graph.Subtrees ids nodes)
    (none_listed : ids = []) :
    nodes = [] := by
  subst none_listed
  cases below
  rfl

variable [Scalar α]

mutual

/-- The boxes of a numbered tree are listed in the order of their numbers. -/
theorem Numbered.subtree
    {document : Document α}
    {graph : Graph α} :
    ∀ {place : Place α} {id : NodeId} {box : Box} {placed : List (Placed α)},
      Numbered document place id box placed →
        (∀ found ∈ placed, graph.get? found.node.id = some found.node) →
          graph.Subtree id (placed.map (·.node))
  | _, _, _, _, .cell .., known => by
      exact .node (known _ List.mem_cons_self) .nil
  | _, _, _, _, .container _ _ _ held, known => by
      exact .node (known _ List.mem_cons_self)
        (held.subtrees fun found member => known found (List.mem_cons_of_mem _ member))

/-- Boxes that were numbered below a container are subtrees of the graph. -/
theorem NumberedChildren.subtrees
    {document : Document α}
    {graph : Graph α} :
    ∀ {place : Place α} {parent : Node α} {count : Nat} {earlier : List Box}
      {next : NodeId} {boxes : List Box} {ids : List NodeId} {inner : List (Placed α)},
      NumberedChildren document place parent count earlier next boxes ids inner →
        (∀ found ∈ inner, graph.get? found.node.id = some found.node) →
          graph.Subtrees ids (inner.map (·.node))
  | _, _, _, _, _, _, _, _, .nil, _ => by
      exact .nil
  | _, _, _, _, _, _, _, _, .cons _ first later, known => by
      rw [List.map_append]
      exact .cons
        (first.subtree fun found member => known found (List.mem_append_left _ member))
        (later.subtrees fun found member => known found (List.mem_append_right _ member))

end

/-- The boxes of a resolved diagram stand in the order of their numbers. -/
theorem Diagram.isInOrder_of_ofOutline
    {outline : Outline}
    {diagram : Diagram α}
    (succeeded : Diagram.ofOutline outline = .ok diagram) :
    diagram.graph.IsInOrder := by
  obtain ⟨placed, _, _, numbered, graphEq, _⟩ :=
    Diagram.exists_numbered_of_ofOutline succeeded
  rw [graphEq]
  constructor
  case subtree =>
    apply numbered.subtree
    intro found member
    simp [Graph.get?, numbered.getElem?_id_of_mem member]
  case ids_eq =>
    simpa [Graph.size, Function.comp_def, List.range_eq_range', NodeId.root] using
      numbered.ids_eq

end BoxDiagram
