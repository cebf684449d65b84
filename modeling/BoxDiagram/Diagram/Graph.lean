import BoxDiagram.Diagram.Node

namespace BoxDiagram

/-!
# The tree of boxes

A graph stores the boxes of a diagram by number; parents, ancestors and children
are numbers. A graph that was built from a text is a tree. One that was changed
by hand may contradict itself, so that a question about it can meet a fault.
-/

/-- A contradiction met in a graph. -/
inductive GraphFault where
  /-- There is no box with this number. -/
  | unknownNode (id : NodeId)
  /-- The chain of ancestors is shorter than a climb along it. -/
  | aboveRoot (id : NodeId)
  deriving Repr, DecidableEq

/-- Why a list of boxes is no graph. -/
inductive GraphError where
  | empty
  | misplacedId (position : Nat) (id : NodeId)
  | danglingReference (id missing : NodeId)
  | rootHasParent
  deriving Repr, DecidableEq

namespace GraphError

/-- The reason as it is told. -/
def message : GraphError → String
  | .empty => "node graph is empty"
  | .misplacedId position id => s!"node at position {position} has id {NodeId.display id}"
  | .danglingReference id missing =>
      s!"node {NodeId.display id} refers to unknown node {NodeId.display missing}"
  | .rootHasParent => "the first node must be the root"

end GraphError

/-- The boxes of a diagram, by number. -/
structure Graph (α : Type) where
  nodes : Array (Node α)
  deriving Repr, DecidableEq

namespace Graph

variable {α : Type}

/-- The first relation of a box that leads out of a graph with the given number of boxes. -/
def danglingReference? (size : Nat) (node : Node α) : Option NodeId :=
  (node.parent.toList ++ node.ancestors ++ node.children).find? (size ≤ ·)

/-- The fault of a box at a position of the list, if it has one. -/
def placementError? (size position : Nat) (node : Node α) : Option GraphError :=
  if node.id ≠ position then some (.misplacedId position node.id)
  else (danglingReference? size node).map (.danglingReference node.id)

/-- The graph of a list of boxes that stand in the order of their numbers. -/
def ofNodes (nodes : List (Node α)) : Except GraphError (Graph α) :=
  match nodes with
  | [] => .error .empty
  | root :: _ =>
      if root.parent.isSome then .error .rootHasParent
      else
        match nodes.zipIdx.findSome? fun (node, position) =>
            placementError? nodes.length position node with
        | some error => .error error
        | none => .ok { nodes := nodes.toArray }

/-- The number of boxes. -/
def size (graph : Graph α) : Nat :=
  graph.nodes.size

/-- The box with a number, if there is one. -/
def get? (graph : Graph α) (id : NodeId) : Option (Node α) :=
  graph.nodes[id]?

/-- The box with a number; a fault if there is none. -/
def find (graph : Graph α) (id : NodeId) : Except GraphFault (Node α) :=
  match graph.get? id with
  | some node => .ok node
  | none => .error (.unknownNode id)

/-- The outermost box; a fault if there is none. -/
def root (graph : Graph α) : Except GraphFault (Node α) :=
  graph.find NodeId.root

/-- The graph with one box changed. -/
def modify (graph : Graph α) (id : NodeId) (change : Node α → Node α) : Graph α :=
  { nodes := graph.nodes.modify id change }

/-- The children of the parent of a box, itself included. -/
def siblings (graph : Graph α) (id : NodeId) : Except GraphFault (List NodeId) := do
  let node ← graph.find id
  match node.parent with
  | some parent => return (← graph.find parent).children
  | none => return []

/-- The first box is a container around the second. -/
def isAncestor (graph : Graph α) (ancestor id : NodeId) : Except GraphFault Bool := do
  return (← graph.find id).ancestors.contains ancestor

/-- The two boxes are one, or one lies in the other. -/
def isRelated (graph : Graph α) (first second : NodeId) : Except GraphFault Bool := do
  if first = second then return true
  if ← graph.isAncestor first second then return true
  graph.isAncestor second first

/-- The container a number of levels above a box, unless that is above the root. -/
def ancestorAt (graph : Graph α) (id : NodeId) (level : Nat) :
    Except GraphFault (Option NodeId) := do
  if level = 0 then return some id
  let node ← graph.find id
  if level ≤ node.depth then return node.ancestors[node.depth - level]?
  return none

/-- The innermost container that two boxes have in common. -/
def commonAncestor (graph : Graph α) (first second : NodeId) :
    Except GraphFault (Option NodeId) := do
  let chain := (← graph.find first).ancestors
  let other := (← graph.find second).ancestors
  return chain.reverse.find? other.contains

end Graph

end BoxDiagram
