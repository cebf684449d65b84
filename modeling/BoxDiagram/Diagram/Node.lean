import BoxDiagram.Diagram.Spacing
import BoxDiagram.Frame.PerDirection

namespace BoxDiagram

/-!
# Boxes of a resolved diagram
-/

/-- The number of a box, given out in the order of declaration; the root has number zero. -/
abbrev NodeId := Nat

/-- The number of the outermost box. -/
def NodeId.root : NodeId := 0

/-- A number of a box as errors name it. -/
def NodeId.display (id : NodeId) : String := s!"#{id}"

/-- A box with all that its own and its ancestors' attributes determine. -/
structure Node (α : Type) where
  id : NodeId
  kind : Kind
  /-- The access name from the root, unless the box or a container of it has no name. -/
  path : Option String
  /-- The last segment of the path, empty for a box without name. -/
  name : String
  label : Option String
  tags : List String
  alignment : Option Alignment
  spacing : Spacing α
  width : Option α
  height : Option α
  /-- The frame in which the children are placed. -/
  itemFrame : Compass
  /-- The frame in which the box itself is placed. -/
  ownFrame : Compass
  parent : Option NodeId
  /-- The containers of the box, from the root inward. -/
  ancestors : List NodeId
  children : List NodeId
  /-- The position among the children of the parent. -/
  index : Nat
  /--
  For each direction, the number of containers that a line leaving the box in
  that direction crosses before it meets a gap between siblings.
  -/
  boundary : PerDirection Nat
  deriving Repr, DecidableEq

namespace Node

variable {α : Type}

/-- A box without name, settings and neighbours. -/
def detached [Scalar α] (id : NodeId) (kind : Kind) : Node α where
  id := id
  kind := kind
  path := none
  name := ""
  label := none
  tags := []
  alignment := none
  spacing := .zero
  width := none
  height := none
  itemFrame := .canvas
  ownFrame := .canvas
  parent := none
  ancestors := []
  children := []
  index := 0
  boundary := .replicate 1

/-- The box may hold others. -/
def isContainer (node : Node α) : Bool :=
  node.kind.isContainer

/-- The box lies in no other box. -/
def isRoot (node : Node α) : Bool :=
  node.parent.isNone

/-- The number of containers around the box. -/
def depth (node : Node α) : Nat :=
  node.ancestors.length

/-- The box and the containers around it, from the box outward. -/
def outward (node : Node α) : List NodeId :=
  node.id :: node.ancestors.reverse

/-- The size of the content, if both extents are set. -/
def explicitSize? (node : Node α) : Option (Size α) :=
  match node.width, node.height with
  | some width, some height => some ⟨width, height⟩
  | _, _ => none

/-- The number of gaps before, between and after the children. -/
def mainAvenues (node : Node α) : Nat :=
  node.children.length + 1

/-- The box as errors name it: by its path, if it has one. -/
def displayName (node : Node α) : String :=
  match node.path with
  | some path => if path.isEmpty then fallback else path
  | none => fallback
where
  /-- The reference to a box that has no path. -/
  fallback : String :=
    if node.isRoot then "<root>"
    else s!"<anonymous {node.kind.name} {NodeId.display node.id}>"

end Node

end BoxDiagram
