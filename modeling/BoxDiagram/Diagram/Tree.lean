import BoxDiagram.Diagram.Link
import BoxDiagram.Diagram.Settings
import BoxDiagram.Outline.AccessName

namespace BoxDiagram

/-!
# From the boxes of an outline to a graph

The boxes of an outline are numbered in the order of their declaration, each
container before what it holds. Boxes below a cell are left out.
-/

open Outline (Address Box)

/-- The greatest number of containers around a box. -/
def maxNesting : Nat := 1000

/-- A numbered box with its address in the outline. -/
structure Placed (α : Type) where
  address : Address
  node : Node α
  deriving Repr, DecidableEq

/-- What the place of a box in the tree says about it. -/
structure Place (α : Type) where
  /-- The container of the box, if it is not the root. -/
  parent : Option (Node α)
  address : Address
  /-- The position among the children of the container. -/
  index : Nat
  /-- The number of children of the container. -/
  count : Nat
  /-- The names from the root to the box, unless one is missing. -/
  segments : Option (List String)
  deriving Repr, DecidableEq

namespace Place

variable {α : Type}

/-- The place of the outermost box. -/
def root : Place α where
  parent := none
  address := []
  index := 0
  count := 1
  segments := some []

/-- The place of a child of a box. -/
def child (place : Place α) (parent : Node α) (index count : Nat) (name : Option String) :
    Place α where
  parent := some parent
  address := place.address ++ [index]
  index := index
  count := count
  segments :=
    match place.segments, name with
    | some segments, some name => some (segments ++ [name])
    | _, _ => none

end Place

variable {α : Type}

/--
The number of containers that a line leaving a child crosses before it meets a gap
between siblings: one if a sibling lies ahead in the container's flow, otherwise
one more than for the container.
-/
def childBoundary (parent : Node α) (index count : Nat) : PerDirection Nat :=
  .ofFunction fun direction =>
    if direction = parent.itemFrame.main ∧ index + 1 < count then 1
    else if direction = parent.itemFrame.main.reverse ∧ 0 < index then 1
    else parent.boundary.toward direction + 1

/-- A box that stands at a place, with a number and without children. -/
def Place.node (place : Place α) (document : Document α) (settings : BoxSettings α)
    (box : Box) (id : NodeId) : Node α :=
  let frame := match place.parent with
    | some parent => parent.itemFrame
    | none => .canvas
  let flow := match place.parent with
    | some _ => settings.flow
    | none => settings.flow.or document.flow
  { id
    kind := box.kind
    path := place.segments.map AccessName.ofPath
    name := box.name.getD ""
    label := settings.label
    tags := settings.tags
    alignment := match place.parent with
      | some _ => settings.alignment
      | none => settings.alignment.or document.alignment
    spacing := settings.spacing (document.spacing box.kind)
    width := settings.width
    height := settings.height
    itemFrame := (flow.getD .across).compass frame
    ownFrame := frame
    parent := place.parent.map (·.id)
    ancestors := match place.parent with
      | some parent => parent.ancestors ++ [parent.id]
      | none => []
    children := []
    index := place.index
    boundary := match place.parent with
      | some parent => childBoundary parent place.index place.count
      | none => .replicate 1 }

/-- The error that a box lies in too many containers. -/
def nestedTooDeep (box : Box) : Diagnostic :=
  let message := s!"boxes are nested more than {maxNesting} levels deep"
  ((Diagnostic.error .unexpectedConstruct message).mark box.span "too deep").locate box.position

/-- The error that a child has the name of an earlier one. -/
def nameTaken (box : Box) (name : String) (first : Span) : Diagnostic :=
  let message := s!"name `{name}` is declared twice in this container"
  (((Diagnostic.error .duplicateName message).mark box.span "duplicate name").relate first
    "first declared here").locate box.position

/-- The span of the first of several boxes that has the name of a box. -/
def claimedBy? (earlier : List Box) (box : Box) : Option (String × Span) :=
  box.name.bind fun name =>
    (earlier.find? (·.name == some name)).map fun first => (name, first.span)

mutual

/-- The boxes of a tree at a place in the order of their numbers, which start with a given one. -/
def numberBox [Scalar α] (document : Document α) (place : Place α) (id : NodeId) :
    Box → Except Diagnostic (List (Placed α))
  | ⟨kind, name, attributes, children, span, position, implicit⟩ => do
      let box : Box := ⟨kind, name, attributes, children, span, position, implicit⟩
      if maxNesting < place.address.length then throw (nestedTooDeep box)
      let settings ← BoxSettings.read kind attributes
      let node := place.node document settings box id
      if kind.isContainer then
        let (ids, inner) ←
          numberChildren document place node children.length [] (id + 1) children
        return ⟨place.address, { node with children := ids }⟩ :: inner
      else return [⟨place.address, node⟩]

/--
The numbers of the children of a box, and all boxes below it in the order of their
numbers, after the earlier children, which are given last first.
-/
def numberChildren [Scalar α] (document : Document α) (place : Place α) (parent : Node α)
    (count : Nat) (earlier : List Box) (next : NodeId) :
    List Box → Except Diagnostic (List NodeId × List (Placed α))
  | [] => .ok ([], [])
  | child :: rest => do
      match claimedBy? earlier.reverse child with
      | some (name, first) => throw (nameTaken child name first)
      | none => pure ()
      let inner ← numberBox document (place.child parent earlier.length count child.name) next child
      let (ids, others) ←
        numberChildren document place parent count (child :: earlier) (next + inner.length) rest
      return (next :: ids, inner ++ others)

end

end BoxDiagram
