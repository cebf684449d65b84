import BoxDiagram.Diagnostic.Basic
import BoxDiagram.Diagram.Link

namespace BoxDiagram.Outline

/-!
# The outline of a diagram

An outline is what a text says before any attribute is interpreted: the tree of
its boxes, nested by their paths, and its links, whose ends still name what they
select. A box is addressed by the child indices that lead to it from the root.
-/

/-- A key with its value, if one was written. -/
structure Attribute where
  key : String
  value : Option String
  span : Span
  position : Position
  deriving Repr, DecidableEq

/-- A box with the boxes inside it. -/
structure Box where
  kind : Kind
  name : Option String
  attributes : List Attribute
  children : List Box
  /-- The header that declared the box, or that first mentioned it. -/
  span : Span
  position : Position
  /-- The box was only mentioned, as a container of another one. -/
  implicit : Bool

/-- The child indices that lead from the root to a box. -/
abbrev Address := List Nat

namespace Box

/-- A box without attributes and children that was declared by a header. -/
def leaf (kind : Kind) (name : Option String) (span : Span) (position : Position) : Box where
  kind := kind
  name := name
  attributes := []
  children := []
  span := span
  position := position
  implicit := false

/-- The root of a text that says nothing about it. -/
def root : Box := leaf .unit none .zero .origin

instance : Inhabited Box := ⟨root⟩

/-- The position of the first child with a name. -/
def childIndex? (box : Box) (name : String) : Option Nat :=
  box.children.findIdx? (·.name == some name)

/-- The box at an address below this one. -/
def at? (box : Box) : Address → Option Box
  | [] => some box
  | index :: rest =>
      match box.children[index]? with
      | some child => child.at? rest
      | none => none

/-- The tree with the box at an address changed; unchanged if there is none. -/
def modifyAt (box : Box) (address : Address) (change : Box → Box) : Box :=
  match address with
  | [] => change box
  | index :: rest =>
      { box with children := box.children.modify index (·.modifyAt rest change) }

/-- The tree with a child added after the children of the box at an address. -/
def appendChild (box : Box) (address : Address) (child : Box) : Box :=
  box.modifyAt address fun parent => { parent with children := parent.children ++ [child] }

end Box

/-- How an end of a link selects boxes. -/
inductive Selector where
  /-- The box reached from a container by following names. -/
  | path (base : Address) (segments : List String)
  /-- The first box that was given a name. -/
  | name (name : String)
  /-- Every box with a tag. -/
  | tag (tag : String)
  /-- The box at an address. -/
  | address (address : Address)
  deriving Repr, DecidableEq

/-- One end of a link as written. -/
structure End where
  selector : Selector
  span : Span
  position : Position
  deriving Repr, DecidableEq

/-- A decoded arrow. -/
structure Arrow where
  /-- The characters without heads and side numbers. -/
  kind : String
  startHead : Bool
  endHead : Bool
  /-- The side at which the link leaves its source. -/
  sourceEdge : Option Direction
  /-- The side at which the link reaches its target. -/
  targetEdge : Option Direction
  deriving Repr, DecidableEq

/-- A link as written. -/
structure Connection where
  source : End
  target : End
  arrow : Arrow
  attributes : List Attribute
  span : Span
  position : Position
  deriving Repr, DecidableEq

end Outline

/-- All that a text says. -/
structure Outline where
  /-- The attributes that apply to the whole diagram. -/
  attributes : List Outline.Attribute
  root : Outline.Box
  connections : List Outline.Connection

/-- The outline of a text that says nothing. -/
def Outline.empty : Outline where
  attributes := []
  root := .root
  connections := []

end BoxDiagram
