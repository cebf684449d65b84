import BoxDiagram.Diagram.Spacing

namespace BoxDiagram

/-!
# Attributes of a whole diagram
-/

/-- What a diagram sets for all of its boxes and links. -/
structure Document (α : Type) where
  /-- The spacing of units that set none. -/
  unit : Spacing α
  /-- The spacing of groups that set none. -/
  group : Spacing α
  /-- The spacing of cells that set none. -/
  cell : Spacing α
  /-- The width of a character of a label. -/
  charWidth : α
  /-- The height of a line of a label. -/
  lineHeight : α
  /-- The width of a lane of a road. -/
  laneWidth : α
  /-- The least number of lanes of a road. -/
  laneMin : Nat
  /-- The distance between neighbouring gates of an edge. -/
  gateGap : α
  /-- The stroke width of links. -/
  linkBorder : α
  /-- The flow of the root, unless its own attributes set one. -/
  flow : Option Flow
  /-- The alignment of the root, unless its own attributes set one. -/
  alignment : Option Alignment
  /-- A style name for whoever draws the diagram. -/
  style : Option String
  deriving Repr, DecidableEq

namespace Document

variable {α : Type}

/-- The spacing of boxes of a kind that set none. -/
def spacing (document : Document α) : Kind → Spacing α
  | .group => document.group
  | .unit => document.unit
  | .cell => document.cell

/-- The document with the spacing of one kind replaced. -/
def withSpacing (document : Document α) (kind : Kind) (spacing : Spacing α) : Document α :=
  match kind with
  | .group => { document with group := spacing }
  | .unit => { document with unit := spacing }
  | .cell => { document with cell := spacing }

/-- The document with one layer of the spacing of one kind replaced. -/
def withLayer
    (document : Document α)
    (kind : Kind)
    (layer : Layer)
    (insets : Insets α) : Document α :=
  document.withSpacing kind ((document.spacing kind).withLayer layer insets)

/-- The attributes of a diagram that sets none. -/
def default [Scalar α] : Document α :=
  let uniform (width : Nat) : Insets α := .uniform (Scalar.ofNat width)
  { unit := ⟨.zero, .zero, uniform 4⟩
    group := ⟨uniform 4, uniform 1, uniform 8⟩
    cell := ⟨uniform 4, uniform 1, uniform 6⟩
    charWidth := Scalar.ofNat 8
    lineHeight := Scalar.ofNat 16
    laneWidth := Scalar.ofNat 8
    laneMin := 0
    gateGap := Scalar.ofNat 8
    linkBorder := Scalar.ofNat 1
    flow := none
    alignment := none
    style := none }

end Document

end BoxDiagram
