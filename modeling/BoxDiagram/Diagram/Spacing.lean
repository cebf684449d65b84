import BoxDiagram.Geometry.Size
import BoxDiagram.Frame.Compass

namespace BoxDiagram

/-!
# Kinds of boxes and what their attributes say

A box is a group, a unit or a cell. The first two hold other boxes, arranged
along a flow and aligned across it.
-/

/-- The three kinds of boxes: framed containers, plain containers and leaves. -/
inductive Kind where
  | group
  | unit
  | cell
  deriving Repr, DecidableEq, Inhabited

namespace Kind

/-- Boxes of this kind may hold other boxes. -/
def isContainer : Kind → Bool
  | .group | .unit => true
  | .cell => false

/-- The kind as it is written. -/
def name : Kind → String
  | .group => "group"
  | .unit => "unit"
  | .cell => "cell"

/-- The kind of a name. -/
def ofName? : String → Option Kind
  | "group" => some .group
  | "unit" => some .unit
  | "cell" => some .cell
  | _ => none

end Kind

/-- How a container turns its axes: absolutely, or against the frame around it. -/
inductive Flow where
  | row
  | column
  | rowReverse
  | columnReverse
  | along
  | across
  deriving Repr, DecidableEq, Inhabited

namespace Flow

/-- The flow as it is written. -/
def name : Flow → String
  | .row => "row"
  | .column => "column"
  | .rowReverse => "row_reverse"
  | .columnReverse => "column_reverse"
  | .along => "main"
  | .across => "cross"

/-- The flow with a given attribute value. -/
def ofName? : String → Option Flow
  | "row" => some .row
  | "column" => some .column
  | "row_reverse" => some .rowReverse
  | "column_reverse" => some .columnReverse
  | "main" => some .along
  | "cross" => some .across
  | _ => none

/-- The frame of a container inside a given frame. -/
def compass (flow : Flow) (outer : Compass) : Compass :=
  match flow with
  | .row => .row
  | .column => .column
  | .rowReverse => .rowReverse
  | .columnReverse => .columnReverse
  | .along => outer
  | .across => outer.swap

end Flow

/-- Where a box lies across the flow of its container. -/
inductive Alignment where
  | start
  | center
  | last
  deriving Repr, DecidableEq, Inhabited

namespace Alignment

/-- The alignment as it is written. -/
def name : Alignment → String
  | .start => "start"
  | .center => "center"
  | .last => "end"

/-- The alignment with a given attribute value. -/
def ofName? : String → Option Alignment
  | "start" => some .start
  | "center" => some .center
  | "end" => some .last
  | _ => none

/-- The distance of an item from the start of the space it is aligned in; a half is rounded down. -/
def offset {α : Type} [Scalar α] (alignment : Alignment) (available item : α) : α :=
  let free := Scalar.positivePart (available - item)
  match alignment with
  | .start => Scalar.zero
  | .center => Scalar.floor (Scalar.half free)
  | .last => free

end Alignment

/-- The three layers around the content of a box, from the outside inward. -/
structure Spacing (α : Type) where
  margin : Insets α
  border : Insets α
  padding : Insets α
  deriving Repr, DecidableEq

namespace Spacing

variable {α : Type} [Scalar α]

/-- No spacing at all. -/
def zero : Spacing α := ⟨.zero, .zero, .zero⟩

/-- All layers of a side together. -/
def total (spacing : Spacing α) : Insets α :=
  (spacing.margin.add spacing.border).add spacing.padding

/-- The two layers inside the visible box. -/
def inner (spacing : Spacing α) : Insets α :=
  spacing.border.add spacing.padding

end Spacing

/-- One of the three layers around the content of a box. -/
inductive Layer where
  | margin
  | border
  | padding
  deriving Repr, DecidableEq, Inhabited

namespace Layer

/-- The layer as it is written. -/
def name : Layer → String
  | .margin => "margin"
  | .border => "border"
  | .padding => "padding"

/-- The layer of a name. -/
def ofName? : String → Option Layer
  | "margin" => some .margin
  | "border" => some .border
  | "padding" => some .padding
  | _ => none

end Layer

/-- The spacing with another width of one layer. -/
def Spacing.withLayer {α : Type} (spacing : Spacing α) (layer : Layer) (insets : Insets α) :
    Spacing α :=
  match layer with
  | .margin => { spacing with margin := insets }
  | .border => { spacing with border := insets }
  | .padding => { spacing with padding := insets }

end BoxDiagram
