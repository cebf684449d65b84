import BoxDiagram.Diagram.Link
import BoxDiagram.Text.Lines

namespace BoxDiagram

/-!
# Labels and their sizes

A cell shows its label, or its name where it has no label; a container shows a
label only if one is set. Labels are measured before the boxes are.
-/

variable {α : Type}

namespace Node

/-- The text that a box shows if it is a cell: its label, or else its name. -/
def shownText? (node : Node α) : Option String :=
  match node.label with
  | some label => some label
  | none => if node.name.isEmpty then none else some node.name

/--
The text that takes part in the size of a box: none for the root and for a cell
whose extents are both set.
-/
def measuredText? (node : Node α) : Option String :=
  if node.isRoot then none
  else if node.isContainer then node.label
  else if node.width.isSome && node.height.isSome then none
  else node.shownText?

end Node

/-- How the size of a label is found, for a box of a diagram. -/
abbrev TextMeasure (α : Type) := String → Node α → Document α → Size α

variable [Scalar α]

/-- The size of a text: its longest line times the width of a character, by its lines. -/
def Document.textSize (document : Document α) (text : String) : Size α :=
  let lines := Text.lines text.toList
  let widest := (lines.map List.length).foldl max 0
  { width := Scalar.ofNat widest * document.charWidth
    height := Scalar.ofNat lines.length * document.lineHeight }

/-- Measures a label by its characters and lines. -/
def TextMeasure.byCount : TextMeasure α :=
  fun text _ document => document.textSize text

/-- The size of the label of each box, by number. -/
def Diagram.labelSizes (diagram : Diagram α) (measure : TextMeasure α) :
    Array (Option (Size α)) :=
  diagram.graph.nodes.map fun node =>
    node.measuredText?.map fun text => measure text node diagram.document

end BoxDiagram
