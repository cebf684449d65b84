import BoxDiagram.Diagram.Value

namespace BoxDiagram

/-!
# What the attributes of a box, a link or a whole diagram set

Attributes are read in the order in which they were written; a later one of the
same key replaces an earlier one, except that tags add up. Unknown keys set
nothing.
-/

open Outline (Attribute)

/-- What the attributes of a box set. -/
structure BoxSettings (α : Type) where
  flow : Option Flow
  alignment : Option Alignment
  margin : Option (Insets α)
  border : Option (Insets α)
  padding : Option (Insets α)
  label : Option String
  tags : List String
  width : Option α
  height : Option α
  deriving Repr, DecidableEq

namespace BoxSettings

variable {α : Type}

/-- A box without settings. -/
def none : BoxSettings α where
  flow := .none
  alignment := .none
  margin := .none
  border := .none
  padding := .none
  label := .none
  tags := []
  width := .none
  height := .none

/-- The error that an attribute stands on a box that is no cell. -/
def cellsOnly (kind : Kind) (written : Attribute) : Diagnostic :=
  let message := s!"`{written.key}` is not allowed on a {kind.name}"
  ((Diagnostic.error .misplacedAttribute message).mark written.span
    "only cells have an explicit content size").locate written.position

/-- The extent that an attribute of a cell sets. -/
def extent [Scalar α] (kind : Kind) (written : Attribute) : Except Diagnostic α :=
  if kind = .cell then written.asMeasure else .error (cellsOnly kind written)

/-- The settings with one more attribute of a box; one of another name changes nothing. -/
def add [Scalar α] (kind : Kind) (settings : BoxSettings α) (written : Attribute) :
    Except Diagnostic (BoxSettings α) := do
  match written.key with
  | "direction" => return { settings with flow := some (← written.asFlow) }
  | "align" => return { settings with alignment := some (← written.asAlignment) }
  | "margin" => return { settings with margin := some (← written.asInsets) }
  | "border" => return { settings with border := some (← written.asInsets) }
  | "padding" => return { settings with padding := some (← written.asInsets) }
  | "label" => return { settings with label := some (← written.asText) }
  | "tag" => return { settings with tags := settings.tags ++ (← written.asTags) }
  | "width" => return { settings with width := some (← extent kind written) }
  | "height" => return { settings with height := some (← extent kind written) }
  | _ => return settings

/-- What the attributes of a box of a kind set. -/
def read [Scalar α] (kind : Kind) (written : List Attribute) : Except Diagnostic (BoxSettings α) :=
  written.foldlM (add kind) none

/-- The spacing of a box that would have the given one without its settings. -/
def spacing (settings : BoxSettings α) (default : Spacing α) : Spacing α where
  margin := settings.margin.getD default.margin
  border := settings.border.getD default.border
  padding := settings.padding.getD default.padding

end BoxSettings

/-- What the attributes of a link set. -/
structure LinkSettings where
  label : Option String
  tags : List String
  deriving Repr, DecidableEq

namespace LinkSettings

/-- The settings with one more attribute of a link. -/
def add (settings : LinkSettings) (written : Attribute) : Except Diagnostic LinkSettings := do
  match written.key with
  | "label" => return { settings with label := some (← written.asText) }
  | "tag" => return { settings with tags := settings.tags ++ (← written.asTags) }
  | _ => return settings

/-- What the attributes of a link set. -/
def read (written : List Attribute) : Except Diagnostic LinkSettings :=
  written.foldlM add ⟨none, []⟩

end LinkSettings

namespace Document

variable {α : Type} [Scalar α]

/-- The document with one more attribute of the text. -/
def add (document : Document α) (written : Attribute) : Except Diagnostic (Document α) := do
  match written.key with
  | "unit_padding" => return document.withLayer .unit .padding (← written.asInsets)
  | "unit_border" => return document.withLayer .unit .border (← written.asInsets)
  | "unit_margin" => return document.withLayer .unit .margin (← written.asInsets)
  | "group_padding" => return document.withLayer .group .padding (← written.asInsets)
  | "group_border" => return document.withLayer .group .border (← written.asInsets)
  | "group_margin" => return document.withLayer .group .margin (← written.asInsets)
  | "cell_padding" => return document.withLayer .cell .padding (← written.asInsets)
  | "cell_border" => return document.withLayer .cell .border (← written.asInsets)
  | "cell_margin" => return document.withLayer .cell .margin (← written.asInsets)
  | "char_width" => return { document with charWidth := ← written.asMeasure }
  | "line_height" => return { document with lineHeight := ← written.asMeasure }
  | "lane_width" => return { document with laneWidth := ← written.asMeasure }
  | "lane_min" => return { document with laneMin := ← written.asCount }
  | "gate_gap" => return { document with gateGap := ← written.asMeasure }
  | "link_border" => return { document with linkBorder := ← written.asMeasure }
  | "direction" => return { document with flow := some (← written.asFlow) }
  | "align" => return { document with alignment := some (← written.asAlignment) }
  | "style" => return { document with style := some (← written.asText) }
  | _ => return document

/-- What the attributes of a whole diagram set. -/
def read (written : List Attribute) : Except Diagnostic (Document α) :=
  written.foldlM add Document.default

end Document

end BoxDiagram
