import BoxDiagram.Diagram.Document
import BoxDiagram.Diagram.Graph

namespace BoxDiagram

/-!
# Links between boxes, and diagrams
-/

/-- The position of a link in the list of links. -/
abbrev LinkId := Nat

/-- A link as errors name it. -/
def LinkId.display (id : LinkId) : String := s!"link {id}"

/-- One end of a link. -/
structure Endpoint where
  node : NodeId
  /-- The side at which the link must leave, relative to the frame the box lies in. -/
  edge : Option Direction
  deriving Repr, DecidableEq

/-- Which ends of a link carry an arrow head. -/
structure Markers where
  start : Bool
  finish : Bool
  deriving Repr, DecidableEq, Inhabited

/-- A link between two boxes. -/
structure Link where
  source : Endpoint
  target : Endpoint
  /-- The characters of the link's arrow without heads and side numbers. -/
  kind : String
  markers : Markers
  label : Option String
  tags : List String
  deriving Repr, DecidableEq

/-- A resolved diagram. -/
structure Diagram (α : Type) where
  document : Document α
  graph : Graph α
  links : List Link
  deriving Repr, DecidableEq

end BoxDiagram
