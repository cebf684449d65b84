import BoxDiagram.Diagram.Tree
import BoxDiagram.Outline.Reader

namespace BoxDiagram

/-!
# From an outline to a diagram

After the boxes are numbered, each written link is expanded to one link for each
pair of boxes that its ends select.
-/

open Outline (Address Box Connection End Selector)

variable {α : Type}

namespace Outline

/-- The address reached from a box at an address by following names. -/
def Box.follow? (box : Box) (address : Address) : List String → Option Address
  | [] => some address
  | name :: rest =>
      match box.childIndex? name with
      | some index =>
          match box.children[index]? with
          | some child => child.follow? (address ++ [index]) rest
          | none => none
      | none => none

/-- How messages refer to what an end selects. -/
def Selector.describe : Selector → String
  | .path [] segments => AccessName.ofPath segments
  | .path _ segments => s!".{AccessName.ofPath segments}"
  | .name wanted => s!"&{AccessName.ofPath [wanted]}"
  | .tag wanted => s!"${AccessName.ofPath [wanted]}"
  | .address _ => "box"

/-- The boxes that a selector names, in the order of their numbers. -/
def Selector.select (root : Box) (placed : List (Placed α)) : Selector → List (Node α)
  | .path base segments =>
      (((root.at? base).bind fun box => box.follow? base segments).bind atAddress).toList
  | .name wanted =>
      if wanted.isEmpty then []
      else ((placed.find? (·.node.name == wanted)).map (·.node)).toList
  | .tag wanted => (placed.filter (·.node.tags.contains wanted)).map (·.node)
  | .address wanted => (atAddress wanted).toList
where
  /-- The box at an address. -/
  atAddress (wanted : Address) : Option (Node α) :=
    (placed.find? (·.address == wanted)).map (·.node)

/-- The error that an end selects nothing. -/
def End.unknown (written : End) : Diagnostic :=
  let message := s!"link endpoint `{written.selector.describe}` matches no box"
  ((Diagnostic.error .unknownEndpoint message).mark written.span "unknown endpoint").locate
    written.position

/-- The boxes that an end selects; at least one. -/
def End.boxes (root : Box) (placed : List (Placed α)) (written : End) :
    Except Diagnostic (List (Node α)) :=
  match written.selector.select root placed with
  | [] => .error written.unknown
  | selected => .ok selected

/-- The error that a link joins a box to itself or to one around it. -/
def Connection.relatedEnds (written : Connection) (source target : Node α) : Diagnostic :=
  let message :=
    s!"cannot link `{source.displayName}` to `{target.displayName}`: one contains the other"
  (((Diagnostic.error .relatedEndpoints message).mark written.span
    "link between related boxes").locate written.position).advise
    "links must join boxes that do not contain each other"

end Outline

/-- The two boxes are one, or one lies in the other. -/
def Node.isRelatedTo (first second : Node α) : Bool :=
  first.id == second.id || second.ancestors.contains first.id ||
    first.ancestors.contains second.id

namespace Outline.Connection

/-- The link of a connection between two boxes. -/
def link (written : Connection) (settings : LinkSettings) (source target : Node α) : Link where
  source := ⟨source.id, written.arrow.sourceEdge⟩
  target := ⟨target.id, written.arrow.targetEdge⟩
  kind := written.arrow.kind
  markers := ⟨written.arrow.startHead, written.arrow.endHead⟩
  label := settings.label
  tags := settings.tags

/-- The links of a connection: one for each source and each target. -/
def links (root : Box) (placed : List (Placed α)) (written : Connection) :
    Except Diagnostic (List Link) := do
  let settings ← LinkSettings.read written.attributes
  let sources ← written.source.boxes root placed
  let targets ← written.target.boxes root placed
  let pairs := sources.flatMap fun source => targets.map fun target => (source, target)
  pairs.mapM fun (source, target) =>
    if source.isRelatedTo target then .error (written.relatedEnds source target)
    else .ok (written.link settings source target)

end Outline.Connection

namespace Diagram

/-- The diagram of an outline: boxes are numbered, and links joined to them. -/
def ofOutline [Scalar α] (outline : Outline) : Except Diagnostic (Diagram α) := do
  let document ← Document.read outline.attributes
  let placed ← numberBox document .root NodeId.root outline.root
  match Graph.ofNodes (placed.map (·.node)) with
  | .error error =>
      throw (Diagnostic.error .unexpectedConstruct s!"internal resolver error: {error.message}")
  | .ok graph =>
      let links ← outline.connections.mapM (·.links outline.root placed)
      return { document, graph, links := links.flatten }

/-- The diagram of a source. -/
def parse [Scalar α] (source : String) : Except Diagnostic (Diagram α) := do
  ofOutline (← Outline.read source)

end Diagram

end BoxDiagram
