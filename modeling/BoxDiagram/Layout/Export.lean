import BoxDiagram.Json.Basic
import BoxDiagram.Layout.Basic
import BoxDiagram.Number.Shortest

namespace BoxDiagram

/-!
# Layouts as JSON
-/

/-- Coordinates are positional from a millionth up to ten million millions. -/
def coordinateFormat : NumberFormat := ⟨-6, 13⟩

/-- A coordinate; null for one that is not finite. -/
def Single.toJson (number : Float32) : Json :=
  .ofOption .number (shortestText? coordinateFormat number)

/-- An axis by its name. -/
def Axis.toJson : Axis → Json
  | .main => .string "main"
  | .cross => .string "cross"

/-- A road by its container, axis and number. -/
def Road.toJson (road : Road) : Json :=
  .object [
    ("container", .ofNat road.container),
    ("axis", road.axis.toJson),
    ("avenue", .ofNat road.avenue)]

/-- Which ends of a link carry an arrow head. -/
def Markers.toJson (markers : Markers) : Json :=
  .object [("start", .bool markers.start), ("end", .bool markers.finish)]

/-- A size with both extents. -/
def Size.toJson (size : Size Float32) : Json :=
  .object [("width", Single.toJson size.width), ("height", Single.toJson size.height)]

/-- A point with both coordinates. -/
def Point.toJson (point : Point Float32) : Json :=
  .object [("x", Single.toJson point.x), ("y", Single.toJson point.y)]

/-- A rectangle with its four ends. -/
def Bounds.toJson (bounds : Bounds Float32) : Json :=
  .object [
    ("min_x", Single.toJson bounds.minX),
    ("min_y", Single.toJson bounds.minY),
    ("max_x", Single.toJson bounds.maxX),
    ("max_y", Single.toJson bounds.maxY)]

/-- A label with its text and place. -/
def LabelLayout.toJson (label : LabelLayout Float32) : Json :=
  .object [("text", .string label.text), ("bounds", label.bounds.toJson)]

/-- A gate with its link, side and point. -/
def Gate.toJson (gate : Gate Float32) : Json :=
  .object [
    ("link", .ofNat gate.link),
    ("edge", .string gate.side.relativeName),
    ("point", gate.point.toJson)]

/-- A box with all that is placed of it. -/
def NodeLayout.toJson (node : NodeLayout Float32) : Json :=
  .object [
    ("id", .ofNat node.id),
    ("kind", .string node.kind.name),
    ("path", .ofOption .string node.path),
    ("bounds", node.bounds.toJson),
    ("visible", node.visible.toJson),
    ("content", node.content.toJson),
    ("label", .ofOption LabelLayout.toJson node.label),
    ("gates", .ofList Gate.toJson node.gates)]

/-- A link with its line. -/
def LinkLayout.toJson (link : LinkLayout Float32) : Json :=
  .object [
    ("link", .ofNat link.link),
    ("from", .ofNat link.source),
    ("to", .ofNat link.target),
    ("kind", .string link.kind),
    ("markers", link.markers.toJson),
    ("label", .ofOption .string link.label),
    ("label_anchor", .ofOption Point.toJson link.labelAnchor),
    ("points", .ofList Point.toJson link.points)]

/-- A lane with its link and place. -/
def LaneLayout.toJson (lane : LaneLayout Float32) : Json :=
  .object [
    ("lane", .ofNat lane.lane),
    ("link", .ofOption .ofNat lane.link),
    ("line", Single.toJson lane.line),
    ("bounds", lane.bounds.toJson)]

/-- A road with its lanes. -/
def RoadLayout.toJson (road : RoadLayout Float32) : Json :=
  .object [
    ("key", road.road.toJson),
    ("bounds", road.bounds.toJson),
    ("fixed_axis", road.fixedAxis.toJson),
    ("lanes", .ofList LaneLayout.toJson road.lanes)]

/-- A layout with all that lies in it. -/
def Layout.toJson (layout : Layout Float32) : Json :=
  .object [
    ("size", layout.size.toJson),
    ("style", .ofOption .string layout.style),
    ("link_border", Single.toJson layout.linkBorder),
    ("nodes", .ofList NodeLayout.toJson layout.nodes),
    ("links", .ofList LinkLayout.toJson layout.links),
    ("roads", .ofList RoadLayout.toJson layout.roads)]

/-- The text of a layout as a file holds it. -/
def Layout.fileText (layout : Layout Float32) (pretty : Bool) : String :=
  (if pretty then layout.toJson.pretty 0 else layout.toJson.compact) ++ "\n"

end BoxDiagram
