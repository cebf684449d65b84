import BoxDiagram.Layout.Basic

namespace BoxDiagram

/-!
# The numbers of a layout

What it means that something holds of every number of a layout: of its own size and the
stroke width, and of all coordinates of its boxes, roads and links.
-/

variable {α : Type}

/-- Something holds of both extents. -/
def Size.Each (holds : α → Prop) (size : Size α) : Prop :=
  ∀ axis, holds (size.along axis)

/-- Something holds of both coordinates. -/
def Point.Each (holds : α → Prop) (point : Point α) : Prop :=
  ∀ axis, holds (point.along axis)

/-- What holds of a point and of a coordinate holds with it in place. -/
theorem Point.Each.withAlong
    {holds : α → Prop}
    {point : Point α}
    {value : α}
    (pointEach : point.Each holds)
    (isHeld : holds value)
    (axis : Axis) :
    (point.withAlong axis value).Each holds := by
  intro other
  cases axis with
  | main =>
      cases other with
      | main =>
          exact isHeld
      | cross =>
          exact pointEach .cross
  | cross =>
      cases other with
      | main =>
          exact pointEach .main
      | cross =>
          exact isHeld

/-- Something holds of the least and the greatest coordinate along each axis. -/
def Bounds.Each (holds : α → Prop) (bounds : Bounds α) : Prop :=
  ∀ axis, holds (bounds.range axis).1 ∧ holds (bounds.range axis).2

/-- Something holds of all numbers of a box: of its rectangles, its label and its gates. -/
structure NodeLayout.Each (holds : α → Prop) (node : NodeLayout α) : Prop where
  bounds : node.bounds.Each holds
  visible : node.visible.Each holds
  content : node.content.Each holds
  label : ∀ label ∈ node.label, label.bounds.Each holds
  gates : ∀ gate ∈ node.gates, gate.point.Each holds

/-- Something holds of all numbers of a road and its lanes. -/
structure RoadLayout.Each (holds : α → Prop) (road : RoadLayout α) : Prop where
  bounds : road.bounds.Each holds
  line : ∀ lane ∈ road.lanes, holds lane.line
  lane : ∀ lane ∈ road.lanes, lane.bounds.Each holds

/-- Something holds of all numbers of a link: of its corners and the place of its label. -/
structure LinkLayout.Each (holds : α → Prop) (link : LinkLayout α) : Prop where
  points : ∀ point ∈ link.points, point.Each holds
  labelAnchor : ∀ point ∈ link.labelAnchor, point.Each holds

/-- Something holds of all numbers of a layout. -/
structure Layout.Each (holds : α → Prop) (layout : Layout α) : Prop where
  size : layout.size.Each holds
  linkBorder : holds layout.linkBorder
  nodes : ∀ node ∈ layout.nodes, node.Each holds
  links : ∀ link ∈ layout.links, link.Each holds
  roads : ∀ road ∈ layout.roads, road.Each holds

section Decide

variable {holds : α → Prop} [DecidablePred holds]

instance (property : Axis → Prop) [DecidablePred property] : Decidable (∀ axis, property axis) :=
  decidable_of_iff (property .main ∧ property .cross)
    ⟨fun both axis => by cases axis with
      | main => exact both.1
      | cross => exact both.2,
      fun each => ⟨each .main, each .cross⟩⟩

instance (size : Size α) : Decidable (size.Each holds) :=
  inferInstanceAs (Decidable (∀ axis, holds (size.along axis)))

instance (point : Point α) : Decidable (point.Each holds) :=
  inferInstanceAs (Decidable (∀ axis, holds (point.along axis)))

instance (bounds : Bounds α) : Decidable (bounds.Each holds) :=
  inferInstanceAs
    (Decidable (∀ axis, holds (bounds.range axis).1 ∧ holds (bounds.range axis).2))

instance (node : NodeLayout α) : Decidable (node.Each holds) :=
  decidable_of_iff
    (node.bounds.Each holds ∧ node.visible.Each holds ∧ node.content.Each holds ∧
      (∀ label ∈ node.label, label.bounds.Each holds) ∧ ∀ gate ∈ node.gates, gate.point.Each holds)
    ⟨fun ⟨bounds, visible, content, label, gates⟩ => ⟨bounds, visible, content, label, gates⟩,
      fun ⟨bounds, visible, content, label, gates⟩ => ⟨bounds, visible, content, label, gates⟩⟩

instance (road : RoadLayout α) : Decidable (road.Each holds) :=
  decidable_of_iff
    (road.bounds.Each holds ∧ (∀ lane ∈ road.lanes, holds lane.line) ∧
      ∀ lane ∈ road.lanes, lane.bounds.Each holds)
    ⟨fun ⟨bounds, line, lane⟩ => ⟨bounds, line, lane⟩,
      fun ⟨bounds, line, lane⟩ => ⟨bounds, line, lane⟩⟩

instance (link : LinkLayout α) : Decidable (link.Each holds) :=
  decidable_of_iff
    ((∀ point ∈ link.points, point.Each holds) ∧ ∀ point ∈ link.labelAnchor, point.Each holds)
    ⟨fun ⟨points, labelAnchor⟩ => ⟨points, labelAnchor⟩,
      fun ⟨points, labelAnchor⟩ => ⟨points, labelAnchor⟩⟩

instance (layout : Layout α) : Decidable (layout.Each holds) :=
  decidable_of_iff
    (layout.size.Each holds ∧ holds layout.linkBorder ∧ (∀ node ∈ layout.nodes, node.Each holds) ∧
      (∀ link ∈ layout.links, link.Each holds) ∧ ∀ road ∈ layout.roads, road.Each holds)
    ⟨fun ⟨size, linkBorder, nodes, links, roads⟩ => ⟨size, linkBorder, nodes, links, roads⟩,
      fun ⟨size, linkBorder, nodes, links, roads⟩ => ⟨size, linkBorder, nodes, links, roads⟩⟩

/-- Of labels that are checked one by one, all have what was checked. -/
theorem Size.each_of_all
    {labels : Array (Option (Size α))}
    (all : (labels.toList.all fun label => label.all fun size => decide (size.Each holds)) = true) :
    ∀ size, some size ∈ labels → size.Each holds := by
  intro size member
  have checked := List.all_eq_true.mp all (some size) (Array.mem_toList_iff.mpr member)
  exact of_decide_eq_true checked

end Decide

end BoxDiagram
