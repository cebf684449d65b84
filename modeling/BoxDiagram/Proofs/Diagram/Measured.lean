import BoxDiagram.Proofs.Diagram.Numbers
import BoxDiagram.Proofs.Geometry.Bounds

namespace BoxDiagram

/-!
# No negative extents

The numbers of a resolved diagram are measures, so that no box has a negative strip
around it or a negative size, and no text that is measured by its characters has one.
-/

/-- No layer of a spacing has a negative strip. -/
structure Spacing.IsMeasured (spacing : Spacing Rat) : Prop where
  margin : spacing.margin.IsMeasured
  border : spacing.border.IsMeasured
  padding : spacing.padding.IsMeasured

/-- No extent that a document sets is negative. -/
structure Document.IsMeasured (document : Document Rat) : Prop where
  spacing : ∀ kind, (document.spacing kind).IsMeasured
  charWidth : 0 ≤ document.charWidth
  lineHeight : 0 ≤ document.lineHeight
  laneWidth : 0 ≤ document.laneWidth
  gateGap : 0 ≤ document.gateGap

/-- A text that is measured by its characters has no negative size. -/
theorem Document.IsMeasured.textSize
    {document : Document Rat}
    (measured : document.IsMeasured)
    (text : String) :
    (document.textSize text).IsMeasured := by
  intro axis
  cases axis with
  | main =>
      exact mul_nonneg (Nat.cast_nonneg _) measured.charWidth
  | cross =>
      exact mul_nonneg (Nat.cast_nonneg _) measured.lineHeight

/-- A box has no negative strips and no negative size. -/
structure Node.IsMeasured (node : Node Rat) : Prop where
  spacing : node.spacing.IsMeasured
  width : ∀ width ∈ node.width, 0 ≤ width
  height : ∀ height ∈ node.height, 0 ≤ height

/-- No extent of a diagram is negative. -/
structure Diagram.IsMeasured (diagram : Diagram Rat) : Prop where
  document : diagram.document.IsMeasured
  node : ∀ {id : NodeId} {node : Node Rat}, diagram.graph.get? id = some node → node.IsMeasured

/-- No label that is measured by its characters has a negative size. -/
theorem Diagram.IsMeasured.labelSizes
    {diagram : Diagram Rat}
    {size : Size Rat}
    (measured : diagram.IsMeasured)
    (member : some size ∈ diagram.labelSizes TextMeasure.byCount) :
    size.IsMeasured := by
  obtain ⟨node, _, isSize⟩ := Array.mem_map.mp member
  obtain ⟨text, _, rfl⟩ := Option.map_eq_some_iff.mp isSize
  exact measured.document.textSize text

/-- No extent of a resolved diagram is negative. -/
theorem Diagram.isMeasured_of_ofOutline
    {outline : Outline}
    {diagram : Diagram Rat}
    (succeeded : Diagram.ofOutline outline = .ok diagram) :
    diagram.IsMeasured := by
  have ofMeasures : OfMeasures fun number : Rat => 0 ≤ number :=
    ⟨fun _ measure => Scalar.isMeasure_rat.mp measure, fun count _ => Nat.cast_nonneg count⟩
  have isMeasured :
      ∀ {spacing : Spacing Rat}, spacing.Each (0 ≤ ·) → spacing.IsMeasured :=
    fun each => ⟨each.margin, each.border, each.padding⟩
  obtain ⟨document, node⟩ := Diagram.each_of_ofOutline ofMeasures succeeded
  constructor
  case document =>
    exact ⟨fun kind => isMeasured (document.spacing kind), document.charWidth,
      document.lineHeight, document.laneWidth, document.gateGap⟩
  case node =>
    intro id found isNode
    obtain ⟨spacing, width, height⟩ := node isNode
    exact ⟨isMeasured spacing, width, height⟩

end BoxDiagram
