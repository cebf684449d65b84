import BoxDiagram.Diagram.Label
import BoxDiagram.Proofs.Graph.Resolved

namespace BoxDiagram

open Outline (Attribute)

/-!
# The numbers of a diagram

The readers of attributes accept no number that is not finite or lies below zero, and a
diagram that sets no number has small whole ones.  So what holds of all such numbers
holds of every number of a resolved diagram.
-/

/-- Something holds of the widths of all strips. -/
def Insets.Each {α : Type} (holds : α → Prop) (insets : Insets α) : Prop :=
  ∀ direction, holds (insets.side direction)

/-- Something holds of the strips of all layers. -/
structure Spacing.Each {α : Type} (holds : α → Prop) (spacing : Spacing α) : Prop where
  margin : spacing.margin.Each holds
  border : spacing.border.Each holds
  padding : spacing.padding.Each holds

/-- Something holds of all extents that a document sets, and its lanes can be counted. -/
structure Document.Each {α : Type} (holds : α → Prop) (document : Document α) : Prop where
  spacing : ∀ kind, (document.spacing kind).Each holds
  charWidth : holds document.charWidth
  lineHeight : holds document.lineHeight
  laneWidth : holds document.laneWidth
  laneMin : document.laneMin ≤ Attribute.maxCount
  gateGap : holds document.gateGap
  linkBorder : holds document.linkBorder

/-- Something holds of all extents that a box sets. -/
structure BoxSettings.Each {α : Type} (holds : α → Prop) (settings : BoxSettings α) : Prop where
  margin : ∀ insets ∈ settings.margin, insets.Each holds
  border : ∀ insets ∈ settings.border, insets.Each holds
  padding : ∀ insets ∈ settings.padding, insets.Each holds
  width : ∀ width ∈ settings.width, holds width
  height : ∀ height ∈ settings.height, holds height

/-- Something holds of all extents of a box. -/
structure Node.Each {α : Type} (holds : α → Prop) (node : Node α) : Prop where
  spacing : node.spacing.Each holds
  width : ∀ width ∈ node.width, holds width
  height : ∀ height ∈ node.height, holds height

/-- Something holds of all extents of a diagram and its boxes. -/
structure Diagram.Each {α : Type} (holds : α → Prop) (diagram : Diagram α) : Prop where
  document : diagram.document.Each holds
  node : ∀ {id : NodeId} {node : Node α}, diagram.graph.get? id = some node → node.Each holds

/-- A property that every measure has, and the numbers of a diagram that sets none. -/
structure OfMeasures {α : Type} [Scalar α] (holds : α → Prop) : Prop where
  measure : ∀ number, Scalar.isMeasure number = true → holds number
  count : ∀ count ≤ 16, holds (Scalar.ofNat count)

variable {α : Type} {holds : α → Prop}

section Layers

/-- What holds of a spacing and of new strips holds with these in one layer. -/
theorem Spacing.Each.withLayer
    {spacing : Spacing α}
    {insets : Insets α}
    (each : spacing.Each holds)
    (insetsEach : insets.Each holds)
    (layer : Layer) :
    (spacing.withLayer layer insets).Each holds := by
  cases layer with
  | margin =>
      exact { each with margin := insetsEach }
  | border =>
      exact { each with border := insetsEach }
  | padding =>
      exact { each with padding := insetsEach }

/-- Setting the spacing of one kind leaves those of the others. -/
theorem Document.spacing_withSpacing
    (document : Document α)
    (kind other : Kind)
    (spacing : Spacing α) :
    (document.withSpacing kind spacing).spacing other =
      if other = kind then spacing else document.spacing other := by
  cases kind <;> cases other <;> rfl

theorem Document.Each.withLayer
    {document : Document α}
    {insets : Insets α}
    (each : document.Each holds)
    (insetsEach : insets.Each holds)
    (kind : Kind)
    (layer : Layer) :
    (document.withLayer kind layer insets).Each holds := by
  constructor
  case spacing =>
    intro other
    rw [Document.withLayer, spacing_withSpacing]
    split
    · exact (each.spacing kind).withLayer insetsEach layer
    · exact each.spacing other
  case charWidth =>
    cases kind <;> exact each.charWidth
  case lineHeight =>
    cases kind <;> exact each.lineHeight
  case laneWidth =>
    cases kind <;> exact each.laneWidth
  case laneMin =>
    cases kind <;> exact each.laneMin
  case gateGap =>
    cases kind <;> exact each.gateGap
  case linkBorder =>
    cases kind <;> exact each.linkBorder

/-- The layers that a box does not set are those of its kind. -/
theorem BoxSettings.Each.spacing
    {settings : BoxSettings α}
    {default : Spacing α}
    (each : settings.Each holds)
    (defaultEach : default.Each holds) :
    (settings.spacing default).Each holds := by
  have of_getD :
      ∀ {layer : Option (Insets α)} {other : Insets α},
        (∀ insets ∈ layer, insets.Each holds) → other.Each holds →
          (layer.getD other).Each holds := by
    intro layer other layerEach otherEach
    cases layer with
    | none =>
        exact otherEach
    | some insets =>
        exact layerEach insets rfl
  exact ⟨of_getD each.margin defaultEach.margin, of_getD each.border defaultEach.border,
    of_getD each.padding defaultEach.padding⟩

end Layers

namespace Outline.Attribute

/-- A value is what a reader finds in the text of an attribute. -/
theorem exists_text_of_valueAs
    {β : Type}
    {written : Attribute}
    {expected : String}
    {read? : String → Option β}
    {value : β}
    (succeeded : written.valueAs expected read? = .ok value) :
    ∃ text, read? text = some value := by
  rw [valueAs] at succeeded
  split at succeeded
  · rename_i found isFound
    cases succeeded
    obtain ⟨text, _, isRead⟩ := Option.bind_eq_some_iff.mp isFound
    exact ⟨text, isRead⟩
  · cases succeeded

/-- A count that was read fits into a machine word. -/
theorem le_maxCount_of_asCount
    {written : Attribute}
    {count : Nat}
    (succeeded : written.asCount = .ok count) :
    count ≤ maxCount := by
  obtain ⟨text, isRead⟩ := exists_text_of_valueAs succeeded
  simpa using (Option.filter_eq_some_iff.mp isRead).2

variable [Scalar α]

/-- What is read as a measure is one. -/
theorem isMeasure_of_measure?
    {text : List Char}
    {number : α}
    (isRead : measure? text = some number) :
    Scalar.isMeasure number = true :=
  (Option.filter_eq_some_iff.mp isRead).2

/-- An attribute that is read as a measure is one. -/
theorem isMeasure_of_asMeasure
    {written : Attribute}
    {number : α}
    (succeeded : written.asMeasure = .ok number) :
    Scalar.isMeasure number = true := by
  obtain ⟨text, isRead⟩ := exists_text_of_valueAs succeeded
  exact isMeasure_of_measure? isRead

/-- All of several measures that are read are measures. -/
theorem isMeasure_of_mapM_measure?
    {texts : List (List Char)}
    {numbers : List α}
    (areRead : texts.mapM measure? = some numbers) :
    ∀ number ∈ numbers, Scalar.isMeasure number = true := by
  induction texts generalizing numbers with
  | nil =>
      cases areRead
      intro number isNone
      cases isNone
  | cons text rest inductionHypothesis =>
      rw [List.mapM_cons] at areRead
      obtain ⟨first, isFirst, areRead⟩ := Option.bind_eq_some_iff.mp areRead
      obtain ⟨others, areOthers, same⟩ := Option.bind_eq_some_iff.mp areRead
      cases same
      exact List.forall_mem_cons.mpr
        ⟨isMeasure_of_measure? isFirst, inductionHypothesis areOthers⟩

/-- The strips that were read are measures. -/
theorem each_of_asInsets
    {written : Attribute}
    {insets : Insets α}
    (succeeded : written.asInsets = .ok insets) :
    insets.Each (Scalar.isMeasure · = true) := by
  obtain ⟨text, isRead⟩ := exists_text_of_valueAs succeeded
  obtain ⟨numbers, areRead, isShorthand⟩ := Option.bind_eq_some_iff.mp isRead
  have measured := isMeasure_of_mapM_measure? areRead
  intro direction
  apply measured _
  match numbers, isShorthand with
  | [every], rfl =>
      cases direction <;> simp [Insets.side, Insets.uniform]
  | [vertical, horizontal], rfl =>
      cases direction <;> simp [Insets.side]
  | [top, right, bottom, left], rfl =>
      cases direction <;> simp [Insets.side]

end Outline.Attribute

variable [Scalar α]

namespace OfMeasures

/-- What holds of all measures holds of an attribute that is read as one. -/
theorem asMeasure
    (ofMeasures : OfMeasures holds)
    {written : Attribute}
    {number : α}
    (succeeded : written.asMeasure = .ok number) :
    holds number :=
  ofMeasures.measure number (Attribute.isMeasure_of_asMeasure succeeded)

/-- What holds of all measures holds of the strips of an attribute. -/
theorem asInsets
    (ofMeasures : OfMeasures holds)
    {written : Attribute}
    {insets : Insets α}
    (succeeded : written.asInsets = .ok insets) :
    insets.Each holds :=
  fun direction => ofMeasures.measure _ (Attribute.each_of_asInsets succeeded direction)

/-- It holds of the numbers of a document that sets nothing. -/
theorem document_default
    (ofMeasures : OfMeasures holds) :
    (Document.default : Document α).Each holds := by
  have uniform : ∀ width ≤ 16, (Insets.uniform (Scalar.ofNat width)).Each holds := by
    intro width small direction
    cases direction <;> exact ofMeasures.count width small
  have zero : (Insets.zero : Insets α).Each holds := uniform 0 (by decide)
  constructor
  case spacing =>
    intro kind
    cases kind with
    | group =>
        exact ⟨uniform 4 (by decide), uniform 1 (by decide), uniform 8 (by decide)⟩
    | unit =>
        exact ⟨zero, zero, uniform 4 (by decide)⟩
    | cell =>
        exact ⟨uniform 4 (by decide), uniform 1 (by decide), uniform 6 (by decide)⟩
  case laneMin =>
    exact Nat.zero_le _
  all_goals exact ofMeasures.count _ (by decide)

/-- What holds of a document holds with one more attribute. -/
theorem document_add
    {document next : Document α}
    {written : Attribute}
    (ofMeasures : OfMeasures holds)
    (each : document.Each holds)
    (succeeded : document.add written = .ok next) :
    next.Each holds := by
  rw [Document.add] at succeeded
  split at succeeded
  case h_19 =>
    cases succeeded
    exact each
  -- All other attributes are read first.
  all_goals obtain ⟨value, isRead, same⟩ := Attempt.bind_eq_ok_iff.mp succeeded
  all_goals cases same
  case h_10 =>
    exact { each with charWidth := ofMeasures.asMeasure isRead }
  case h_11 =>
    exact { each with lineHeight := ofMeasures.asMeasure isRead }
  case h_12 =>
    exact { each with laneWidth := ofMeasures.asMeasure isRead }
  case h_13 =>
    exact { each with laneMin := Attribute.le_maxCount_of_asCount isRead }
  case h_14 =>
    exact { each with gateGap := ofMeasures.asMeasure isRead }
  case h_15 =>
    exact { each with linkBorder := ofMeasures.asMeasure isRead }
  all_goals
    first
    | exact each.withLayer (ofMeasures.asInsets isRead) _ _
    | exact { each with }

/-- It holds of all extents that the attributes of a diagram set. -/
theorem document_read
    {written : List Attribute}
    {document : Document α}
    (ofMeasures : OfMeasures holds)
    (succeeded : Document.read written = .ok document) :
    document.Each holds := by
  apply Attempt.foldlM_keeps succeeded ofMeasures.document_default
  intro setting _ before after each step
  exact ofMeasures.document_add each step

/-- What holds of all measures holds of an extent of a box. -/
theorem extent
    {kind : Kind}
    {written : Attribute}
    {number : α}
    (ofMeasures : OfMeasures holds)
    (succeeded : BoxSettings.extent kind written = .ok number) :
    holds number := by
  rw [BoxSettings.extent] at succeeded
  split at succeeded
  · exact ofMeasures.asMeasure succeeded
  · cases succeeded

/-- What holds of settings holds with one more attribute. -/
theorem settings_add
    {kind : Kind}
    {settings next : BoxSettings α}
    {written : Attribute}
    (ofMeasures : OfMeasures holds)
    (each : settings.Each holds)
    (succeeded : settings.add kind written = .ok next) :
    next.Each holds := by
  have of_some :
      ∀ {β : Type} {property : β → Prop} {value : β},
        property value → ∀ other ∈ some value, property other := by
    intro β property value isHeld other same
    cases same
    exact isHeld
  rw [BoxSettings.add] at succeeded
  split at succeeded
  case h_10 =>
    cases succeeded
    exact each
  all_goals obtain ⟨value, isRead, same⟩ := Attempt.bind_eq_ok_iff.mp succeeded
  all_goals cases same
  case h_3 =>
    exact { each with margin := of_some (ofMeasures.asInsets isRead) }
  case h_4 =>
    exact { each with border := of_some (ofMeasures.asInsets isRead) }
  case h_5 =>
    exact { each with padding := of_some (ofMeasures.asInsets isRead) }
  case h_8 =>
    exact { each with width := of_some (ofMeasures.extent isRead) }
  case h_9 =>
    exact { each with height := of_some (ofMeasures.extent isRead) }
  all_goals exact { each with }

/-- It holds of all extents that the attributes of a box set. -/
theorem settings_read
    {kind : Kind}
    {written : List Attribute}
    {settings : BoxSettings α}
    (ofMeasures : OfMeasures holds)
    (succeeded : BoxSettings.read kind written = .ok settings) :
    settings.Each holds := by
  have nothing : (BoxSettings.none : BoxSettings α).Each holds := by
    constructor <;> intro _ isNone <;> cases isNone
  apply Attempt.foldlM_keeps succeeded nothing
  intro setting _ before after each step
  exact ofMeasures.settings_add each step

end OfMeasures

/-- What holds of all measures holds of every extent of a resolved diagram. -/
theorem Diagram.each_of_ofOutline
    {outline : Outline}
    {diagram : Diagram α}
    (ofMeasures : OfMeasures holds)
    (succeeded : Diagram.ofOutline outline = .ok diagram) :
    diagram.Each holds := by
  obtain ⟨placed, _, documentRead, numbered, graphEq, _⟩ :=
    Diagram.exists_numbered_of_ofOutline succeeded
  have documentEach := ofMeasures.document_read documentRead
  constructor
  case document =>
    exact documentEach
  case node =>
    intro id node isNode
    rw [graphEq, Graph.get?, List.getElem?_toArray, List.getElem?_map] at isNode
    obtain ⟨found, isFound, rfl⟩ := Option.map_eq_some_iff.mp isNode
    obtain ⟨place, settings, box, _, _, settingsRead, rfl⟩ :=
      (numbered.isMade Place.fits_root found (List.mem_of_getElem? isFound)).made
    have settingsEach := ofMeasures.settings_read settingsRead
    exact {
      spacing := settingsEach.spacing (documentEach.spacing box.kind)
      width := settingsEach.width
      height := settingsEach.height }

end BoxDiagram
