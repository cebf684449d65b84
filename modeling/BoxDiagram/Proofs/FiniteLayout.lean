import BoxDiagram.Proofs.Compiler
import BoxDiagram.Proofs.Layout.Finite

namespace BoxDiagram

open Single (IsMeasure IsWithin value)

/-!
# Finite layouts

The numbers of a text are finite, but sums of them need not be: two large boxes below
each other overflow, and so does the middle of two coordinates above `2 ^ 127`.  A layout
that stays below has no number anywhere that is not finite if its labels are finite.  The
size does not have to stay far below: sizes and places are rounded in different orders, so
the boxes of a layout may reach beyond its size, but only by a small part for each of them.
-/

namespace Single

/-- How large a layout of a number of boxes may be. -/
def sizeLimit (boxes : Nat) : Rat :=
  (2 ^ 127 - 2 ^ 118) / (1 + boxes / 2 ^ 17)

/-- The limit leaves a part of the size free for each box, and some grains for each level. -/
theorem sizeLimit_mul
    (boxes : Nat) :
    sizeLimit boxes * (1 + boxes / 2 ^ 17) = 2 ^ 127 - 2 ^ 118 :=
  div_mul_cancel₀ _ (by positivity)

/-- Small whole numbers are measures, and so is what is checked to be one. -/
theorem ofMeasures_isMeasure :
    OfMeasures IsMeasure where
  measure _ isMeasure := isMeasure_iff.mp isMeasure
  count count small :=
    have upTo := isUpTo_ofNat (show count ≤ 2 ^ 4 from small) (by decide)
    ⟨upTo.isFinite, upTo.nonneg⟩

end Single

/-- The size of a label that is measured by its characters is not negative if it is finite. -/
theorem Document.isMeasure_textSize
    {document : Document Float32}
    {text : String}
    (each : document.Each IsMeasure)
    (isFinite : (document.textSize text).Each (Scalar.isFinite · = true)) :
    (document.textSize text).Each IsMeasure
  | .main => Single.isMeasure_mul_ofNat each.charWidth (isFinite .main)
  | .cross => Single.isMeasure_mul_ofNat each.lineHeight (isFinite .cross)

namespace Compiler

variable {source : String} {diagram : Diagram Float32} {config : Config}

/-- What is laid out of a diagram with finite labels and not too many links is bounded. -/
theorem isBounded_of_allocate
    {input : LayoutInput Float32}
    (tree : diagram.graph.IsTree)
    (each : diagram.Each IsMeasure)
    (few : diagram.document.laneMin ≤ 2 ^ 65 ∧ input.table.routes.length ≤ 2 ^ 65)
    (labelsFinite :
      ∀ size : Size Float32, some size ∈ diagram.labelSizes TextMeasure.byCount →
        size.Each (Scalar.isFinite · = true))
    (succeeded : ({ config } : Compiler Float32).allocate diagram = .ok input) :
    input.IsBounded := by
  obtain ⟨routes, planned, succeeded⟩ := Attempt.bind_eq_ok_iff.mp succeeded
  obtain ⟨table, allocated, same⟩ := Attempt.bind_eq_ok_iff.mp succeeded
  cases same
  have nodup : (routes.map (·.link)).Nodup :=
    (RoutePlanner.areFor_of_ofKind tree planned).links_eq ▸ List.nodup_range
  have counted : table.routes.length = routes.length := by
    rw [(RoadTable.of_allocate allocated).2, List.length_map]
    rfl
  constructor
  case diagram =>
    exact each
  case label =>
    intro id size isLabel
    have member := Array.mem_of_getElem? (Option.join_eq_some_iff.mp isLabel)
    have isFinite := labelsFinite size member
    obtain ⟨node, _, isSize⟩ := Array.mem_map.mp member
    obtain ⟨text, _, rfl⟩ := Option.map_eq_some_iff.mp isSize
    exact Document.isMeasure_textSize each.document isFinite
  case lanes =>
    intro road lanes isFound
    refine (RoadTable.count_le_of_allocate nodup allocated isFound).trans ?_
    exact max_le (counted ▸ few.2) few.1

/--
Every number of the layout of a text is finite if its labels are, its size is not above the
limit for its number of boxes and its links can be counted.
-/
theorem isFinite_of_compile
    {layout : Layout Float32}
    (parsed : ({ config } : Compiler Float32).parse source = .ok diagram)
    (compiled : ({ config } : Compiler Float32).compile source = .ok layout)
    (sizeFits : layout.size.Each (IsWithin (Single.sizeLimit layout.nodes.length)))
    (labelsFinite :
      ∀ size : Size Float32, some size ∈ diagram.labelSizes TextMeasure.byCount →
        size.Each (Scalar.isFinite · = true))
    (fewLinks : layout.links.length < 2 ^ 64) :
    layout.Each (Scalar.isFinite · = true) := by
  obtain ⟨_, parsedAgain, laidOut⟩ := Attempt.bind_eq_ok_iff.mp compiled
  rw [parsed] at parsedAgain
  cases parsedAgain
  obtain ⟨input, allocated, placed⟩ := Attempt.bind_eq_ok_iff.mp laidOut
  rw [place, StageHooks.tryRun_default] at placed
  obtain ⟨outline, ofOutline⟩ := exists_outline_of_parse parsed
  have resolved := Diagram.isResolved_of_ofOutline ofOutline
  have inOrder := Diagram.isInOrder_of_ofOutline ofOutline
  have each := Diagram.each_of_ofOutline Single.ofMeasures_isMeasure ofOutline
  have fewLanes : diagram.document.laneMin ≤ 2 ^ 65 := each.document.laneMin.trans (by decide)
  obtain ⟨inputEq, routed, _⟩ := isRouted_of_allocate resolved allocated
  have tree := inputEq ▸ resolved.tree
  rw [← inputEq] at inOrder
  have fewRoutes : input.table.routes.length ≤ 2 ^ 65 := by
    rw [LayoutEngine.length_links_of_nested tree inOrder routed.isOver placed] at fewLinks
    omega
  have bounded :=
    isBounded_of_allocate resolved.tree each ⟨fewLanes, fewRoutes⟩ labelsFinite allocated
  have extent :=
    LayoutEngine.isExtent_size_of_nested tree inOrder routed.isOver bounded placed
  refine LayoutEngine.each_isFinite_of_nested tree inOrder routed bounded fewRoutes placed
    (fun axis => ?_) (by rw [Single.sizeLimit_mul, sub_add_cancel])
  obtain ⟨isFinite, abs_le⟩ := sizeFits axis
  exact ⟨isFinite, (extent axis).nonneg isFinite, (le_abs_self _).trans abs_le⟩

/-- The layout of a very wide box, another one and a link between them is finite. -/
theorem exists_isFinite_of_compile :
    ∃ (diagram : Diagram Float32) (layout : Layout Float32),
      ({} : Compiler Float32).parse "(a width=1.698e38) -> (b)" = .ok diagram ∧
        ({} : Compiler Float32).compile "(a width=1.698e38) -> (b)" = .ok layout ∧
          layout.links.length = 1 ∧ layout.Each (Scalar.isFinite · = true) := by
  have parses :
      (({} : Compiler Float32).parse "(a width=1.698e38) -> (b)").toOption.map
          (fun diagram => (diagram.labelSizes TextMeasure.byCount).toList.all fun label =>
            label.all fun size => decide (size.Each (Scalar.isFinite · = true))) =
        some true := by
    decide +kernel
  have compiles :
      (({} : Compiler Float32).compile "(a width=1.698e38) -> (b)").toOption.map
          (fun layout => (layout.links.length,
            decide (layout.size.Each (IsWithin (Single.sizeLimit layout.nodes.length))))) =
        some (1, true) := by
    decide +kernel
  obtain ⟨diagram, parsed, labelsFinite⟩ := Option.map_eq_some_iff.mp parses
  obtain ⟨layout, compiled, fits⟩ := Option.map_eq_some_iff.mp compiles
  have parsed := Attempt.toOption_eq_some_iff.mp parsed
  have compiled := Attempt.toOption_eq_some_iff.mp compiled
  simp only [Prod.mk.injEq, decide_eq_true_eq] at fits
  obtain ⟨oneLink, sizeFits⟩ := fits
  exact ⟨diagram, layout, parsed, compiled, oneLink,
    isFinite_of_compile parsed compiled sizeFits (Size.each_of_all labelsFinite)
      (by rw [oneLink]; decide)⟩

/-- Two boxes of a finite height each, below each other, have none together. -/
theorem exists_infinite_of_compile :
    ∃ layout : Layout Float32,
      ({} : Compiler Float32).compile "(a height=3e38)\n(b height=3e38)" = .ok layout ∧
        ¬ layout.Each (Scalar.isFinite · = true) := by
  have compiles :
      (({} : Compiler Float32).compile "(a height=3e38)\n(b height=3e38)").toOption.map
          (fun layout => Scalar.isFinite layout.size.height) =
        some false := by
    decide +kernel
  obtain ⟨layout, compiled, notFinite⟩ := Option.map_eq_some_iff.mp compiles
  refine ⟨layout, Attempt.toOption_eq_some_iff.mp compiled, ?_⟩
  intro each
  rw [show layout.size.height = layout.size.along .cross from rfl, each.size .cross] at notFinite
  cases notFinite

/-- The labels of a finite layout start at a finite place. -/
theorem all_labels_of_each
    {layout : Layout Float32}
    (each : layout.Each (Scalar.isFinite · = true)) :
    (layout.nodes.all fun node =>
      node.label.all fun label => Scalar.isFinite label.bounds.minX) = true := by
  refine List.all_eq_true.mpr fun node isNode => ?_
  rw [Option.all_eq_true]
  exact fun label isLabel => ((each.nodes node isNode).label label isLabel .main).1

/-- Where a layout is `2 ^ 127` wide, the middle of a label may not be finite. -/
theorem exists_infinite_of_compile_wide :
    ∃ layout : Layout Float32,
      ({} : Compiler Float32).compile
            "direction=row\n(a width=1.7014118346046923e38) (b)" = .ok layout ∧
        layout.size.Each (IsWithin (2 ^ 127)) ∧
          ¬ layout.Each (Scalar.isFinite · = true) := by
  have compiles :
      (({} : Compiler Float32).compile
            "direction=row\n(a width=1.7014118346046923e38) (b)").toOption.map
          (fun layout =>
            (decide (layout.size.Each (IsWithin (2 ^ 127))),
              layout.nodes.all fun node =>
                node.label.all fun label => Scalar.isFinite label.bounds.minX)) =
        some (true, false) := by
    decide +kernel
  obtain ⟨layout, compiled, found⟩ := Option.map_eq_some_iff.mp compiles
  simp only [Prod.mk.injEq, decide_eq_true_eq] at found
  obtain ⟨sizeFits, notFinite⟩ := found
  refine ⟨layout, Attempt.toOption_eq_some_iff.mp compiled, sizeFits, ?_⟩
  intro each
  rw [all_labels_of_each each] at notFinite
  cases notFinite

/-- A label that is not finite is not made finite by a small box around it. -/
theorem exists_infinite_of_compile_label :
    ∃ layout : Layout Float32,
      ({} : Compiler Float32).compile "char_width=3e38\n(\"ab\" width=9)" = .ok layout ∧
        value layout.size.width = 39 ∧ value layout.size.height = 46 ∧
          ¬ layout.Each (Scalar.isFinite · = true) := by
  have compiles :
      (({} : Compiler Float32).compile "char_width=3e38\n(\"ab\" width=9)").toOption.map
          (fun layout =>
            (value layout.size.width, value layout.size.height,
              layout.nodes.all fun node =>
                node.label.all fun label => Scalar.isFinite label.bounds.minX)) =
        some (39, 46, false) := by
    decide +kernel
  obtain ⟨layout, compiled, found⟩ := Option.map_eq_some_iff.mp compiles
  simp only [Prod.mk.injEq] at found
  obtain ⟨width_eq, height_eq, notFinite⟩ := found
  refine ⟨layout, Attempt.toOption_eq_some_iff.mp compiled, width_eq, height_eq, ?_⟩
  intro each
  rw [all_labels_of_each each] at notFinite
  cases notFinite

/--
What is lost when sizes are added up is not lost when boxes are placed: roads of `2 ^ 102`
add nothing to a box of `2 ^ 126`, but two of them before the box move it beyond the layout.
-/
theorem exists_beyond_size_of_compile :
    ∃ layout : Layout Float32,
      ({} : Compiler Float32).compile
            "direction=row lane_width=5.0706024e30 lane_min=1\n(a) (b width=8.507059e37)" =
          .ok layout ∧
        value layout.size.width = 2 ^ 126 ∧
          ∃ node ∈ layout.nodes, value node.bounds.maxX = 2 ^ 126 + 2 ^ 103 := by
  have compiles :
      (({} : Compiler Float32).compile
            "direction=row lane_width=5.0706024e30 lane_min=1\n(a) (b width=8.507059e37)"
          |>.toOption.map fun layout =>
            (decide (value layout.size.width = 2 ^ 126),
              layout.nodes.any fun node =>
                decide (value node.bounds.maxX = 2 ^ 126 + 2 ^ 103))) =
        some (true, true) := by
    decide +kernel
  obtain ⟨layout, compiled, found⟩ := Option.map_eq_some_iff.mp compiles
  simp only [Prod.mk.injEq, decide_eq_true_eq, List.any_eq_true] at found
  exact ⟨layout, Attempt.toOption_eq_some_iff.mp compiled, found⟩

end Compiler

end BoxDiagram
