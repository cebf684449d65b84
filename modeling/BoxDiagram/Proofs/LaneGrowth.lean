import BoxDiagram.Proofs.FiniteLayout
import BoxDiagram.Proofs.Layout.Growth

namespace BoxDiagram

open Single (IsMeasure)

/-!
# More lanes make no layout smaller

A diagram asks for a least number of lanes on each of its roads.  For the same routes a
larger number leaves every road with at least as many lanes, and so makes no box smaller.
A planner that searches a layout without links may find other routes there, however, since
that layout has more lanes as well, and the other routes may need fewer of them.
-/

/-- The first size is not above the second one, along either axis. -/
def Size.FitsIn {α : Type} [Scalar α] (first second : Size α) : Prop :=
  Scalar.atMost first.width second.width = true ∧ Scalar.atMost first.height second.height = true

/-- A size that widens another one has room for it. -/
theorem Size.Widens.fitsIn
    {first second : Size Float32}
    (widens : first.Widens second) :
    first.FitsIn second :=
  ⟨(widens .main).atMost, (widens .cross).atMost⟩

/-- The sizes of all labels are finite and not negative. -/
def AreMeasured (labels : Array (Option (Size Float32))) : Prop :=
  ∀ size : Size Float32, some size ∈ labels → size.Each (Scalar.isMeasure · = true)

/-- The diagram with another least number of lanes. -/
def Diagram.withLaneMin {α : Type} (diagram : Diagram α) (laneMin : Nat) : Diagram α :=
  { diagram with document := { diagram.document with laneMin } }

namespace RoadTable

/-- Each road has at least as many lanes in the second table, but not more than can be counted. -/
def HasFewerLanes (table other : RoadTable) : Prop :=
  ∀ {road : Road} {lanes others : RoadLanes},
    table.get? road = some lanes → other.get? road = some others →
      lanes.count ≤ others.count ∧ others.count < 2 ^ 64

/-- The same routes leave each road with more lanes if more are asked for. -/
theorem hasFewerLanes_of_allocate
    {α : Type}
    {graph : Graph α}
    {routes : List Route}
    {laneMin more : Nat}
    {table other : RoadTable}
    (nodup : (routes.map (·.link)).Nodup)
    (fewRoutes : routes.length < 2 ^ 64)
    (le : laneMin ≤ more)
    (fewLanes : more < 2 ^ 64)
    (allocated : allocate graph routes laneMin = .ok table)
    (otherAllocated : allocate graph routes more = .ok other) :
    table.HasFewerLanes other := by
  intro road lanes others found otherFound
  have exists_road : graph.HasRoad road :=
    (of_allocate allocated).1.exists_get?_iff.mp ⟨lanes, found⟩
  have counted := count_le_of_allocate nodup otherAllocated otherFound
  rw [get?_of_allocate nodup exists_road allocated] at found
  rw [get?_of_allocate nodup exists_road otherAllocated] at otherFound
  cases found
  cases otherFound
  rw [RoadLanes.count_ofUsers, RoadLanes.count_ofUsers] at *
  omega

end RoadTable

/-- Inputs that differ in the number of lanes only are told by their tables. -/
theorem LayoutInput.HasFewerLanes.of_tables
    {diagram other : Diagram Float32}
    {table otherTable : RoadTable}
    {labels : Array (Option (Size Float32))}
    (graph_eq : other.graph = diagram.graph)
    (laneWidth_eq : other.document.laneWidth = diagram.document.laneWidth)
    (measures : diagram.Each IsMeasure)
    (measured : AreMeasured labels)
    (isOver : table.lanes.IsOver diagram.graph)
    (otherIsOver : otherTable.lanes.IsOver diagram.graph)
    (fewer : table.HasFewerLanes otherTable) :
    ({ diagram, table, labels } : LayoutInput Float32).HasFewerLanes
      { diagram := other, table := otherTable, labels } where
  graph_eq := graph_eq
  laneWidth_eq := laneWidth_eq
  labels_eq := rfl
  measures := measures
  labelExtent := by
    intro id size isLabel axis
    have member := Array.mem_of_getElem? (Option.join_eq_some_iff.mp isLabel)
    exact (Single.isMeasure_iff.mp (measured size member axis)).isExtent
  lanes := by
    intro road
    change Option.Rel _ (table.lanes.get? road) (otherTable.lanes.get? road)
    by_cases exists_road : diagram.graph.HasRoad road
    · obtain ⟨lanes, found⟩ := isOver.exists_get?_iff.mpr exists_road
      obtain ⟨others, otherFound⟩ := otherIsOver.exists_get?_iff.mpr exists_road
      obtain ⟨le, few⟩ := fewer found otherFound
      rw [found, otherFound]
      exact .some ⟨le, by omega⟩
    · rw [isOver.get?_eq_none exists_road, otherIsOver.get?_eq_none exists_road]
      exact .none

/-- Inputs with the same routes differ in the lanes that were asked for only. -/
theorem LayoutInput.HasFewerLanes.of_allocate
    {diagram other : Diagram Float32}
    {routes : List Route}
    {laneMin more : Nat}
    {table otherTable : RoadTable}
    {labels : Array (Option (Size Float32))}
    (graph_eq : other.graph = diagram.graph)
    (laneWidth_eq : other.document.laneWidth = diagram.document.laneWidth)
    (measures : diagram.Each IsMeasure)
    (measured : AreMeasured labels)
    (nodup : (routes.map (·.link)).Nodup)
    (fewRoutes : routes.length < 2 ^ 64)
    (le : laneMin ≤ more)
    (fewLanes : more < 2 ^ 64)
    (allocated : RoadTable.allocate diagram.graph routes laneMin = .ok table)
    (otherAllocated : RoadTable.allocate other.graph routes more = .ok otherTable) :
    ({ diagram, table, labels } : LayoutInput Float32).HasFewerLanes
      { diagram := other, table := otherTable, labels } := by
  rw [graph_eq] at otherAllocated
  exact .of_tables graph_eq laneWidth_eq measures measured (RoadTable.of_allocate allocated).1
    (RoadTable.of_allocate otherAllocated).1
    (RoadTable.hasFewerLanes_of_allocate nodup fewRoutes le fewLanes allocated otherAllocated)

namespace Compiler

variable {config : Config} {measure : TextMeasure Float32} {diagram : Diagram Float32}

/-- A diagram whose links are planned is laid out with the lanes of the routes. -/
theorem exists_layout_of_plan
    {routes : List Route}
    (resolved : diagram.IsResolved)
    (inOrder : diagram.graph.IsInOrder)
    (planned :
      ({ config, measure } : Compiler Float32).plan diagram (diagram.labelSizes measure)
        diagram.links = .ok routes) :
    ∃ table layout,
      RoadTable.allocate diagram.graph routes diagram.document.laneMin = .ok table ∧
        ({ config, measure } : Compiler Float32).layout diagram = .ok layout ∧
          LayoutEngine.nested LayoutEngine.defaultDepthLimit
            { diagram, table, labels := diagram.labelSizes measure } = .ok layout := by
  obtain ⟨table, allocated, inputAllocated⟩ := exists_table_of_plan resolved planned
  obtain ⟨_, routed, _⟩ := isRouted_of_allocate resolved inputAllocated
  obtain ⟨layout, succeeded⟩ :=
    LayoutEngine.exists_nested resolved.tree inOrder routed
      (show maxNesting ≤ LayoutEngine.defaultDepthLimit from Nat.le_refl _)
  refine ⟨table, layout, allocated, ?_, succeeded⟩
  rw [Compiler.layout, inputAllocated, Attempt.ok_bind, place, StageHooks.tryRun_default]
  exact succeeded

section Growth

variable {labels : Array (Option (Size Float32))} {laneMin : Nat}

/-- A box is measured with either table, as no less wide and no less high with more lanes. -/
theorem exists_widened_box
    {table other : RoadTable}
    {id : NodeId}
    {node : Node Float32}
    {levels : Nat}
    (tree : diagram.graph.IsTree)
    (measures : diagram.Each IsMeasure)
    (measured : AreMeasured labels)
    (isOver : table.lanes.IsOver diagram.graph)
    (otherIsOver : other.lanes.IsOver diagram.graph)
    (fewer : table.HasFewerLanes other)
    (limit : Nat)
    (found : diagram.graph.get? id = some node)
    (enough : maxNesting < node.depth + levels) :
    ∃ box widened,
      ({ diagram, table, labels } : LayoutInput Float32).measure limit levels id = .ok box ∧
        ({ diagram, table := other, labels } : LayoutInput Float32).measure limit levels id =
            .ok widened ∧
          box.outer.FitsIn widened.outer := by
  have related : ({ diagram, table, labels } : LayoutInput Float32).HasFewerLanes
      { diagram, table := other, labels } :=
    .of_tables rfl rfl measures measured isOver otherIsOver fewer
  obtain ⟨box, isBox⟩ :
      ∃ box, ({ diagram, table, labels } : LayoutInput Float32).measure limit levels id =
        .ok box :=
    LayoutInput.exists_measure tree isOver limit found enough
  obtain ⟨widened, isWidened, widens⟩ := (related.measure_agree limit levels id).exists_ok isBox
  exact ⟨box, widened, isBox, isWidened, widens.fitsIn⟩

/-- The layout of the same routes is no smaller where more lanes are asked for. -/
theorem exists_widened_layout
    {routes : List Route}
    (resolved : diagram.IsResolved)
    (inOrder : diagram.graph.IsInOrder)
    (measures : diagram.Each IsMeasure)
    (measured : AreMeasured (diagram.labelSizes measure))
    (labelsEq :
      (diagram.withLaneMin laneMin).labelSizes measure = diagram.labelSizes measure)
    (le : diagram.document.laneMin ≤ laneMin)
    (fewLanes : laneMin < 2 ^ 64)
    (fewLinks : diagram.links.length < 2 ^ 64)
    (planned :
      ({ config, measure } : Compiler Float32).plan diagram (diagram.labelSizes measure)
        diagram.links = .ok routes)
    (otherPlanned :
      ({ config, measure } : Compiler Float32).plan (diagram.withLaneMin laneMin)
        (diagram.labelSizes measure) diagram.links = .ok routes) :
    ∃ layout widened,
      ({ config, measure } : Compiler Float32).layout diagram = .ok layout ∧
        ({ config, measure } : Compiler Float32).layout (diagram.withLaneMin laneMin) =
            .ok widened ∧
          layout.size.FitsIn widened.size := by
  have areFor := RoutePlanner.areFor_of_ofKind resolved.tree planned
  have otherResolved : (diagram.withLaneMin laneMin).IsResolved :=
    ⟨resolved.tree, resolved.joined⟩
  obtain ⟨table, layout, allocated, laidOut, succeeded⟩ :=
    exists_layout_of_plan resolved inOrder planned
  obtain ⟨other, widened, otherAllocated, otherLaidOut, otherSucceeded⟩ :=
    exists_layout_of_plan otherResolved inOrder (labelsEq ▸ otherPlanned)
  rw [labelsEq] at otherSucceeded
  have related : LayoutInput.HasFewerLanes
      { diagram, table, labels := diagram.labelSizes measure }
      { diagram := diagram.withLaneMin laneMin
        table := other
        labels := diagram.labelSizes measure } :=
    .of_allocate rfl rfl measures measured (areFor.links_eq ▸ List.nodup_range)
      (areFor.counted ▸ fewLinks) le fewLanes allocated otherAllocated
  exact ⟨layout, widened, laidOut, otherLaidOut,
    (related.size_widens succeeded otherSucceeded).fitsIn⟩

/-- The tree alone leads to the same routes, however many lanes are asked for. -/
theorem plan_withLaneMin
    (isTopological : config.route.planner = .topological)
    (diagram : Diagram Float32)
    (measure : TextMeasure Float32)
    (labels : Array (Option (Size Float32)))
    (laneMin : Nat) :
    ({ config, measure } : Compiler Float32).plan (diagram.withLaneMin laneMin) labels
        diagram.links =
      ({ config, measure } : Compiler Float32).plan diagram labels diagram.links := by
  have ofTree (given : Diagram Float32) (sameGraph : given.graph = diagram.graph) :
      ({ config, measure } : Compiler Float32).plan given labels diagram.links =
        Topological.plan diagram.graph config.route.depthLimit diagram.links := by
    rw [← sameGraph]
    change RoutePlanner.ofKind config.route.planner _ = _
    rw [isTopological]
    rfl
  rw [ofTree (diagram.withLaneMin laneMin) rfl, ofTree diagram rfl]

/-- Without links there are no routes, and the reference layout has at least as many lanes. -/
theorem exists_larger_reference
    (resolved : diagram.IsResolved)
    (inOrder : diagram.graph.IsInOrder)
    (measures : diagram.Each IsMeasure)
    (measured : AreMeasured (diagram.labelSizes measure))
    (fewLanes : config.reference.laneMin < 2 ^ 64) :
    ∃ layout reference,
      ({ config, measure } : Compiler Float32).layout { diagram with links := [] } = .ok layout ∧
        ({ config, measure } : Compiler Float32).referenceLayout diagram
            (diagram.labelSizes measure) = .ok reference ∧
          layout.size.FitsIn reference.size := by
  have noRoutes :
      ({ config, measure } : Compiler Float32).plan { diagram with links := [] }
        (diagram.labelSizes measure) [] = .ok [] := by
    change RoutePlanner.ofKind config.route.planner _ = _
    cases config.route.planner <;> rfl
  have bareResolved : ({ diagram with links := [] } : Diagram Float32).IsResolved :=
    ⟨resolved.tree, fun _ isLink => by cases isLink⟩
  obtain ⟨table, layout, allocated, laidOut, succeeded⟩ :=
    exists_layout_of_plan bareResolved inOrder noRoutes
  obtain ⟨reference, isReference, _⟩ :=
    exists_referenceLayout resolved.tree inOrder config (diagram.labelSizes measure)
  obtain ⟨other, otherAllocated, otherSucceeded⟩ := Attempt.bind_eq_ok_iff.mp isReference
  have related : LayoutInput.HasFewerLanes
      { diagram := { diagram with links := [] }, table, labels := diagram.labelSizes measure }
      { diagram, table := other, labels := diagram.labelSizes measure } :=
    .of_allocate rfl rfl ⟨measures.document, measures.node⟩ measured
      (show (([] : List Route).map (·.link)).Nodup from List.nodup_nil) (by decide)
      (le_max_left _ _) (max_lt (measures.document.laneMin.trans_lt (by decide)) fewLanes)
      allocated otherAllocated
  exact ⟨layout, reference, laidOut, isReference,
    (related.size_widens succeeded otherSucceeded).fitsIn⟩

end Growth

/-- More lanes make no box, no layout and no reference layout of a diagram smaller. -/
structure GrowsWithLanes (config : Config) (diagram : Diagram Float32) : Prop where
  /-- With more lanes on the roads no box is measured as less wide or less high. -/
  boxes :
    ∀ {labels : Array (Option (Size Float32))} {table other : RoadTable},
      AreMeasured labels → table.lanes.IsOver diagram.graph → other.lanes.IsOver diagram.graph →
        table.HasFewerLanes other →
          ∀ (limit levels : Nat) (id : NodeId) (node : Node Float32),
            diagram.graph.get? id = some node → maxNesting < node.depth + levels →
              ∃ box widened,
                ({ diagram, table, labels } : LayoutInput Float32).measure limit levels id =
                    .ok box ∧
                  ({ diagram, table := other, labels } : LayoutInput Float32).measure limit levels
                      id = .ok widened ∧
                    box.outer.FitsIn widened.outer
  /-- A larger least number of lanes does not make the layout smaller for the same routes. -/
  layouts :
    ∀ {measure : TextMeasure Float32} {laneMin : Nat} {routes : List Route},
      AreMeasured (diagram.labelSizes measure) →
        (diagram.withLaneMin laneMin).labelSizes measure = diagram.labelSizes measure →
          diagram.document.laneMin ≤ laneMin → laneMin < 2 ^ 64 → diagram.links.length < 2 ^ 64 →
            ({ config, measure } : Compiler Float32).plan diagram (diagram.labelSizes measure)
                diagram.links = .ok routes →
              ({ config, measure } : Compiler Float32).plan (diagram.withLaneMin laneMin)
                  (diagram.labelSizes measure) diagram.links = .ok routes →
                ∃ layout widened,
                  ({ config, measure } : Compiler Float32).layout diagram = .ok layout ∧
                    ({ config, measure } : Compiler Float32).layout
                        (diagram.withLaneMin laneMin) = .ok widened ∧
                      layout.size.FitsIn widened.size
  /-- Routes that are planned by the tree alone do not depend on the least number of lanes. -/
  sameRoutes :
    config.route.planner = .topological →
      ∀ (measure : TextMeasure Float32) (labels : Array (Option (Size Float32))) (laneMin : Nat),
        ({ config, measure } : Compiler Float32).plan (diagram.withLaneMin laneMin) labels
            diagram.links =
          ({ config, measure } : Compiler Float32).plan diagram labels diagram.links
  /-- The reference layout is no smaller than the layout of the diagram without its links. -/
  reference :
    ∀ {measure : TextMeasure Float32},
      AreMeasured (diagram.labelSizes measure) → config.reference.laneMin < 2 ^ 64 →
        ∃ layout reference,
          ({ config, measure } : Compiler Float32).layout { diagram with links := [] } =
              .ok layout ∧
            ({ config, measure } : Compiler Float32).referenceLayout diagram
                (diagram.labelSizes measure) = .ok reference ∧
              layout.size.FitsIn reference.size

/--
More lanes make no box of a parsed diagram smaller, whatever is rounded and whatever is
infinite.  So a larger least number of lanes does not make the layout of the same routes
smaller, and the reference layout is no smaller than the layout without links.
-/
theorem growsWithLanes_of_parse
    {source : String}
    (parsed : ({ config } : Compiler Float32).parse source = .ok diagram) :
    GrowsWithLanes config diagram := by
  obtain ⟨outline, ofOutline⟩ := exists_outline_of_parse parsed
  have resolved := Diagram.isResolved_of_ofOutline ofOutline
  have inOrder := Diagram.isInOrder_of_ofOutline ofOutline
  have measures := Diagram.each_of_ofOutline Single.ofMeasures_isMeasure ofOutline
  constructor
  case boxes =>
    intro labels table other measured isOver otherIsOver fewer limit levels id node found enough
    exact exists_widened_box resolved.tree measures measured isOver otherIsOver fewer limit found
      enough
  case layouts =>
    intro measure laneMin routes
    exact exists_widened_layout resolved inOrder measures
  case sameRoutes =>
    exact fun isTopological => plan_withLaneMin isTopological diagram
  case reference =>
    intro measure
    exact exists_larger_reference resolved inOrder measures

/-- Links are planned by the tree alone. -/
def byTree : Config :=
  Config.withPlanner {} .topological

/-- Two boxes with a link between them are no smaller with three lanes on each road. -/
theorem exists_growsWithLanes_of_parse :
    ∃ (diagram : Diagram Float32) (node : Node Float32) (few many : RoadTable)
      (routes : List Route) (layout widened bare reference : Layout Float32)
      (box wider : SizedBox Float32),
      ({ config := byTree } : Compiler Float32).parse "(a) -> (b)" = .ok diagram ∧
        diagram.graph.get? NodeId.root = some node ∧
          RoadTable.allocate diagram.graph [] 0 = .ok few ∧
            RoadTable.allocate diagram.graph [] 2 = .ok many ∧
              ({ config := byTree } : Compiler Float32).plan diagram
                  (diagram.labelSizes TextMeasure.byCount) diagram.links = .ok routes ∧
                routes.length = 1 ∧
                  (LayoutInput.measure
                      { diagram, table := few, labels := diagram.labelSizes TextMeasure.byCount }
                      1000 (maxNesting + 1) NodeId.root = .ok box ∧
                    LayoutInput.measure
                        { diagram, table := many, labels := diagram.labelSizes TextMeasure.byCount }
                        1000 (maxNesting + 1) NodeId.root = .ok wider ∧
                      box.outer.FitsIn wider.outer) ∧
                    (({ config := byTree } : Compiler Float32).layout diagram = .ok layout ∧
                      ({ config := byTree } : Compiler Float32).layout (diagram.withLaneMin 3) =
                          .ok widened ∧
                        layout.size.FitsIn widened.size) ∧
                      ({ config := byTree } : Compiler Float32).layout
                            { diagram with links := [] } = .ok bare ∧
                        ({ config := byTree } : Compiler Float32).referenceLayout diagram
                            (diagram.labelSizes TextMeasure.byCount) = .ok reference ∧
                          bare.size.FitsIn reference.size := by
  have runs :
      ((({ config := byTree } : Compiler Float32).parse "(a) -> (b)").toOption.bind fun diagram =>
        (diagram.graph.get? NodeId.root).bind fun _ =>
          (RoadTable.allocate diagram.graph [] 0).toOption.bind fun _ =>
            (RoadTable.allocate diagram.graph [] 2).toOption.bind fun _ =>
              (({ config := byTree } : Compiler Float32).plan diagram
                (diagram.labelSizes TextMeasure.byCount) diagram.links).toOption.map fun routes =>
                  ((diagram.labelSizes TextMeasure.byCount).toList.all fun label =>
                    label.all fun size => decide (size.Each (Scalar.isMeasure · = true)),
                  diagram.document.laneMin, diagram.links.length, routes.length)) =
        some (true, 0, 1, 1) := by
    decide +kernel
  obtain ⟨diagram, parsed, runs⟩ := Option.bind_eq_some_iff.mp runs
  obtain ⟨node, isRoot, runs⟩ := Option.bind_eq_some_iff.mp runs
  obtain ⟨few, isFew, runs⟩ := Option.bind_eq_some_iff.mp runs
  obtain ⟨many, isMany, runs⟩ := Option.bind_eq_some_iff.mp runs
  obtain ⟨routes, planned, counted⟩ := Option.map_eq_some_iff.mp runs
  rw [Attempt.toOption_eq_some_iff] at parsed isFew isMany planned
  simp only [Prod.mk.injEq] at counted
  obtain ⟨allMeasured, noLanes, oneLink, oneRoute⟩ := counted
  have measured := Size.each_of_all allMeasured
  have grows := growsWithLanes_of_parse parsed
  have noLinks : (([] : List Route).map (·.link)).Nodup := List.nodup_nil
  have fewer : few.HasFewerLanes many :=
    RoadTable.hasFewerLanes_of_allocate noLinks (by decide) (by decide) (by decide) isFew isMany
  obtain ⟨box, wider, isBox, isWider, boxFits⟩ :=
    grows.boxes measured (RoadTable.of_allocate isFew).1 (RoadTable.of_allocate isMany).1 fewer
      1000 (maxNesting + 1) NodeId.root node isRoot (by omega)
  have sameLabels :
      (diagram.withLaneMin 3).labelSizes TextMeasure.byCount =
        diagram.labelSizes TextMeasure.byCount :=
    rfl
  obtain ⟨layout, widened, laidOut, widenedLaidOut, layoutFits⟩ :=
    grows.layouts measured sameLabels (by omega) (by decide) (by omega) planned
      ((grows.sameRoutes rfl _ _ 3).trans planned)
  obtain ⟨bare, reference, isBare, isReference, referenceFits⟩ :=
    grows.reference measured (by decide)
  exact ⟨diagram, node, few, many, routes, layout, widened, bare, reference, box, wider, parsed,
    isRoot, isFew, isMany, planned, oneRoute, ⟨isBox, isWider, boxFits⟩,
    ⟨laidOut, widenedLaidOut, layoutFits⟩, isBare, isReference, referenceFits⟩

/-- Searches that keep two next roads, both off the way to the target, and no empty lanes. -/
def narrowSearch : Config where
  route := { innerLimit := 0, outerLimit := 2 }
  reference := { laneMin := 0 }

/--
A search may find other routes where more lanes are asked for, which need fewer of them: two
boxes with two links between them have a layout that is less wide with one lane on each road
than without empty lanes.
-/
theorem exists_layout_shrinks :
    ∃ (diagram : Diagram Float32) (layout narrowed : Layout Float32),
      ({ config := narrowSearch } : Compiler Float32).parse
          "lane_min=0\n(a)\n(b height=50)\n\x7bb 3->0 a\x7d\n\x7bb ->1 a\x7d" = .ok diagram ∧
        AreMeasured (diagram.labelSizes TextMeasure.byCount) ∧
          ({ config := narrowSearch } : Compiler Float32).compile
              "lane_min=0\n(a)\n(b height=50)\n\x7bb 3->0 a\x7d\n\x7bb ->1 a\x7d" =
            .ok layout ∧
            ({ config := narrowSearch } : Compiler Float32).compile
                "lane_min=1\n(a)\n(b height=50)\n\x7bb 3->0 a\x7d\n\x7bb ->1 a\x7d" =
              .ok narrowed ∧
              ¬ layout.size.FitsIn narrowed.size := by
  have parses :
      (({ config := narrowSearch } : Compiler Float32).parse
          "lane_min=0\n(a)\n(b height=50)\n\x7bb 3->0 a\x7d\n\x7bb ->1 a\x7d").toOption.map
          (fun diagram => (diagram.labelSizes TextMeasure.byCount).toList.all fun label =>
            label.all fun size => decide (size.Each (Scalar.isMeasure · = true))) =
        some true := by
    decide +kernel
  have compiles :
      (({ config := narrowSearch } : Compiler Float32).compile
          "lane_min=0\n(a)\n(b height=50)\n\x7bb 3->0 a\x7d\n\x7bb ->1 a\x7d").toOption.map
          (·.size.width) = some (Scalar.ofNat 62) := by
    decide +kernel
  have compilesAgain :
      (({ config := narrowSearch } : Compiler Float32).compile
          "lane_min=1\n(a)\n(b height=50)\n\x7bb 3->0 a\x7d\n\x7bb ->1 a\x7d").toOption.map
          (·.size.width) = some (Scalar.ofNat 54) := by
    decide +kernel
  obtain ⟨diagram, parsed, allMeasured⟩ := Option.map_eq_some_iff.mp parses
  obtain ⟨layout, compiled, isWidth⟩ := Option.map_eq_some_iff.mp compiles
  obtain ⟨narrowed, compiledAgain, isNarrowed⟩ := Option.map_eq_some_iff.mp compilesAgain
  rw [Attempt.toOption_eq_some_iff] at parsed compiled compiledAgain
  refine ⟨diagram, layout, narrowed, parsed, Size.each_of_all allMeasured, compiled,
    compiledAgain, fun fits => ?_⟩
  have narrow := fits.1
  rw [isWidth, isNarrowed] at narrow
  exact absurd narrow (by decide +kernel)

end Compiler

end BoxDiagram
