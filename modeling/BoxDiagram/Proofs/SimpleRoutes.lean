import BoxDiagram.Proofs.Compiler
import BoxDiagram.Proofs.Route.Simple

namespace BoxDiagram

/-!
# Simple routes

The roads of a stub lie further and further outward, so that a route planned by the tree
alone comes to no road twice.  A search returns to a road only on a shorter walk, which a
walk that goes on from the road cannot be.  This needs lengths that can be compared: a layout
with finite coordinates may have a box whose middle is not finite, and then a route can go in
a circle.
-/

namespace Compiler

/--
A route planned by the tree alone comes to no road twice.  A route that a search finds can be
traced back from the walk that arrives to one with which the search starts, from each walk to
an earlier one that is not longer, over 64 walks at most.  If the middle of the source and the
middles of all roads are finite, it comes to no road twice either.
-/
theorem routes_are_simple
    {outline : Outline}
    {diagram : Diagram Float32}
    (resolved : Diagram.ofOutline outline = .ok diagram)
    (id : LinkId)
    (link : Link) :
    (∀ limit route, Topological.planLink diagram.graph limit id link = .ok route →
      route.roads.Nodup) ∧
    ∀ (config : Config) labels layout ends task route,
      ({ config } : Compiler Float32).referenceLayout diagram labels = .ok layout →
        LinkEnds.ofLink diagram.graph id link = .ok ends →
          Search.Task.ofEnds diagram.graph (Reference.ofLayout diagram.graph layout) config.route
              ends = .ok task →
            task.run = .ok (some route) →
              (∃ turns progress index walk exit earlier,
                task.Reaches (turns + 1) progress ∧
                  task.turn? progress progress.queue = some (.arrived index walk exit) ∧
                    task.Traces progress.walks index (walk :: earlier) ∧
                      route.roads = ((walk :: earlier).map (·.road)).reverse ∧
                        (walk :: earlier).length ≤ 64 ∧
                          (walk :: earlier).Pairwise fun later earlier =>
                            Scalar.less later.length earlier.length = false) ∧
              (task.source.Each (Scalar.isFinite · = true) →
                (∀ road ∈ layout.roads, Scalar.isFinite road.centerLine = true) →
                  route.roads.Nodup) := by
  have tree := (Diagram.isResolved_of_ofOutline resolved).tree
  constructor
  · intro limit route planned
    obtain ⟨ends, isChecked, planned⟩ := Attempt.bind_eq_ok_iff.mp planned
    obtain ⟨found, routed, planned⟩ := Attempt.bind_eq_ok_iff.mp planned
    obtain ⟨_, _, same⟩ := Attempt.bind_eq_ok_iff.mp planned
    cases same
    obtain ⟨_, _, _, source, target, common, climb, descent, checked⟩ :=
      LinkEnds.areChecked_of_ofLink tree isChecked
    obtain ⟨_, _, roads, rfl, _, nodup⟩ :=
      Topological.exists_roads_of_routeLink tree checked routed
    rwa [LinkEnds.roads_route]
  · intro config labels layout ends task route laidOut isChecked isTask succeeded
    obtain ⟨_, _, _, source, target, common, climb, descent, checked⟩ :=
      LinkEnds.areChecked_of_ofLink tree isChecked
    obtain ⟨sound, sameGraph, _, sameReference⟩ :=
      Search.Task.isSound_of_ofEnds tree checked isTask
    obtain ⟨turns, progress, index, walk, exit, earlier, reached, turned, traces, isRoute, few⟩ :=
      Search.exists_traces_of_run sound succeeded
    obtain ⟨areDistances, inOrder⟩ := traces.pairwise_reachOf
    refine ⟨⟨turns, progress, index, walk, exit, earlier, reached, turned, traces, isRoute, few,
      ?_⟩, fun sourceFinite linesFinite => ?_⟩
    · exact inOrder.imp_of_mem fun laterMember earlierMember notLess =>
        (areDistances _ earlierMember).not_less_of_le (areDistances _ laterMember) notLess
    · have complete : layout.IsComplete task.graph := by
        obtain ⟨other, otherLaidOut, complete⟩ :=
          exists_referenceLayout tree (Diagram.isInOrder_of_ofOutline resolved) config labels
        obtain rfl := Except.ok.inj (laidOut.symm.trans otherLaidOut)
        exact sameGraph ▸ complete
      have finite : task.IsFinite :=
        Search.Task.isFinite_of_layout complete (sameGraph ▸ sameReference) sourceFinite
          linesFinite
      rw [isRoute, List.nodup_reverse]
      exact (reached.isImproving sound finite).nodup_roads traces

/-- A link between fixed sides of two boxes is searched with finite middles, in three roads. -/
theorem exists_routes_are_simple :
    ∃ (outline : Outline) (diagram : Diagram Float32) (link : Link) (layout : Layout Float32)
      (ends : LinkEnds) (task : Search.Task Float32) (found planned : Route),
      Diagram.ofOutline outline = .ok diagram ∧ diagram.links[0]? = some link ∧
        ({} : Compiler Float32).referenceLayout diagram #[] = .ok layout ∧
          LinkEnds.ofLink diagram.graph 0 link = .ok ends ∧
            Search.Task.ofEnds diagram.graph (Reference.ofLayout diagram.graph layout) {} ends =
                .ok task ∧
              task.run = .ok (some found) ∧ found.roads.length = 3 ∧ found.roads.Nodup ∧
                Topological.planLink diagram.graph 1000 0 link = .ok planned ∧
                  planned.roads.Nodup := by
  have runs :
      ((Outline.read "(a)\n(b)\n\x7ba 1->3 b\x7d").toOption.bind fun outline =>
        (Diagram.ofOutline outline : Except Diagnostic (Diagram Float32)).toOption.bind
          fun diagram =>
          diagram.links[0]?.bind fun link =>
            (Topological.planLink diagram.graph 1000 0 link).toOption.bind fun _ =>
              (({} : Compiler Float32).referenceLayout diagram #[]).toOption.bind fun layout =>
                (LinkEnds.ofLink diagram.graph 0 link).toOption.bind fun ends =>
                  (Search.Task.ofEnds diagram.graph (Reference.ofLayout diagram.graph layout) {}
                    ends).toOption.bind fun task =>
                    task.run.toOption.join.map fun found =>
                      decide (task.source.Each (Scalar.isFinite · = true) ∧
                        (∀ road ∈ layout.roads, Scalar.isFinite road.centerLine = true) ∧
                          found.roads.length = 3)) = some true := by
    decide +kernel
  obtain ⟨outline, _, runs⟩ := Option.bind_eq_some_iff.mp runs
  obtain ⟨diagram, resolved, runs⟩ := Option.bind_eq_some_iff.mp runs
  obtain ⟨link, isLink, runs⟩ := Option.bind_eq_some_iff.mp runs
  obtain ⟨planned, isPlanned, runs⟩ := Option.bind_eq_some_iff.mp runs
  obtain ⟨layout, laidOut, runs⟩ := Option.bind_eq_some_iff.mp runs
  obtain ⟨ends, isChecked, runs⟩ := Option.bind_eq_some_iff.mp runs
  obtain ⟨task, isTask, runs⟩ := Option.bind_eq_some_iff.mp runs
  obtain ⟨found, isFound, meets⟩ := Option.map_eq_some_iff.mp runs
  obtain ⟨sourceFinite, linesFinite, counted⟩ := of_decide_eq_true meets
  rw [Option.join_eq_some_iff] at isFound
  rw [Attempt.toOption_eq_some_iff] at resolved isPlanned laidOut isChecked isTask isFound
  obtain ⟨planned_simple, searched_simple⟩ := routes_are_simple resolved 0 link
  exact ⟨outline, diagram, link, layout, ends, task, found, planned, resolved, isLink, laidOut,
    isChecked, isTask, isFound, counted,
    (searched_simple {} #[] layout ends task found laidOut isChecked isTask isFound).2 sourceFinite
      linesFinite,
    isPlanned, planned_simple 1000 planned isPlanned⟩

/--
A link between two large boxes has a finite layout, but a box whose middle is not finite, so
that no length can be compared: its route comes to its first road again.
-/
theorem exists_route_in_a_circle :
    ∃ (diagram : Diagram Float32) (link : Link) (layout : Layout Float32) (ends : LinkEnds)
      (task : Search.Task Float32) (route : Route),
      ({} : Compiler Float32).parse
          ("direction=row\n(a width=1 height=3.3e38 margin=1e37,0,0,0)\n" ++
            "(b width=3.3e38 height=3.3e38 margin=1e37,0,0,1e37)\n\x7bb 3->0 a\x7d") =
        .ok diagram ∧
        diagram.links[0]? = some link ∧
          ({} : Compiler Float32).referenceLayout diagram
              (diagram.labelSizes TextMeasure.byCount) = .ok layout ∧
            layout.Each (Scalar.isFinite · = true) ∧
              LinkEnds.ofLink diagram.graph 0 link = .ok ends ∧
                Search.Task.ofEnds diagram.graph (Reference.ofLayout diagram.graph layout)
                    { innerLimit := 0, outerLimit := 1 } ends = .ok task ∧
                  task.run = .ok (some route) ∧ ¬ route.roads.Nodup := by
  have runs :
      ((({} : Compiler Float32).parse
          ("direction=row\n(a width=1 height=3.3e38 margin=1e37,0,0,0)\n" ++
            "(b width=3.3e38 height=3.3e38 margin=1e37,0,0,1e37)\n\x7bb 3->0 a\x7d")).toOption.bind
        fun diagram =>
        diagram.links[0]?.bind fun link =>
          (({} : Compiler Float32).referenceLayout diagram
              (diagram.labelSizes TextMeasure.byCount)).toOption.bind fun layout =>
            (LinkEnds.ofLink diagram.graph 0 link).toOption.bind fun ends =>
              (Search.Task.ofEnds diagram.graph (Reference.ofLayout diagram.graph layout)
                { innerLimit := 0, outerLimit := 1 } ends).toOption.bind fun task =>
                task.run.toOption.join.map fun route =>
                  decide (layout.Each (Scalar.isFinite · = true) ∧ ¬ route.roads.Nodup)) =
        some true := by
    decide +kernel
  obtain ⟨diagram, parsed, runs⟩ := Option.bind_eq_some_iff.mp runs
  obtain ⟨link, isLink, runs⟩ := Option.bind_eq_some_iff.mp runs
  obtain ⟨layout, laidOut, runs⟩ := Option.bind_eq_some_iff.mp runs
  obtain ⟨ends, isChecked, runs⟩ := Option.bind_eq_some_iff.mp runs
  obtain ⟨task, isTask, runs⟩ := Option.bind_eq_some_iff.mp runs
  obtain ⟨route, isRoute, meets⟩ := Option.map_eq_some_iff.mp runs
  obtain ⟨eachFinite, again⟩ := of_decide_eq_true meets
  rw [Option.join_eq_some_iff] at isRoute
  rw [Attempt.toOption_eq_some_iff] at parsed laidOut isChecked isTask isRoute
  exact ⟨diagram, link, layout, ends, task, route, parsed, isLink, laidOut, eachFinite, isChecked,
    isTask, isRoute, again⟩

end Compiler

end BoxDiagram
