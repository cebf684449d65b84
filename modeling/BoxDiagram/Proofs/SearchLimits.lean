import BoxDiagram.Proofs.Compiler
import BoxDiagram.Proofs.Number.Compared
import BoxDiagram.Proofs.Route.Exhaustive

namespace BoxDiagram

/-!
# Limits of searches

The search for a link of a resolved diagram is set up in the layout without links, and a
goal can be reached from wherever it starts.  Only a limit can therefore make it give up:
a step that was left out, a walk of as many roads as a walk may have, or the last turn.
-/

namespace Compiler

open Relation (ReflTransGen)

/--
The search for a link of a resolved diagram can be set up in the layout without links.  It
starts on some road, and from each road on which it starts it could step from road to road
to a goal.  If no limit binds in its run, it finds a route.
-/
theorem search_finds_route_within_limits
    {outline : Outline}
    {diagram : Diagram Float32}
    (resolved : Diagram.ofOutline outline = .ok diagram)
    (config : Config)
    (labels : Array (Option (Size Float32)))
    {id : LinkId}
    {link : Link}
    (isLink : diagram.links[id]? = some link) :
    ∃ layout ends task,
      ({ config } : Compiler Float32).referenceLayout diagram labels = .ok layout ∧
        LinkEnds.ofLink diagram.graph id link = .ok ends ∧
          Search.Task.ofEnds diagram.graph (Reference.ofLayout diagram.graph layout)
              config.route ends = .ok task ∧
            (∃ first road, diagram.graph.LeavesOnto ends.common link.source first road) ∧
              (∀ first road, diagram.graph.LeavesOnto ends.common link.source first road →
                ∃ goal exit, ReflTransGen task.LeadsTo road goal ∧
                  task.goals.get? goal = some (some exit)) ∧
                (task.IsUnlimited → ∃ route, task.run = .ok (some route)) := by
  have isResolved := Diagram.isResolved_of_ofOutline resolved
  have tree := isResolved.tree
  obtain ⟨layout, laidOut, complete⟩ :=
    exists_referenceLayout tree (Diagram.isInOrder_of_ofOutline resolved) config labels
  obtain ⟨_, _, sourceFound, targetFound, apart⟩ :=
    isResolved.joined link (List.mem_of_getElem? isLink)
  obtain ⟨ends, isChecked⟩ := LinkEnds.exists_ofLink tree id sourceFound targetFound apart
  obtain ⟨_, sameSource, _, source, target, common, climb, descent, checked⟩ :=
    LinkEnds.areChecked_of_ofLink tree isChecked
  obtain ⟨task, isTask, sound, sameGraph, sameEnds, hasLines⟩ :=
    Search.Task.exists_ofEnds tree checked complete config.route
  have aware : task.IsAware target common := Search.Task.isAware_of_ofEnds tree checked isTask
  refine ⟨layout, ends, task, laidOut, isChecked, isTask, ?_, ?_, ?_⟩
  · rw [← sameGraph, ← sameSource, ← sameEnds]
    exact Search.exists_leavesOnto_source sound
  · intro first road leaves
    rw [← sameGraph, ← sameSource, ← sameEnds] at leaves
    exact Search.exists_reaches_goal sound aware leaves
  · exact Search.exists_route_of_isUnlimited Single.not_less_self sound aware hasLines

/-- A link that leaves and enters at fixed sides is found after two turns, within all limits. -/
theorem exists_search_finds_route_within_limits :
    ∃ (outline : Outline) (diagram : Diagram Float32) (link : Link) (layout : Layout Float32)
      (ends : LinkEnds) (task : Search.Task Float32),
      Diagram.ofOutline outline = .ok diagram ∧ diagram.links[0]? = some link ∧
        ({} : Compiler Float32).referenceLayout diagram #[] = .ok layout ∧
          LinkEnds.ofLink diagram.graph 0 link = .ok ends ∧
            Search.Task.ofEnds diagram.graph (Reference.ofLayout diagram.graph layout) {} ends =
                .ok task ∧
              task.IsUnlimited ∧ ∃ route, task.run = .ok (some route) := by
  have runs :
      ((Outline.read "(a)\n(b)\n\x7ba 1->3 b\x7d").toOption.bind fun outline =>
        (Diagram.ofOutline outline : Except Diagnostic (Diagram Float32)).toOption.bind
          fun diagram =>
          diagram.links[0]?.bind fun link =>
            (({} : Compiler Float32).referenceLayout diagram #[]).toOption.bind fun layout =>
              (LinkEnds.ofLink diagram.graph 0 link).toOption.bind fun ends =>
                (Search.Task.ofEnds diagram.graph (Reference.ofLayout diagram.graph layout) {}
                  ends).toOption.bind fun task =>
                  task.start.toOption.map fun progress =>
                    task.staysWithin (Search.maxExpansions + 1) progress) = some true := by
    decide +kernel
  obtain ⟨outline, _, runs⟩ := Option.bind_eq_some_iff.mp runs
  obtain ⟨diagram, resolved, runs⟩ := Option.bind_eq_some_iff.mp runs
  obtain ⟨link, isLink, runs⟩ := Option.bind_eq_some_iff.mp runs
  obtain ⟨layout, laidOut, runs⟩ := Option.bind_eq_some_iff.mp runs
  obtain ⟨ends, isChecked, runs⟩ := Option.bind_eq_some_iff.mp runs
  obtain ⟨task, isTask, runs⟩ := Option.bind_eq_some_iff.mp runs
  obtain ⟨progress, started, within⟩ := Option.map_eq_some_iff.mp runs
  rw [Attempt.toOption_eq_some_iff] at resolved laidOut isChecked isTask started
  have unlimited : task.IsUnlimited := by
    apply Search.Task.isUnlimited_of_staysWithin
    intro other otherStarted
    obtain rfl := Except.ok.inj (started.symm.trans otherStarted)
    exact within
  obtain ⟨otherLayout, otherEnds, otherTask, otherLaidOut, otherChecked, otherIsTask, _, _,
    finds⟩ := search_finds_route_within_limits resolved {} #[] isLink
  obtain rfl := Except.ok.inj (laidOut.symm.trans otherLaidOut)
  obtain rfl := Except.ok.inj (isChecked.symm.trans otherChecked)
  obtain rfl := Except.ok.inj (isTask.symm.trans otherIsTask)
  exact ⟨outline, diagram, link, layout, ends, task, resolved, isLink, laidOut, isChecked, isTask,
    unlimited, finds unlimited⟩

end Compiler

end BoxDiagram
