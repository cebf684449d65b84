import BoxDiagram.Proofs.Graph.Siblings
import BoxDiagram.Proofs.Route.Planner

namespace BoxDiagram

/-!
# Links between neighbours

Two children of a container at consecutive places share the road between them, which each of
them leaves onto toward the other one.  No other two stubs face each other on one road, so
that the cheapest join of the stubs of a link between the two is this road alone.
-/

variable {α : Type} {graph : Graph α}

/-- Different directions are told as different ones. -/
theorem Compass.relativeOf_injective
    (compass : Compass) :
    Function.Injective compass.relativeOf :=
  Function.LeftInverse.injective compass.absoluteOf_relativeOf

@[simp] theorem Compass.relativeOf_main
    (compass : Compass) :
    compass.relativeOf compass.main = .main :=
  compass.relativeOf_absoluteOf .main

@[simp] theorem Compass.relativeOf_reverse
    (compass : Compass)
    (direction : Direction) :
    compass.relativeOf direction.reverse = (compass.relativeOf direction).reverse := by
  obtain ⟨first, second, crossing⟩ := compass
  revert crossing
  cases first <;> cases second <;> cases direction <;> decide

/-- The roads beside a child in different directions are different. -/
theorem Road.beside_injective
    (container child : Node α) :
    Function.Injective (Road.beside container child) := by
  intro first second same
  apply container.itemFrame.relativeOf_injective
  rw [Road.beside, Road.beside] at same
  cases isFirst : container.itemFrame.relativeOf first <;>
    cases isSecond : container.itemFrame.relativeOf second <;>
      simp [isFirst, isSecond, Road.main, Road.cross] at same ⊢

/-- The roads across the flow of a container lie beside all of its children. -/
theorem Road.beside_eq_of_axis_ne
    {container : Node α}
    {direction : Direction}
    (differ : direction.axis ≠ container.itemFrame.main.axis)
    (first second : Node α) :
    Road.beside container first direction = Road.beside container second direction := by
  have isAbsolute := container.itemFrame.absoluteOf_relativeOf direction
  rw [Road.beside, Road.beside]
  cases relative : container.itemFrame.relativeOf direction with
  | main =>
      rw [relative] at isAbsolute
      exact absurd (congrArg Direction.axis isAbsolute.symm) differ
  | mainReverse =>
      rw [relative] at isAbsolute
      exact absurd ((congrArg Direction.axis isAbsolute.symm).trans (Direction.axis_reverse _))
        differ
  | cross =>
      rfl
  | crossReverse =>
      rfl

namespace Graph

/-- Two children of a container at consecutive places, with the direction from one to the other. -/
structure AreNeighbours
    (graph : Graph α)
    (container source target : Node α)
    (exit : Direction) : Prop where
  areSiblings : graph.AreSiblings container source target
  faces :
    exit = container.itemFrame.main ∧ target.index = source.index + 1 ∨
      exit = container.itemFrame.main.reverse ∧ source.index = target.index + 1

namespace AreNeighbours

variable {container source target : Node α} {exit first second : Direction}

/-- Neighbours are neighbours in either order. -/
theorem symm
    (neighbours : graph.AreNeighbours container source target exit) :
    graph.AreNeighbours container target source exit.reverse := by
  refine ⟨neighbours.areSiblings.symm, ?_⟩
  rcases neighbours.faces with ⟨rfl, next⟩ | ⟨rfl, next⟩
  · exact .inr ⟨rfl, next⟩
  · exact .inl ⟨Direction.reverse_reverse _, next⟩

/-- Neighbours are next to each other along the flow. -/
theorem axis_eq
    (neighbours : graph.AreNeighbours container source target exit) :
    exit.axis = container.itemFrame.main.axis := by
  rcases neighbours.faces with ⟨rfl, _⟩ | ⟨rfl, _⟩
  · rfl
  · exact Direction.axis_reverse _

/-- The road between neighbours is the gap before the later one of the two. -/
theorem beside_eq
    (neighbours : graph.AreNeighbours container source target exit) :
    Road.beside container source exit = .main container.id (max source.index target.index) := by
  rcases neighbours.faces with ⟨rfl, next⟩ | ⟨rfl, next⟩
  · rw [Road.beside, Compass.relativeOf_main, next, max_eq_right (Nat.le_succ _)]
  · rw [Road.beside, Compass.relativeOf_reverse, Compass.relativeOf_main, next,
      max_eq_left (Nat.le_succ _)]
    rfl

/-- Neighbours share the road between them. -/
theorem beside_reverse
    (neighbours : graph.AreNeighbours container source target exit) :
    Road.beside container target exit.reverse = Road.beside container source exit := by
  rw [neighbours.symm.beside_eq, neighbours.beside_eq, max_comm]

/-- Neighbours face each other on one road only along the flow of their container. -/
theorem eq_of_beside_reverse
    {direction : Direction}
    (neighbours : graph.AreNeighbours container source target exit)
    (same :
      Road.beside container source direction = Road.beside container target direction.reverse) :
    direction = exit := by
  have isAbsolute := container.itemFrame.absoluteOf_relativeOf direction
  rw [Road.beside, Road.beside, Compass.relativeOf_reverse] at same
  rw [← isAbsolute]
  cases relative : container.itemFrame.relativeOf direction with
  | main =>
      obtain next : source.index + 1 = target.index := by
        simpa [relative, Direction.reverse, Road.main] using same
      rcases neighbours.faces with ⟨rfl, _⟩ | ⟨_, previous⟩
      · rfl
      · omega
  | mainReverse =>
      obtain previous : source.index = target.index + 1 := by
        simpa [relative, Direction.reverse, Road.main] using same
      rcases neighbours.faces with ⟨_, next⟩ | ⟨rfl, _⟩
      · omega
      · rfl
  | cross =>
      simp [relative, Direction.reverse, Road.cross] at same
  | crossReverse =>
      simp [relative, Direction.reverse, Road.cross] at same

end AreNeighbours

/-- A child whose sides are all free leaves onto the roads beside it and onto no others. -/
theorem IsTree.leavesOnto_iff_of_holds
    {container child : Node α}
    {endpoint : Endpoint}
    {exit : Direction}
    {road : Road}
    (tree : graph.IsTree)
    (containerFound : graph.get? container.id = some container)
    (found : graph.get? endpoint.node = some child)
    (holds : container.Holds child)
    (free : endpoint.edge = none) :
    graph.LeavesOnto container.id endpoint exit road ↔
      road = Road.beside container child exit := by
  have sameId := tree.id_of_get? found
  have isOuter : graph.IsOuter child 1 container := .of_holds containerFound holds
  have self : graph.IsOuter child 0 child := tree.isOuter_self (sameId ▸ found)
  have meets : graph.MeetsRoad child exit 0 (Road.beside container child exit) child container :=
    ⟨self, containerFound, holds, rfl⟩
  constructor
  · rintro ⟨allowed, ceiling, exits, _, _, climbs, listed, member⟩
    rw [isOuter.climb_eq found] at climbs
    obtain rfl := Except.ok.inj climbs
    obtain ⟨⟨number, other⟩, entryMember, rfl⟩ := List.mem_map.mp member
    obtain ⟨level, below, holder, _, _, withinCeiling, otherMeets⟩ :=
      (tree.mem_exitRoads_iff found listed).mp entryMember
    obtain rfl : level = 0 := by omega
    exact otherMeets.unique meets
  · rintro rfl
    obtain ⟨exits, listed, member⟩ :=
      tree.exists_exitRoads_of_meets found meets (tree.boundary_pos found exit) Nat.one_pos
    refine ⟨Direction.all, 1, exits, ?_, exit.mem_all, isOuter.climb_eq found, listed, member⟩
    rw [free]
    rfl

end Graph

namespace LinkEnds

/-- The innermost common container of siblings is the one that holds both. -/
theorem AreChecked.of_areSiblings
    {ends : LinkEnds}
    {source target common container : Node α}
    {climb descent : Nat}
    (tree : graph.IsTree)
    (checked : ends.AreChecked graph source target common climb descent)
    (areSiblings : graph.AreSiblings container source target) :
    ends.AreChecked graph source target container 0 0 := by
  have above :
      ∀ {id : NodeId} {child : Node α}, graph.get? id = some child → container.Holds child →
        graph.Above container.id id :=
    fun found holds => .single (Graph.IsTree.isParent_of_holds found holds)
  have atOrAbove : graph.AtOrAbove container.id ends.common :=
    checked.isCommon.innermost _ (above checked.sourceFound areSiblings.holds)
      (above checked.targetFound areSiblings.holdsSibling)
  obtain ⟨level, around, _, sameId, isOuter⟩ :=
    tree.exists_isOuter_of_mem checked.commonFound
      ((tree.atOrAbove_iff checked.commonFound).mp atOrAbove)
  obtain rfl : around = container := by
    have aroundFound := isOuter.found
    rw [sameId, areSiblings.containerFound] at aroundFound
    exact (Option.some.inj aroundFound).symm
  have sourceDepth := areSiblings.holds.depth_eq
  have targetDepth := areSiblings.holdsSibling.depth_eq
  have climbs := checked.sourceBelow.depth_eq
  have descends := checked.targetBelow.depth_eq
  have inside := isOuter.depth_eq
  obtain rfl : level = 0 := by omega
  obtain rfl : around = common :=
    isOuter.unique (tree.isOuter_self (checked.common_id ▸ checked.commonFound))
  obtain rfl : climb = 0 := by omega
  obtain rfl : descent = 0 := by omega
  exact checked

/-- A link between siblings passes the check before planning. -/
theorem exists_of_areSiblings
    {link : Link}
    {container source target : Node α}
    (tree : graph.IsTree)
    (id : LinkId)
    (sourceFound : graph.get? link.source.node = some source)
    (targetFound : graph.get? link.target.node = some target)
    (apart : source.isRelatedTo target = false)
    (areSiblings : graph.AreSiblings container source target) :
    ∃ ends, LinkEnds.ofLink graph id link = .ok ends ∧ ends.id = id ∧
      ends.source = link.source ∧ ends.target = link.target ∧
        ends.AreChecked graph source target container 0 0 := by
  obtain ⟨ends, isChecked⟩ := LinkEnds.exists_ofLink tree id sourceFound targetFound apart
  obtain ⟨sameId, sameSource, sameTarget, first, last, common, climb, descent, checked⟩ :=
    areChecked_of_ofLink tree isChecked
  have isFirst := checked.sourceFound
  have isLast := checked.targetFound
  rw [sameSource, sourceFound] at isFirst
  rw [sameTarget, targetFound] at isLast
  cases isFirst
  cases isLast
  exact ⟨ends, isChecked, sameId, sameSource, sameTarget, checked.of_areSiblings tree areSiblings⟩

end LinkEnds

/-- The route of a link along one road, which both of its ends reach straight. -/
def Link.straightRoute (link : Link) (id : LinkId) (exit : Direction) (road : Road) : Route where
  link := id
  source := link.source.node
  target := link.target.node
  sourceExit := exit
  targetExit := exit.reverse
  passages := [⟨road, none⟩]

/-- A route along one road alone is the straight one. -/
theorem LinkEnds.route_eq_straightRoute
    {ends : LinkEnds}
    {id : LinkId}
    {link : Link}
    (sameId : ends.id = id)
    (sameSource : ends.source = link.source)
    (sameTarget : ends.target = link.target)
    (exit : Direction)
    (road : Road) :
    ends.route exit exit.reverse [road] = link.straightRoute id exit road := by
  rw [LinkEnds.route, sameId, sameSource, sameTarget]
  rfl

namespace Climb

/-- The stubs of a child into its container are the roads beside it. -/
structure AreBeside
    (container child : Node α)
    (found : List Stub) : Prop where
  beside :
    ∀ stub ∈ found, stub.before = [] ∧ stub.last = stub.first ∧
      stub.lastRoad = Road.beside container child stub.first
  each : ∀ first, ∃ stub ∈ found, stub.first = first

/-- The stubs of a child are the roads beside it. -/
theorem AreStubs.areBeside
    {container child : Node α}
    {found : List Stub}
    (tree : graph.IsTree)
    (containerFound : graph.get? container.id = some container)
    (childFound : graph.get? child.id = some child)
    (holds : container.Holds child)
    (areStubs : AreStubs graph container.depth child Direction.all found) :
    AreBeside container child found := by
  have climbs_iff :
      ∀ {first last roads}, graph.Climbs container.depth child first last roads ↔
        last = first ∧ roads = [Road.beside container child first] :=
    fun {first _ _} => climbs_iff_of_arrive
      ⟨tree.isOuter_self childFound, containerFound, holds, rfl⟩ holds.depth_eq
      (tree.boundary_pos childFound first)
  constructor
  case beside =>
    intro stub member
    obtain ⟨sameLast, oneRoad⟩ := climbs_iff.mp (areStubs.climbs stub member).2
    obtain ⟨noRoads, isRoad⟩ := List.append_eq_singleton_iff.mp oneRoad |>.resolve_right
      fun impossible => List.cons_ne_nil _ _ impossible.2
    exact ⟨noRoads, sameLast, List.singleton_inj.mp isRoad⟩
  case each =>
    intro first
    obtain ⟨stub, member, sameLast, _⟩ :=
      areStubs.shortest first first.mem_all first _ (climbs_iff.mpr ⟨rfl, rfl⟩)
    obtain ⟨isFirst, _⟩ := climbs_iff.mp (areStubs.climbs stub member).2
    exact ⟨stub, member, isFirst.symm.trans sameLast⟩

end Climb

namespace Topological

/-- A join that costs no more than one road is this road, on which the two stubs face each other. -/
theorem join_of_score_le
    {branches : Branches}
    {source target : Stub}
    {join : Join}
    (joined : join? graph branches source target = .ok (some join))
    (cheap : join.score ≤ 10) :
    join.source = source ∧ join.target = target ∧ join.roads = [source.lastRoad] ∧
      source.lastRoad = target.lastRoad ∧ source.last = target.last.reverse := by
  rw [join?] at joined
  dsimp only at joined
  split at joined
  · cases joined
  · split at joined
    · rename_i sameRoad
      cases joined
      simp only [Join.score, Stub.roads, List.length_append, List.length_singleton,
        List.length_reverse] at cheap
      have noSource : source.before = [] := List.eq_nil_of_length_eq_zero (by omega)
      have noTarget : target.before = [] := List.eq_nil_of_length_eq_zero (by omega)
      have facing : source.last = target.last.reverse := by
        by_contra apart
        rw [if_neg apart] at cheap
        omega
      exact ⟨rfl, rfl, by simp [Stub.roads, noSource, noTarget], sameRoad, facing⟩
    · split at joined
      · cases joined
        simp only [Join.score, Stub.roads, List.length_append, List.length_cons] at cheap
        omega
      · obtain ⟨between, _, same⟩ := Attempt.bind_eq_ok_iff.mp joined
        cases same
        simp only [Join.score, Stub.roads, List.length_append, List.length_cons] at cheap
        omega

/-- Two stubs of one road each that face each other on it are joined at the cost of the road. -/
theorem join?_of_facing
    (graph : Graph α)
    (branches : Branches)
    {source target : Stub}
    (sameRoad : source.lastRoad = target.lastRoad)
    (facing : source.last = target.last.reverse)
    (noSource : source.before = [])
    (noTarget : target.before = []) :
    join? graph branches source target =
      .ok (some ⟨source, target, [source.lastRoad], 0⟩) := by
  rw [join?]
  dsimp only
  rw [if_neg (not_not_intro (congrArg Road.container sameRoad)), if_pos sameRoad, if_pos facing,
    Stub.roads, noSource, noTarget]
  rfl

/-- The cheaper of two joins costs no more than either. -/
theorem exists_cheaper
    (kept : Option Join)
    (found : Join) :
    ∃ best, cheaper kept found = some best ∧ best.score ≤ found.score ∧
      ∀ old, kept = some old → best.score ≤ old.score := by
  cases kept with
  | none =>
      exact ⟨found, rfl, le_rfl, by simp⟩
  | some old =>
      rw [cheaper]
      split
      · exact ⟨found, rfl, le_rfl, by rintro _ ⟨⟩; omega⟩
      · exact ⟨old, rfl, by omega, by rintro _ ⟨⟩; exact le_rfl⟩

/-- The cheapest one of a list of joins costs no more than any of them. -/
theorem score_le_of_foldl_cheaper
    {found : List Join}
    {kept : Option Join}
    {best : Join}
    (isBest : found.foldl cheaper kept = some best) :
    ∀ join, kept = some join ∨ join ∈ found → best.score ≤ join.score := by
  induction found generalizing kept with
  | nil =>
      rintro join (isKept | impossible)
      · obtain rfl := Option.some.inj (isKept.symm.trans isBest)
        exact le_rfl
      · cases impossible
  | cons head rest inductionHypothesis =>
      obtain ⟨less, isLess, belowHead, belowKept⟩ := exists_cheaper kept head
      rw [List.foldl_cons, isLess] at isBest
      have belowLess := inductionHypothesis isBest less (.inl rfl)
      rintro join (isKept | member)
      · exact belowLess.trans (belowKept join isKept)
      · rcases List.mem_cons.mp member with rfl | later
        · exact belowLess.trans belowHead
        · exact inductionHypothesis isBest join (.inr later)

/-- A route planned by the tree is a cheapest join of the shortest stubs of both ends. -/
theorem exists_join_of_routeLink
    {ends : LinkEnds}
    {source target common : Node α}
    {climb descent limit : Nat}
    {route : Route}
    (tree : graph.IsTree)
    (checked : ends.AreChecked graph source target common climb descent)
    (succeeded : routeLink graph ends limit = .ok route) :
    ∃ leaving arriving sources targets branches found best,
      graph.allowedExits ends.source.node ends.source.edge = .ok leaving ∧
        graph.allowedExits ends.target.node ends.target.edge = .ok arriving ∧
          Climb.AreStubs graph common.depth source leaving sources ∧
            Climb.AreStubs graph common.depth target arriving targets ∧
              joins graph branches sources targets = .ok found ∧ cheapest found = some best ∧
                route = ends.route best.source.first best.target.first best.roads := by
  obtain ⟨leaving, sourceAllows, _⟩ := LinkEnds.exists_allowedExits checked.sourceFound
  obtain ⟨arriving, targetAllows, _⟩ := LinkEnds.exists_allowedExits checked.targetFound
  rw [routeLink] at succeeded
  obtain ⟨answer, answered, succeeded⟩ := Attempt.bind_eq_ok_iff.mp succeeded
  obtain ⟨found, searched, same⟩ := Attempt.bind_eq_ok_iff.mp answered
  cases same
  rw [candidates, Graph.find_eq_ok_iff.mpr checked.commonFound, Attempt.ofGraph_ok,
    Attempt.ok_bind] at searched
  obtain ⟨⟨sources, memory⟩, sourcesFound, searched⟩ := Attempt.bind_eq_ok_iff.mp searched
  obtain ⟨⟨targets, remembered⟩, targetsFound, searched⟩ := Attempt.bind_eq_ok_iff.mp searched
  obtain ⟨sourceBranch, _, searched⟩ := Attempt.bind_eq_ok_iff.mp searched
  obtain ⟨targetBranch, _, joined⟩ := Attempt.bind_eq_ok_iff.mp searched
  rw [Attempt.ofGraph_eq_ok_iff] at joined
  obtain ⟨sourcesRight, memoryRight⟩ :=
    Climb.areStubs_of_stubs tree checked.sourceFound checked.source_deep sourceAllows
      Climb.Memory.isRight_nil sourcesFound
  obtain ⟨targetsRight, _⟩ :=
    Climb.areStubs_of_stubs tree checked.targetFound checked.target_deep targetAllows
      memoryRight targetsFound
  cases isBest : cheapest found with
  | none =>
      rw [isBest] at succeeded
      obtain ⟨_, _, succeeded⟩ := Attempt.bind_eq_ok_iff.mp succeeded
      obtain ⟨_, _, failed⟩ := Attempt.bind_eq_ok_iff.mp succeeded
      cases failed
  | some best =>
      rw [isBest] at succeeded
      cases succeeded
      exact ⟨leaving, arriving, sources, targets, _, found, best, sourceAllows, targetAllows,
        sourcesRight, targetsRight, joined, isBest, rfl⟩

/-- A link between neighbours is planned along the road between them. -/
theorem routeLink_of_neighbours
    {ends : LinkEnds}
    {container source target : Node α}
    {exit : Direction}
    (tree : graph.IsTree)
    (limit : Nat)
    (checked : ends.AreChecked graph source target container 0 0)
    (neighbours : graph.AreNeighbours container source target exit)
    (sourceFree : ends.source.edge = none)
    (targetFree : ends.target.edge = none) :
    routeLink graph ends limit =
      .ok (ends.route exit exit.reverse [Road.beside container source exit]) := by
  have areSiblings := neighbours.areSiblings
  have sourceDepth := areSiblings.holds.depth_eq
  have targetDepth := areSiblings.holdsSibling.depth_eq
  obtain ⟨route, routed⟩ : ∃ route, routeLink graph ends limit = .ok route :=
    exists_routeLink tree checked (by omega) (by omega)
  obtain ⟨leaving, arriving, sources, targets, branches, found, best, sourceAllows, targetAllows,
    sourcesRight, targetsRight, joined, isBest, rfl⟩ :=
    exists_join_of_routeLink tree checked routed
  rw [sourceFree] at sourceAllows
  rw [targetFree] at targetAllows
  cases sourceAllows
  cases targetAllows
  have besideSource :=
    sourcesRight.areBeside tree areSiblings.containerFound areSiblings.childFound areSiblings.holds
  have besideTarget :=
    targetsRight.areBeside tree areSiblings.containerFound areSiblings.siblingFound
      areSiblings.holdsSibling
  have cheap : best.score ≤ 10 := by
    obtain ⟨leave, leaveMember, isExit⟩ := besideSource.each exit
    obtain ⟨arrive, arriveMember, isReverse⟩ := besideTarget.each exit.reverse
    obtain ⟨noSource, sourceLast, sourceRoad⟩ := besideSource.beside leave leaveMember
    obtain ⟨noTarget, targetLast, targetRoad⟩ := besideTarget.beside arrive arriveMember
    have sameRoad : leave.lastRoad = arrive.lastRoad := by
      rw [sourceRoad, targetRoad, isExit, isReverse, neighbours.beside_reverse]
    have facing : leave.last = arrive.last.reverse := by
      rw [sourceLast, targetLast, isExit, isReverse, Direction.reverse_reverse]
    have isJoin := join?_of_facing graph branches sameRoad facing noSource noTarget
    exact score_le_of_foldl_cheaper isBest _
      (.inr ((mem_joins_iff joined).mpr ⟨leave, leaveMember, arrive, arriveMember, isJoin⟩))
  obtain ⟨leave, leaveMember, arrive, arriveMember, isJoin⟩ :=
    (mem_joins_iff joined).mp (mem_of_cheapest isBest)
  obtain ⟨rfl, rfl, oneRoad, sameRoad, facing⟩ := join_of_score_le isJoin cheap
  obtain ⟨_, sourceLast, sourceRoad⟩ := besideSource.beside _ leaveMember
  obtain ⟨_, targetLast, targetRoad⟩ := besideTarget.beside _ arriveMember
  have isReverse : best.target.first = best.source.first.reverse := by
    rw [← targetLast, ← sourceLast, facing, Direction.reverse_reverse]
  rw [sourceRoad, targetRoad, isReverse] at sameRoad
  obtain rfl := neighbours.eq_of_beside_reverse sameRoad
  rw [routed, oneRoad, sourceRoad, isReverse]

/-- The road between neighbours passes the check after planning. -/
theorem verify_of_neighbours
    {ends : LinkEnds}
    {container source target : Node α}
    {exit : Direction}
    (tree : graph.IsTree)
    (checked : ends.AreChecked graph source target container 0 0)
    (neighbours : graph.AreNeighbours container source target exit)
    (sourceFree : ends.source.edge = none)
    (targetFree : ends.target.edge = none) :
    ends.verify graph (ends.route exit exit.reverse [Road.beside container source exit]) =
      .ok () := by
  obtain ⟨sourceExit, targetExit, roads, isRoute, isWalk⟩ :=
    isWalk_of_routeLink tree checked
      (routeLink_of_neighbours tree 0 checked neighbours sourceFree targetFree)
  rw [isRoute]
  exact checked.verify_route tree isWalk

/-- Links between neighbours are planned straight. -/
theorem planLink_of_neighbours
    {link : Link}
    {container source target : Node α}
    {exit : Direction}
    (tree : graph.IsTree)
    (limit : Nat)
    (id : LinkId)
    (sourceFound : graph.get? link.source.node = some source)
    (targetFound : graph.get? link.target.node = some target)
    (apart : source.isRelatedTo target = false)
    (neighbours : graph.AreNeighbours container source target exit)
    (sourceFree : link.source.edge = none)
    (targetFree : link.target.edge = none) :
    planLink graph limit id link =
      .ok (link.straightRoute id exit (.beside container source exit)) := by
  obtain ⟨ends, isChecked, sameId, sameSource, sameTarget, checked⟩ :=
    LinkEnds.exists_of_areSiblings tree id sourceFound targetFound apart neighbours.areSiblings
  rw [← sameSource] at sourceFree
  rw [← sameTarget] at targetFree
  rw [planLink, isChecked, Attempt.ok_bind,
    routeLink_of_neighbours tree limit checked neighbours sourceFree targetFree, Attempt.ok_bind,
    verify_of_neighbours tree checked neighbours sourceFree targetFree, Attempt.ok_bind,
    LinkEnds.route_eq_straightRoute sameId sameSource sameTarget]
  rfl

end Topological

end BoxDiagram
