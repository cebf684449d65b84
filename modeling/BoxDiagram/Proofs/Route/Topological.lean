import BoxDiagram.Proofs.Route.Ends
import BoxDiagram.Proofs.Route.Stub
import BoxDiagram.Route.Topological
import Mathlib.Data.List.Chain
import Mathlib.Data.List.Nodup

namespace BoxDiagram

/-!
# Joined climbs are walks

Two stubs that end in one container are joined on a common last road, at a
crossing of their last roads, or by a third road that crosses both.  In each case
the roads are a walk from one end of a link to the other.
-/

variable {α : Type} {graph : Graph α}

namespace Topological

/-- The children of a container that hold the two ends of a link. -/
structure Branches.AreHeld
    (graph : Graph α)
    (common : Node α)
    (branches : Branches)
    (source target : Node α) : Prop where
  sourceFound : graph.get? branches.source = some source
  targetFound : graph.get? branches.target = some target
  holdsSource : common.Holds source
  holdsTarget : common.Holds target

/-- The road that connects two roads across one axis runs across the other axis. -/
theorem exists_connector
    {common source target : Node α}
    {branches : Branches}
    {road : Road}
    (held : branches.AreHeld graph common source target)
    (isRoad : graph.IsRoadOf common road) :
    ∃ between, connector graph branches road = .ok between ∧
      graph.IsRoadOf common between ∧ between.container = road.container ∧
        between.axis ≠ road.axis := by
  have sourceInside := held.holdsSource.index_lt
  rw [connector]
  cases axis : road.axis with
  | main =>
      refine ⟨_, rfl, ⟨isRoad.found, isRoad.isContainer, ?_⟩, rfl, by simp [Road.cross]⟩
      simp only [Road.cross]
      split <;> omega
  | cross =>
      simp only [Graph.find_eq_ok_iff.mpr held.sourceFound,
        Graph.find_eq_ok_iff.mpr held.targetFound, Attempt.ok_bind]
      refine ⟨_, rfl, ⟨isRoad.found, isRoad.isContainer, ?_⟩, rfl, by simp [Road.main]⟩
      simp only [Road.main]
      split <;> omega

/-- A stub leaves an end of a link in an allowed direction and climbs into the common container. -/
structure IsStubOf
    (graph : Graph α)
    (common node : Node α)
    (endpoint : Endpoint)
    (stub : Stub) : Prop where
  allowed :
    ∃ exits, graph.allowedExits endpoint.node endpoint.edge = .ok exits ∧ stub.first ∈ exits
  climbs : graph.Climbs common.depth node stub.first stub.last stub.roads

namespace IsStubOf

variable
  {common node : Node α}
  {endpoint : Endpoint}
  {stub : Stub}

/-- A stub ends on a road of the common container. -/
theorem isRoadOf_lastRoad
    {level : Nat}
    (isStub : IsStubOf graph common node endpoint stub)
    (isOuter : graph.IsOuter node level common) :
    graph.IsRoadOf common stub.lastRoad :=
  isStub.climbs.isRoadOf_last isOuter stub.lastRoad (by simp [Stub.roads])

/-- All roads of a stub but the last one belong to containers below the common one. -/
theorem exists_isOuter_below
    {road : Road}
    (isStub : IsStubOf graph common node endpoint stub)
    (member : road ∈ stub.before) :
    ∃ container level,
      graph.IsRoadOf container road ∧ graph.IsOuter node (level + 1) container ∧
        common.depth < container.depth :=
  isStub.climbs.exists_isOuter_below (by rwa [Stub.roads, List.dropLast_concat])

/-- Before its end, a stub is inside of the common container. -/
theorem not_isRoadOf
    {road : Road}
    (isStub : IsStubOf graph common node endpoint stub)
    (member : road ∈ stub.before) :
    ¬ graph.IsRoadOf common road := by
  intro isRoad
  obtain ⟨container, _, isOther, _, below⟩ := isStub.exists_isOuter_below member
  rw [Option.some.inj (isRoad.found.symm.trans isOther.found)] at below
  exact Nat.lt_irrefl _ below

end IsStubOf

/-- A chain of turns can be walked in either direction. -/
theorem isChain_reverse
    {common : NodeId}
    {roads : List Road}
    (isChain : roads.IsChain (graph.Turns common)) :
    roads.reverse.IsChain (graph.Turns common) := by
  rw [List.isChain_reverse]
  exact isChain.imp fun _ _ turns => turns.symm

/-- A list of roads goes along one stub and back along another one, by roads of a container. -/
structure Connects
    (graph : Graph α)
    (common : Node α)
    (source target : Stub)
    (roads : List Road) : Prop where
  startsWith : source.roads <+: roads
  endsWith : target.roads.reverse <:+ roads
  between :
    ∀ road ∈ roads,
      road ∈ source.roads ∨ road ∈ target.roads ∨ graph.IsRoadOf common road
  isChain :
    source.roads.IsChain (graph.Turns common.id) →
      target.roads.IsChain (graph.Turns common.id) →
        roads.IsChain (graph.Turns common.id)
  parts :
    ∃ middle, roads = source.before ++ (middle ++ target.before.reverse) ∧ middle.Nodup ∧
      ∀ road ∈ middle, graph.IsRoadOf common road

/-- Two stubs with one last road connect where they meet. -/
theorem connects_of_eq
    {common : Node α}
    {source target : Stub}
    (leaves : graph.IsRoadOf common source.lastRoad)
    (same : source.lastRoad = target.lastRoad) :
    Connects graph common source target (source.roads ++ target.before.reverse) := by
  have split :
      source.roads ++ target.before.reverse =
        source.before ++ target.lastRoad :: target.before.reverse := by
    simp [Stub.roads, same]
  have back : target.roads.reverse = target.lastRoad :: target.before.reverse := by
    simp [Stub.roads]
  constructor
  case startsWith =>
    exact List.prefix_append _ _
  case endsWith =>
    rw [split, back]
    exact List.suffix_append _ _
  case between =>
    intro road member
    rcases List.mem_append.mp member with inSource | inBack
    · exact .inl inSource
    · exact .inr (.inl (List.mem_append_left _ (List.mem_reverse.mp inBack)))
  case isChain =>
    intro sourceChain targetChain
    have targetBack := isChain_reverse targetChain
    rw [split, List.isChain_split, ← back, ← same]
    exact ⟨sourceChain, targetBack⟩
  case parts =>
    exact ⟨[source.lastRoad], by simp [Stub.roads], List.pairwise_singleton _ _,
      by simpa using leaves⟩

/-- Two stubs connect if their last roads cross, directly or by a road that crosses both. -/
theorem connects_of_turns
    {common : Node α}
    {source target : Stub}
    (middle : List Road)
    (areRoads :
      ∀ road ∈ source.lastRoad :: (middle ++ [target.lastRoad]), graph.IsRoadOf common road)
    (distinct : (source.lastRoad :: (middle ++ [target.lastRoad])).Nodup)
    (turns :
      (source.lastRoad :: (middle ++ [target.lastRoad])).IsChain (graph.Turns common.id)) :
    Connects graph common source target
      (source.roads ++ (middle ++ target.lastRoad :: target.before.reverse)) := by
  have back : target.roads.reverse = target.lastRoad :: target.before.reverse := by
    simp [Stub.roads]
  rw [← back]
  constructor
  case startsWith =>
    exact List.prefix_append _ _
  case endsWith =>
    rw [← List.append_assoc]
    exact List.suffix_append _ _
  case between =>
    intro road member
    rcases List.mem_append.mp member with inSource | inRest
    · exact .inl inSource
    · rcases List.mem_append.mp inRest with inMiddle | inBack
      · exact .inr (.inr (areRoads road (by simp [inMiddle])))
      · exact .inr (.inl (List.mem_reverse.mp inBack))
  case isChain =>
    intro sourceChain targetChain
    have targetBack := isChain_reverse targetChain
    rw [Stub.roads, List.append_assoc, List.singleton_append, List.isChain_split]
    refine ⟨sourceChain, ?_⟩
    rw [back] at targetBack ⊢
    rw [← List.cons_append, List.isChain_split]
    exact ⟨turns, targetBack⟩
  case parts =>
    exact ⟨_, by simp [Stub.roads], distinct, areRoads⟩

/-- Two stubs that end in the common container are joined. -/
theorem exists_join
    {common sourceBranch targetBranch : Node α}
    {branches : Branches}
    {source target : Stub}
    (tree : graph.IsTree)
    (held : branches.AreHeld graph common sourceBranch targetBranch)
    (leaves : graph.IsRoadOf common source.lastRoad)
    (arrives : graph.IsRoadOf common target.lastRoad) :
    ∃ join, join? graph branches source target = .ok (some join) ∧
      join.source = source ∧ join.target = target ∧
        Connects graph common source target join.roads := by
  have sameContainer : source.lastRoad.container = target.lastRoad.container :=
    (tree.id_of_get? leaves.found).symm.trans (tree.id_of_get? arrives.found)
  rw [join?]
  dsimp only
  rw [if_neg (not_not_intro sameContainer)]
  by_cases same : source.lastRoad = target.lastRoad
  · rw [if_pos same]
    exact ⟨_, rfl, rfl, rfl, connects_of_eq leaves same⟩
  · rw [if_neg same]
    by_cases crossing : source.lastRoad.axis = target.lastRoad.axis
    · obtain ⟨between, found, betweenOf, betweenContainer, betweenAxis⟩ :=
        exists_connector held leaves
      rw [if_neg (not_not_intro crossing), found]
      have turnsOff : graph.Turns common.id source.lastRoad between :=
        Graph.turns_of_axis_ne leaves betweenOf betweenContainer.symm betweenAxis.symm
      have turnsOn : graph.Turns common.id between target.lastRoad :=
        Graph.turns_of_axis_ne betweenOf arrives (betweenContainer.trans sameContainer)
          (crossing ▸ betweenAxis)
      have connects :
          Connects graph common source target
            (source.roads ++ between :: target.lastRoad :: target.before.reverse) := by
        apply connects_of_turns [between]
        case areRoads =>
          simp [leaves, betweenOf, arrives]
        case distinct =>
          have notFirst : source.lastRoad ≠ between := fun isFirst => betweenAxis (by rw [isFirst])
          have notLast : between ≠ target.lastRoad := fun isLast =>
            betweenAxis (by rw [crossing, isLast])
          simp [notFirst, notLast, same]
        case turns =>
          simp [turnsOff, turnsOn]
      exact ⟨_, rfl, rfl, rfl, connects⟩
    · rw [if_pos crossing]
      have turns : graph.Turns common.id source.lastRoad target.lastRoad :=
        Graph.turns_of_axis_ne leaves arrives sameContainer crossing
      have connects :
          Connects graph common source target
            (source.roads ++ target.lastRoad :: target.before.reverse) :=
        connects_of_turns [] (by simp [leaves, arrives]) (by simp [same]) (by simpa using turns)
      exact ⟨_, rfl, rfl, rfl, connects⟩

/-- What connects two stubs is a walk between the ends of the link. -/
theorem isWalk_of_connects
    {ends : LinkEnds}
    {source target common : Node α}
    {climb descent : Nat}
    {leaving arriving : Stub}
    {roads : List Road}
    (tree : graph.IsTree)
    (checked : ends.AreChecked graph source target common climb descent)
    (leavingStub : IsStubOf graph common source ends.source leaving)
    (arrivingStub : IsStubOf graph common target ends.target arriving)
    (connects : Connects graph common leaving arriving roads) :
    graph.IsWalk ends.common ends.source ends.target leaving.first arriving.first roads := by
  have leavingBetween :=
    leavingStub.climbs.between tree checked.sourceFound checked.sourceBelow
  have arrivingBetween :=
    arrivingStub.climbs.between tree checked.targetFound checked.targetBelow
  rw [← checked.common_id]
  constructor
  case first =>
    obtain ⟨exits, allows, isAllowed⟩ := leavingStub.allowed
    obtain ⟨road, isHead, leaves⟩ :=
      leavingStub.climbs.leavesOnto tree checked.sourceFound checked.sourceBelow allows isAllowed
    obtain ⟨rest, rfl⟩ := connects.startsWith
    exact ⟨road, by simp [List.head?_append, isHead], leaves⟩
  case last =>
    obtain ⟨exits, allows, isAllowed⟩ := arrivingStub.allowed
    obtain ⟨road, isHead, leaves⟩ :=
      arrivingStub.climbs.leavesOnto tree checked.targetFound checked.targetBelow allows
        isAllowed
    obtain ⟨start, rfl⟩ := connects.endsWith
    exact ⟨road, by simp [List.getLast?_append, isHead], leaves⟩
  case between =>
    intro road member
    rcases connects.between road member with inLeaving | inArriving | inCommon
    · obtain ⟨exists_road, atOrBelow, above⟩ := leavingBetween road inLeaving
      exact ⟨exists_road, atOrBelow, .inl above⟩
    · obtain ⟨exists_road, atOrBelow, above⟩ := arrivingBetween road inArriving
      exact ⟨exists_road, atOrBelow, .inr above⟩
    · have same := tree.id_of_get? inCommon.found
      rw [Graph.IsRoadBetween, ← same, checked.common_id]
      exact ⟨⟨common, inCommon⟩, .refl, .inl checked.isCommon.aboveFirst⟩
  case turns =>
    exact connects.isChain
      (leavingStub.climbs.isChain tree checked.sourceBelow)
      (arrivingStub.climbs.isChain tree checked.targetBelow)

/-- What connects two stubs comes to each road once: only the last roads lie in one container. -/
theorem nodup_of_connects
    {ends : LinkEnds}
    {source target common : Node α}
    {climb descent : Nat}
    {leaving arriving : Stub}
    {roads : List Road}
    (tree : graph.IsTree)
    (checked : ends.AreChecked graph source target common climb descent)
    (leavingStub : IsStubOf graph common source ends.source leaving)
    (arrivingStub : IsStubOf graph common target ends.target arriving)
    (connects : Connects graph common leaving arriving roads) :
    roads.Nodup := by
  obtain ⟨middle, rfl, distinct, areRoads⟩ := connects.parts
  -- A container around both ends is not below the common one.
  have apart : ∀ road ∈ leaving.before, road ∉ arriving.before := by
    intro road isLeaving isArriving
    obtain ⟨container, level, isRoad, around, below⟩ := leavingStub.exists_isOuter_below isLeaving
    obtain ⟨other, _, isOther, aroundTarget, _⟩ := arrivingStub.exists_isOuter_below isArriving
    obtain rfl := Option.some.inj (isRoad.found.symm.trans isOther.found)
    have atOrAbove := checked.isCommon.innermost container.id
      ((tree.above_iff checked.sourceFound).mpr around.mem_ancestors)
      ((tree.above_iff checked.targetFound).mpr aroundTarget.mem_ancestors)
    obtain ⟨_, outer, _, sameId, isOuter⟩ :=
      tree.exists_isOuter_of_mem checked.commonFound
        ((tree.atOrAbove_iff checked.commonFound).mp atOrAbove)
    have outerFound := isOuter.found
    rw [sameId, around.found] at outerFound
    obtain rfl := Option.some.inj outerFound
    have := isOuter.depth_eq
    omega
  rw [List.nodup_append, List.nodup_append]
  refine ⟨(List.nodup_append.mp leavingStub.climbs.nodup).1, ⟨distinct,
    List.nodup_reverse.mpr (List.nodup_append.mp arrivingStub.climbs.nodup).1, ?_⟩, ?_⟩
  · rintro road isMiddle _ isArriving rfl
    exact arrivingStub.not_isRoadOf (List.mem_reverse.mp isArriving) (areRoads road isMiddle)
  · rintro road isLeaving _ isRest rfl
    rcases List.mem_append.mp isRest with isMiddle | isArriving
    · exact leavingStub.not_isRoadOf isLeaving (areRoads road isMiddle)
    · exact apart road isLeaving (List.mem_reverse.mp isArriving)

/-- The branch of a box is the child of the common container that holds it. -/
theorem exists_branch
    {ends : LinkEnds}
    {common node : Node α}
    {id : NodeId}
    {level : Nat}
    (tree : graph.IsTree)
    (commonId : common.id = ends.common)
    (found : graph.get? id = some node)
    (isOuter : graph.IsOuter node (level + 1) common) :
    ∃ child, branch graph ends id = .ok child.id ∧
      graph.get? child.id = some child ∧ common.Holds child := by
  have depths := isOuter.depth_eq
  obtain ⟨child, isChild⟩ := tree.exists_isOuter found level (by omega)
  obtain ⟨container, containerFound, holds⟩ :=
    tree.exists_holds isChild.found (by have := isChild.depth_eq; omega)
  obtain rfl := isOuter.unique (isChild.trans (.of_holds containerFound holds))
  refine ⟨child, ?_, isChild.found, holds⟩
  rw [branch, ← commonId, isOuter.climb_eq found, Attempt.ofGraph_ok, Attempt.ok_bind,
    Nat.add_sub_cancel, tree.ancestorAt_of_isOuter found isChild]
  rfl

/-- The cheaper one of a join that is kept and another one. -/
def cheaper (kept : Option Join) (found : Join) : Option Join :=
  match kept with
  | some best => if found.score < best.score then some found else some best
  | none => some found

/-- The cheapest join is one of those compared. -/
theorem kept_or_mem_of_foldl_cheaper
    {found : List Join}
    {kept : Option Join}
    {best : Join}
    (isBest : found.foldl cheaper kept = some best) :
    kept = some best ∨ best ∈ found := by
  induction found generalizing kept with
  | nil =>
      exact .inl isBest
  | cons join rest inductionHypothesis =>
      rw [List.foldl_cons] at isBest
      rcases inductionHypothesis isBest with isKept | isLater
      · cases kept with
        | none =>
            cases isKept
            exact .inr List.mem_cons_self
        | some old =>
            rw [cheaper] at isKept
            split at isKept
            · cases isKept
              exact .inr List.mem_cons_self
            · exact .inl isKept
      · exact .inr (List.mem_cons_of_mem _ isLater)

theorem exists_foldl_cheaper
    (found : List Join)
    (kept : Join) :
    ∃ best, found.foldl cheaper (some kept) = some best := by
  induction found generalizing kept with
  | nil =>
      exact ⟨kept, rfl⟩
  | cons join rest inductionHypothesis =>
      rw [List.foldl_cons, cheaper]
      split
      · exact inductionHypothesis join
      · exact inductionHypothesis kept

/-- The cheapest join is one of those found. -/
theorem mem_of_cheapest
    {found : List Join}
    {best : Join}
    (isCheapest : cheapest found = some best) :
    best ∈ found := by
  rcases kept_or_mem_of_foldl_cheaper isCheapest with impossible | member
  · cases impossible
  · exact member

/-- Of some joins, one is the cheapest. -/
theorem exists_cheapest
    {found : List Join}
    (some_found : found ≠ []) :
    ∃ best, cheapest found = some best := by
  cases found with
  | nil =>
      exact absurd rfl some_found
  | cons join rest =>
      exact exists_foldl_cheaper rest join

/-- The joins of two lists of stubs are those that a stub of each makes. -/
theorem mem_joins_iff
    {branches : Branches}
    {sources targets : List Stub}
    {found : List Join}
    {join : Join}
    (joined : joins graph branches sources targets = .ok found) :
    join ∈ found ↔
      ∃ source ∈ sources, ∃ target ∈ targets,
        join? graph branches source target = .ok (some join) := by
  obtain ⟨table, tabled, same⟩ := Attempt.bind_eq_ok_iff.mp joined
  cases same
  rw [List.reduceOption_mem_iff]
  constructor
  · intro member
    obtain ⟨row, rowMember, joinMember⟩ := List.mem_flatten.mp member
    obtain ⟨source, sourceMember, isRow⟩ := Attempt.exists_of_mem_mapM tabled rowMember
    obtain ⟨target, targetMember, isJoin⟩ := Attempt.exists_of_mem_mapM isRow joinMember
    exact ⟨source, sourceMember, target, targetMember, isJoin⟩
  · rintro ⟨source, sourceMember, target, targetMember, isJoin⟩
    obtain ⟨row, rowMember, isRow⟩ := Attempt.exists_result_of_mem tabled sourceMember
    obtain ⟨entry, entryMember, isEntry⟩ := Attempt.exists_result_of_mem isRow targetMember
    obtain rfl := Except.ok.inj (isJoin.symm.trans isEntry)
    exact List.mem_flatten.mpr ⟨row, rowMember, entryMember⟩

/-- All stubs of the two ends of a link can be joined. -/
theorem exists_joins
    {ends : LinkEnds}
    {source target common sourceBranch targetBranch : Node α}
    {climb descent : Nat}
    {branches : Branches}
    {sources targets : List Stub}
    (tree : graph.IsTree)
    (checked : ends.AreChecked graph source target common climb descent)
    (held : branches.AreHeld graph common sourceBranch targetBranch)
    (leaving : ∀ stub ∈ sources, IsStubOf graph common source ends.source stub)
    (arriving : ∀ stub ∈ targets, IsStubOf graph common target ends.target stub) :
    ∃ found, joins graph branches sources targets = .ok found ∧
      (∀ join ∈ found, join.source ∈ sources ∧ join.target ∈ targets ∧
        Connects graph common join.source join.target join.roads) ∧
      (sources ≠ [] → targets ≠ [] → found ≠ []) := by
  have joined :
      ∀ first ∈ sources, ∀ last ∈ targets,
        ∃ join, join? graph branches first last = .ok (some join) ∧
          join.source = first ∧ join.target = last ∧
            Connects graph common first last join.roads := by
    intro first firstMember last lastMember
    exact exists_join tree held
      ((leaving first firstMember).isRoadOf_lastRoad checked.sourceBelow)
      ((arriving last lastMember).isRoadOf_lastRoad checked.targetBelow)
  have rows :
      ∀ first ∈ sources, ∃ row, targets.mapM (join? graph branches first) = .ok row := by
    intro first firstMember
    apply Attempt.exists_mapM_eq_ok
    intro last lastMember
    obtain ⟨join, isJoin, _⟩ := joined first firstMember last lastMember
    exact ⟨some join, isJoin⟩
  obtain ⟨table, tabled⟩ := Attempt.exists_mapM_eq_ok rows
  have found : joins graph branches sources targets = .ok table.flatten.reduceOption := by
    rw [joins, tabled]
    rfl
  refine ⟨_, found, ?_, ?_⟩
  · intro join member
    obtain ⟨first, firstMember, last, lastMember, isJoin⟩ := (mem_joins_iff found).mp member
    obtain ⟨other, isOther, rfl, rfl, connects⟩ := joined first firstMember last lastMember
    obtain rfl := Option.some.inj (Except.ok.inj (isJoin.symm.trans isOther))
    exact ⟨firstMember, lastMember, connects⟩
  · intro some_source some_target
    obtain ⟨first, firstMember⟩ := List.exists_mem_of_ne_nil sources some_source
    obtain ⟨last, lastMember⟩ := List.exists_mem_of_ne_nil targets some_target
    obtain ⟨join, isJoin, _⟩ := joined first firstMember last lastMember
    exact List.ne_nil_of_mem
      ((mem_joins_iff found).mpr ⟨first, firstMember, last, lastMember, isJoin⟩)

/-- The stubs of an end are as joins need them, and there is at least one. -/
theorem isStubOf_of_areStubs
    {common node : Node α}
    {endpoint : Endpoint}
    {allowed : List Direction}
    {found : List Stub}
    (tree : graph.IsTree)
    (isNode : graph.get? endpoint.node = some node)
    (deep : common.depth < node.depth)
    (allows : graph.allowedExits endpoint.node endpoint.edge = .ok allowed)
    (some_allowed : allowed ≠ [])
    (areStubs : Climb.AreStubs graph common.depth node allowed found) :
    (∀ stub ∈ found, IsStubOf graph common node endpoint stub) ∧ found ≠ [] := by
  constructor
  · intro stub member
    obtain ⟨isAllowed, climbs⟩ := areStubs.climbs stub member
    exact ⟨⟨allowed, allows, isAllowed⟩, climbs⟩
  · obtain ⟨first, isAllowed⟩ := List.exists_mem_of_ne_nil allowed some_allowed
    obtain ⟨last, roads, climbs⟩ :=
      Climb.exists_climbs tree isNode deep first
    obtain ⟨stub, member, _⟩ := areStubs.shortest first isAllowed last roads climbs
    exact List.ne_nil_of_mem member

/-- Both ends of a link have branches that the common container holds. -/
theorem exists_branches
    {ends : LinkEnds}
    {source target common : Node α}
    {climb descent : Nat}
    (tree : graph.IsTree)
    (checked : ends.AreChecked graph source target common climb descent) :
    ∃ (branches : Branches) (sourceBranch targetBranch : Node α),
      branch graph ends ends.source.node = .ok branches.source ∧
        branch graph ends ends.target.node = .ok branches.target ∧
          branches.AreHeld graph common sourceBranch targetBranch := by
  obtain ⟨sourceBranch, sourceFound, sourceIs, holdsSource⟩ :=
    exists_branch tree checked.common_id checked.sourceFound checked.sourceBelow
  obtain ⟨targetBranch, targetFound, targetIs, holdsTarget⟩ :=
    exists_branch tree checked.common_id checked.targetFound checked.targetBelow
  exact ⟨⟨sourceBranch.id, targetBranch.id⟩, sourceBranch, targetBranch, sourceFound,
    targetFound, sourceIs, targetIs, holdsSource, holdsTarget⟩

/-- Once the stubs of both ends are found, a cheapest join of them is a walk without circles. -/
theorem exists_bestJoin
    {ends : LinkEnds}
    {source target common : Node α}
    {climb descent limit : Nat}
    {sources targets : List Stub}
    {memory remembered : Climb.Memory}
    (tree : graph.IsTree)
    (checked : ends.AreChecked graph source target common climb descent)
    (sourcesFound :
      Climb.stubs ⟨graph, common.depth, limit⟩ ends.source [] = .ok (sources, memory))
    (targetsFound :
      Climb.stubs ⟨graph, common.depth, limit⟩ ends.target memory = .ok (targets, remembered)) :
    ∃ join, bestJoin graph ends limit = .ok (some join) ∧
      graph.IsWalk ends.common ends.source ends.target join.source.first join.target.first
        join.roads ∧ join.roads.Nodup := by
  obtain ⟨branches, sourceBranch, targetBranch, sourceIs, targetIs, held⟩ :=
    exists_branches tree checked
  obtain ⟨sourceAllowed, sourceAllows, some_source⟩ :=
    LinkEnds.exists_allowedExits checked.sourceFound
  obtain ⟨targetAllowed, targetAllows, some_target⟩ :=
    LinkEnds.exists_allowedExits checked.targetFound
  obtain ⟨sourcesRight, memoryRight⟩ :=
    Climb.areStubs_of_stubs tree checked.sourceFound checked.source_deep sourceAllows
      Climb.Memory.isRight_nil sourcesFound
  obtain ⟨targetsRight, _⟩ :=
    Climb.areStubs_of_stubs tree checked.targetFound checked.target_deep targetAllows
      memoryRight targetsFound
  obtain ⟨leaving, some_leaving⟩ :=
    isStubOf_of_areStubs tree checked.sourceFound checked.source_deep sourceAllows
      some_source sourcesRight
  obtain ⟨arriving, some_arriving⟩ :=
    isStubOf_of_areStubs tree checked.targetFound checked.target_deep targetAllows
      some_target targetsRight
  obtain ⟨found, joined, areJoins, some_join⟩ := exists_joins tree checked held leaving arriving
  obtain ⟨best, isCheapest⟩ := exists_cheapest (some_join some_leaving some_arriving)
  obtain ⟨fromSource, toTarget, connects⟩ := areJoins best (mem_of_cheapest isCheapest)
  refine ⟨best, ?_,
    isWalk_of_connects tree checked (leaving _ fromSource) (arriving _ toTarget) connects,
    nodup_of_connects tree checked (leaving _ fromSource) (arriving _ toTarget) connects⟩
  have areCandidates : candidates graph ends limit = .ok found := by
    rw [candidates, Graph.find_eq_ok_iff.mpr checked.commonFound, Attempt.ofGraph_ok,
      Attempt.ok_bind]
    dsimp only
    rw [sourcesFound, Attempt.ok_bind]
    dsimp only
    rw [targetsFound, Attempt.ok_bind]
    dsimp only
    rw [sourceIs, Attempt.ok_bind, targetIs, Attempt.ok_bind, joined, Attempt.ofGraph_ok]
  rw [bestJoin, areCandidates, Attempt.ok_bind, isCheapest]
  rfl

/-- A route that is found for a checked link is a walk between its ends, without circles. -/
theorem exists_roads_of_routeLink
    {ends : LinkEnds}
    {source target common : Node α}
    {climb descent limit : Nat}
    {route : Route}
    (tree : graph.IsTree)
    (checked : ends.AreChecked graph source target common climb descent)
    (succeeded : routeLink graph ends limit = .ok route) :
    ∃ sourceExit targetExit roads,
      route = ends.route sourceExit targetExit roads ∧
        graph.IsWalk ends.common ends.source ends.target sourceExit targetExit roads ∧
          roads.Nodup := by
  rw [routeLink] at succeeded
  obtain ⟨answer, answered, succeeded⟩ := Attempt.bind_eq_ok_iff.mp succeeded
  obtain ⟨found, searched, _⟩ := Attempt.bind_eq_ok_iff.mp answered
  rw [candidates, Graph.find_eq_ok_iff.mpr checked.commonFound, Attempt.ofGraph_ok,
    Attempt.ok_bind] at searched
  obtain ⟨⟨sources, memory⟩, sourcesFound, searched⟩ := Attempt.bind_eq_ok_iff.mp searched
  obtain ⟨⟨targets, remembered⟩, targetsFound, _⟩ := Attempt.bind_eq_ok_iff.mp searched
  obtain ⟨join, isBest, isWalk⟩ := exists_bestJoin tree checked sourcesFound targetsFound
  obtain rfl := Except.ok.inj (answered.symm.trans isBest)
  cases succeeded
  exact ⟨_, _, _, rfl, isWalk⟩

/-- The route of a link is a walk. -/
theorem isWalk_of_routeLink
    {ends : LinkEnds}
    {source target common : Node α}
    {climb descent limit : Nat}
    {route : Route}
    (tree : graph.IsTree)
    (checked : ends.AreChecked graph source target common climb descent)
    (succeeded : routeLink graph ends limit = .ok route) :
    ∃ sourceExit targetExit roads,
      route = ends.route sourceExit targetExit roads ∧
        graph.IsWalk ends.common ends.source ends.target sourceExit targetExit roads := by
  obtain ⟨sourceExit, targetExit, roads, isRoute, isWalk, _⟩ :=
    exists_roads_of_routeLink tree checked succeeded
  exact ⟨sourceExit, targetExit, roads, isRoute, isWalk⟩

/-- A checked link has a route if as many turns are allowed as there are levels to climb. -/
theorem exists_routeLink
    {ends : LinkEnds}
    {source target common : Node α}
    {climb descent limit : Nat}
    (tree : graph.IsTree)
    (checked : ends.AreChecked graph source target common climb descent)
    (sourceEnough : source.depth ≤ common.depth + (limit + 1))
    (targetEnough : target.depth ≤ common.depth + (limit + 1)) :
    ∃ route, routeLink graph ends limit = .ok route := by
  obtain ⟨sourceAllowed, sourceAllows, _⟩ := LinkEnds.exists_allowedExits checked.sourceFound
  obtain ⟨targetAllowed, targetAllows, _⟩ := LinkEnds.exists_allowedExits checked.targetFound
  obtain ⟨⟨sources, memory⟩, sourcesFound⟩ :
      ∃ result, Climb.stubs ⟨graph, common.depth, limit⟩ ends.source [] = .ok result :=
    Climb.exists_stubs tree [] checked.sourceFound checked.source_deep sourceAllows
      sourceEnough
  obtain ⟨⟨targets, remembered⟩, targetsFound⟩ :
      ∃ result, Climb.stubs ⟨graph, common.depth, limit⟩ ends.target memory = .ok result :=
    Climb.exists_stubs tree memory checked.targetFound checked.target_deep targetAllows
      targetEnough
  obtain ⟨join, isBest, _⟩ := exists_bestJoin tree checked sourcesFound targetsFound
  exact ⟨_, by rw [routeLink, isBest]; rfl⟩

end Topological

end BoxDiagram
