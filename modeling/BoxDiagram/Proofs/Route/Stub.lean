import BoxDiagram.Proofs.Route.Remembered

namespace BoxDiagram

/-!
# Climbs as walks, and stubs

The roads of a climb are a walk from a box into the container to which it
climbs.  The stubs of an end of a link are the shortest climbs that start in one
of its allowed directions.
-/

variable {α : Type} {graph : Graph α}

namespace Graph.Climbs

variable
  {node common : Node α}
  {first last : Direction}
  {roads : List Road}

/-- A climb starts on a road that its box meets. -/
theorem exists_head
    {top : Nat}
    (climbs : graph.Climbs top node first last roads) :
    ∃ road rest level below container,
      roads = road :: rest ∧
        graph.MeetsRoad node first level road below container ∧
          level < node.boundary.toward first ∧ top + level < node.depth := by
  cases climbs with
  | arrive meets arrives clear =>
      exact ⟨_, [], _, _, _, rfl, meets, clear, by omega⟩
  | turn meets blocked inside turns climbs =>
      exact ⟨_, _, _, _, _, rfl, meets, by omega, by omega⟩

/-- A climb leaves its box onto its first road. -/
theorem leavesOnto
    (tree : graph.IsTree)
    (climbs : graph.Climbs common.depth node first last roads)
    {endpoint : Endpoint}
    {allowed : List Direction}
    {level : Nat}
    (found : graph.get? endpoint.node = some node)
    (isOuter : graph.IsOuter node level common)
    (allows : graph.allowedExits endpoint.node endpoint.edge = .ok allowed)
    (isAllowed : first ∈ allowed) :
    ∃ road, roads.head? = some road ∧ graph.LeavesOnto common.id endpoint first road := by
  obtain ⟨road, rest, passed, below, container, rfl, meets, withinBoundary, inside⟩ :=
    climbs.exists_head
  have depths := isOuter.depth_eq
  obtain ⟨exits, listed, member⟩ :=
    tree.exists_exitRoads_of_meets found meets withinBoundary (show passed < level by omega)
  exact ⟨road, rfl, allowed, level, exits, allows, isAllowed, isOuter.climb_eq found, listed,
    member⟩

/-- Each road of a climb lies around its box, at or below the container to which it climbs. -/
theorem between
    (tree : graph.IsTree)
    (climbs : graph.Climbs common.depth node first last roads)
    {id : NodeId}
    {level : Nat}
    (found : graph.get? id = some node)
    (isOuter : graph.IsOuter node level common) :
    ∀ road ∈ roads,
      graph.HasRoad road ∧ graph.AtOrAbove common.id road.container ∧
        graph.Above road.container id := by
  induction climbs generalizing id level with
  | arrive meets arrives clear =>
      intro road member
      obtain rfl := List.mem_singleton.mp member
      have depths := isOuter.depth_eq
      exact tree.between_of_meets found isOuter meets (by omega)
  | turn meets blocked inside turns climbs inductionHypothesis =>
      intro road member
      have depths := isOuter.depth_eq
      rcases List.mem_cons.mp member with isFirst | isLater
      · subst road
        exact tree.between_of_meets found isOuter meets (by omega)
      · obtain ⟨exists_road, atOrBelow, above⟩ :=
          inductionHypothesis meets.found
            (meets.isOuter_container.between isOuter (by omega)) road isLater
        exact ⟨exists_road, atOrBelow, Relation.TransGen.trans above
          ((tree.above_iff found).mpr meets.isOuter_container.mem_ancestors)⟩

/-- A link can turn from each road of a climb into the next one. -/
theorem isChain
    (tree : graph.IsTree)
    (climbs : graph.Climbs common.depth node first last roads)
    {level : Nat}
    (isOuter : graph.IsOuter node level common) :
    roads.IsChain (graph.Turns common.id) := by
  induction climbs generalizing level with
  | arrive meets arrives clear =>
      exact .singleton _
  | @turn node below holder direction side last passed road rest meets blocked inside turns
      climbs inductionHypothesis =>
      have depths := isOuter.depth_eq
      have further := meets.isOuter_container.between isOuter (by omega)
      have restChain := inductionHypothesis further
      obtain ⟨next, later, nextPassed, nextBelow, nextContainer, rfl, nextMeets,
        withinBoundary, withinDepth⟩ := climbs.exists_head
      have holderDepths := further.depth_eq
      have different : side.axis ≠ direction.axis := Direction.mem_perpendicular.mp turns
      have outward : graph.LeadsOutward common.id road next :=
        tree.leadsOutward_of_meets meets.isRoadOf.found meets.fixedAxis_eq different further
          nextMeets withinBoundary (by omega)
      have crosses : graph.Crosses road next :=
        ⟨_, _, meets.fixedAxis_eq, nextMeets.fixedAxis_eq, different.symm⟩
      exact .cons_cons ⟨crosses, .inr (.inl outward)⟩ restChain

/-- A climb ends on a road of the top. -/
theorem isRoadOf_last
    (climbs : graph.Climbs common.depth node first last roads)
    {level : Nat}
    (isOuter : graph.IsOuter node level common) :
    ∀ road, roads.getLast? = some road → graph.IsRoadOf common road := by
  induction climbs generalizing level with
  | @arrive _ _ _ _ passed _ meets arrives clear =>
      intro road isLast
      cases isLast
      have depths := isOuter.depth_eq
      obtain rfl : level = passed + 1 := by omega
      rw [← meets.isOuter_container.unique isOuter]
      exact meets.isRoadOf
  | turn meets blocked inside turns climbs inductionHypothesis =>
      intro road isLast
      have depths := isOuter.depth_eq
      apply inductionHypothesis (meets.isOuter_container.between isOuter (by omega)) road
      obtain ⟨next, later, _, _, _, rfl, _⟩ := climbs.exists_head
      simpa using isLast

/-- The roads of a climb belong to containers around its box. -/
theorem exists_isOuter
    (climbs : graph.Climbs top node first last roads)
    {road : Road}
    (member : road ∈ roads) :
    ∃ container level,
      graph.IsRoadOf container road ∧ graph.IsOuter node (level + 1) container := by
  induction climbs with
  | arrive meets _ _ =>
      obtain rfl := List.mem_singleton.mp member
      exact ⟨_, _, meets.isRoadOf, meets.isOuter_container⟩
  | turn meets _ _ _ _ inductionHypothesis =>
      rcases List.mem_cons.mp member with rfl | isLater
      · exact ⟨_, _, meets.isRoadOf, meets.isOuter_container⟩
      · obtain ⟨container, level, isRoad, isOuter⟩ := inductionHypothesis isLater
        have further := meets.isOuter_container.trans isOuter
        exact ⟨container, _, isRoad, further⟩

/-- All roads of a climb but the last one belong to containers below the one it leads into. -/
theorem exists_isOuter_below
    (climbs : graph.Climbs top node first last roads)
    {road : Road}
    (member : road ∈ roads.dropLast) :
    ∃ container level,
      graph.IsRoadOf container road ∧ graph.IsOuter node (level + 1) container ∧
        top < container.depth := by
  induction climbs with
  | arrive =>
      cases member
  | turn meets _ inside _ climbs inductionHypothesis =>
      obtain ⟨next, later, _, _, _, rfl, _⟩ := climbs.exists_head
      rw [List.dropLast_cons_cons] at member
      rcases List.mem_cons.mp member with rfl | isLater
      · refine ⟨_, _, meets.isRoadOf, meets.isOuter_container, ?_⟩
        have := meets.isOuter_container.depth_eq
        omega
      · obtain ⟨container, level, isRoad, isOuter, below⟩ := inductionHypothesis isLater
        have further := meets.isOuter_container.trans isOuter
        exact ⟨container, _, isRoad, further, below⟩

/-- A climb comes to each of its roads once, since it goes outward from each. -/
theorem nodup
    (climbs : graph.Climbs top node first last roads) :
    roads.Nodup := by
  induction climbs with
  | arrive =>
      exact List.pairwise_singleton _ _
  | turn meets _ _ _ climbs inductionHypothesis =>
      refine List.nodup_cons.mpr ⟨fun member => ?_, inductionHypothesis⟩
      obtain ⟨container, level, isRoad, isOuter⟩ := climbs.exists_isOuter member
      obtain rfl := Option.some.inj (meets.isRoadOf.found.symm.trans isRoad.found)
      have := isOuter.depth_eq
      omega

end Graph.Climbs

namespace Climb

/--
For each final direction, what was found is a shortest one of several climbs, each
with its first direction, and something was found if there is one.
-/
structure AreLeastStubs
    (best : PerDirection (Option Stub))
    (among : Direction → Direction → List Road → Prop) : Prop where
  isOne :
    ∀ {last stub}, best.toward last = some stub →
      stub.last = last ∧ among stub.first last stub.roads
  isLeast :
    ∀ {first last roads}, among first last roads →
      ∃ stub, best.toward last = some stub ∧ stub.roads.length ≤ roads.length

theorem AreLeastStubs.replicate_none :
    AreLeastStubs (.replicate none) fun _ _ _ => False where
  isOne isFound := by
    simp at isFound
  isLeast impossible := impossible.elim

/-- What is least among some stubs is least among the same ones. -/
theorem AreLeastStubs.congr
    {best : PerDirection (Option Stub)}
    {among others : Direction → Direction → List Road → Prop}
    (least : AreLeastStubs best among)
    (same : ∀ first last roads, among first last roads ↔ others first last roads) :
    AreLeastStubs best others where
  isOne isFound := ⟨(least.isOne isFound).1, (same _ _ _).mp (least.isOne isFound).2⟩
  isLeast isAmong := least.isLeast ((same _ _ _).mpr isAmong)

/-- The shortest stubs when one more first direction is allowed. -/
theorem AreLeastStubs.improve
    {kept : PerDirection (Option Stub)}
    {found : Ways}
    {amongKept : Direction → Direction → List Road → Prop}
    {among : Direction → List Road → Prop}
    (leastKept : AreLeastStubs kept amongKept)
    (least : found.AreLeast among)
    (start : Direction) :
    AreLeastStubs (improveStubs kept start found) fun first last roads =>
      amongKept first last roads ∨ first = start ∧ among last roads where
  isOne {last stub} isFound := by
    rw [improveStubs, PerDirection.toward_ofFunction] at isFound
    cases keptHere : kept.toward last with
    | none =>
        cases foundHere : found.toward last with
        | none =>
            simp [keptHere, foundHere] at isFound
        | some way =>
            simp only [keptHere, foundHere] at isFound
            cases isFound
            exact ⟨rfl, .inr ⟨rfl, least.isOne foundHere⟩⟩
    | some old =>
        obtain ⟨sameLast, isOld⟩ := leastKept.isOne keptHere
        cases foundHere : found.toward last with
        | none =>
            simp only [keptHere, foundHere] at isFound
            cases isFound
            exact ⟨sameLast, .inl isOld⟩
        | some way =>
            simp only [keptHere, foundHere] at isFound
            split at isFound
            · cases isFound
              exact ⟨rfl, .inr ⟨rfl, least.isOne foundHere⟩⟩
            · cases isFound
              exact ⟨sameLast, .inl isOld⟩
  isLeast {first last roads} isAmong := by
    rw [improveStubs, PerDirection.toward_ofFunction]
    rcases isAmong with amongOld | ⟨rfl, amongNew⟩
    · obtain ⟨old, keptHere, shorterOld⟩ := leastKept.isLeast amongOld
      rw [keptHere]
      simp only [Stub.roads, List.length_append, List.length_singleton] at shorterOld
      cases found.toward last with
      | none =>
          exact ⟨old, rfl, by simpa [Stub.roads] using shorterOld⟩
      | some way =>
          dsimp only
          split
          · refine ⟨_, rfl, ?_⟩
            simp only [Stub.roads, List.length_append, List.length_singleton]
            omega
          · exact ⟨old, rfl, by simpa [Stub.roads] using shorterOld⟩
    · obtain ⟨way, foundHere, shorterNew⟩ := least.isLeast amongNew
      rw [foundHere]
      cases kept.toward last with
      | none =>
          exact ⟨_, rfl, by simpa [Stub.roads] using Nat.succ_le_of_lt shorterNew⟩
      | some old =>
          dsimp only
          split
          · exact ⟨_, rfl, by simpa [Stub.roads] using Nat.succ_le_of_lt shorterNew⟩
          · refine ⟨old, rfl, ?_⟩
            simp only [Stub.roads, List.length_append, List.length_singleton]
            omega

/-- The first shortest stubs that leave in several directions, each of which finds its ways. -/
def bestStubs (exits : List Direction) (found : Direction → Ways) : PerDirection (Option Stub) :=
  exits.foldl (fun kept first => improveStubs kept first (found first)) (.replicate none)

/-- The stubs after several first directions are the shortest climbs that start in one of them. -/
theorem AreLeastStubs.bestStubs
    {exits : List Direction}
    {found : Direction → Ways}
    {among : Direction → Direction → List Road → Prop}
    (each : ∀ first ∈ exits, (found first).AreLeast (among first)) :
    AreLeastStubs (bestStubs exits found) fun first last roads =>
      first ∈ exits ∧ among first last roads := by
  have further :
      ∀ (kept : PerDirection (Option Stub)) (amongKept : Direction → Direction → List Road → Prop),
        AreLeastStubs kept amongKept →
          AreLeastStubs
            (exits.foldl (fun kept first => improveStubs kept first (found first)) kept)
            fun first last roads =>
              amongKept first last roads ∨ first ∈ exits ∧ among first last roads := by
    induction exits with
    | nil =>
        intro kept amongKept least
        simpa using least
    | cons exit rest inductionHypothesis =>
        intro kept amongKept least
        have leastNext := least.improve (each exit List.mem_cons_self) exit
        refine (inductionHypothesis (fun other member => each other (List.mem_cons_of_mem _ member))
          _ _ leastNext).congr ?_
        intro first last roads
        rw [List.mem_cons]
        constructor
        · rintro ((old | ⟨rfl, climbs⟩) | ⟨later, climbs⟩)
          · exact .inl old
          · exact .inr ⟨.inl rfl, climbs⟩
          · exact .inr ⟨.inr later, climbs⟩
        · rintro (old | ⟨rfl | later, climbs⟩)
          · exact .inl (.inl old)
          · exact .inl (.inr ⟨rfl, climbs⟩)
          · exact .inr ⟨later, climbs⟩
  exact (further _ _ .replicate_none).congr (by simp)

variable {frame : Frame α} {endpoint : Endpoint} {node : Node α} {habit : Habit}

namespace Habit

/-- The stubs that leave an end in one more direction. -/
def leaveIn
    (habit : Habit)
    (frame : Frame α)
    (id : NodeId)
    (reached : PerDirection (Option Stub) × Memory)
    (first : Direction) : Except Failure (PerDirection (Option Stub) × Memory) := do
  let (found, remembered) ← habit.ways frame (frame.limit + 1) id first reached.2
  return (improveStubs reached.1 first found, remembered)

/-- The stubs of a box that leave it in given directions, searched for in any habit. -/
def stubs
    (habit : Habit)
    (frame : Frame α)
    (id : NodeId)
    (exits : List Direction)
    (memory : Memory) : Except Failure (List Stub × Memory) := do
  let (best, remembered) ← exits.foldlM (habit.leaveIn frame id) (.replicate none, memory)
  return (best.toList.filterMap fun stub => stub, remembered)

/-- The stubs of an end are those that leave it in an allowed direction. -/
theorem stubs_usual
    (endpoint : Endpoint)
    {allowed : List Direction}
    (memory : Memory)
    (allows : frame.graph.allowedExits endpoint.node endpoint.edge = .ok allowed) :
    Climb.stubs frame endpoint memory = usual.stubs frame endpoint.node allowed memory := by
  rw [Climb.stubs, allows, ← ways_usual]
  rfl

/-- If each first direction finds what there is to be found, so do all of them. -/
theorem finds_exits
    {holds : Memory → Prop}
    (tree : frame.graph.IsTree)
    (maintains : habit.Maintains frame holds)
    {id : NodeId}
    {exits : List Direction}
    {found : Direction → Ways}
    {kept best : PerDirection (Option Stub)}
    {memory remembered : Memory}
    (isNode : frame.graph.get? id = some node)
    (explored : ∀ first, Explored frame.graph frame.top habit.sides node first (found first))
    (atStart : holds memory)
    (succeeded :
      exits.foldlM (habit.leaveIn frame id) (kept, memory) = .ok (best, remembered)) :
    best = exits.foldl (fun kept first => improveStubs kept first (found first)) kept ∧
      holds remembered := by
  induction exits generalizing kept memory with
  | nil =>
      cases succeeded
      exact ⟨rfl, atStart⟩
  | cons first rest inductionHypothesis =>
      rw [List.foldlM_cons, leaveIn] at succeeded
      obtain ⟨middle, left, succeeded⟩ := Attempt.bind_eq_ok_iff.mp succeeded
      obtain ⟨⟨ways, later⟩, searched, same⟩ := Attempt.bind_eq_ok_iff.mp left
      cases same
      obtain ⟨rfl, holdsLater⟩ :=
        finds_ways tree maintains isNode (explored first) atStart searched
      exact inductionHypothesis holdsLater succeeded

/-- A search for stubs finds what there is to be found, whatever it remembers rightly. -/
theorem finds_stubs
    {holds : Memory → Prop}
    (tree : frame.graph.IsTree)
    (maintains : habit.Maintains frame holds)
    {id : NodeId}
    {exits : List Direction}
    {found : Direction → Ways}
    {memory remembered : Memory}
    {stubs : List Stub}
    (isNode : frame.graph.get? id = some node)
    (explored : ∀ first, Explored frame.graph frame.top habit.sides node first (found first))
    (atStart : holds memory)
    (succeeded : habit.stubs frame id exits memory = .ok (stubs, remembered)) :
    stubs = (bestStubs exits found).toList.filterMap (fun stub => stub) ∧ holds remembered := by
  obtain ⟨⟨best, kept⟩, left, same⟩ := Attempt.bind_eq_ok_iff.mp succeeded
  cases same
  obtain ⟨rfl, holdsLater⟩ := finds_exits tree maintains isNode explored atStart left
  exact ⟨rfl, holdsLater⟩

/-- The stubs of an end can be found if as many turns are allowed as there are levels to climb. -/
theorem exists_stubs
    (habit : Habit)
    (tree : frame.graph.IsTree)
    {id : NodeId}
    (exits : List Direction)
    (memory : Memory)
    (isNode : frame.graph.get? id = some node)
    (deep : frame.top < node.depth)
    (enough : node.depth ≤ frame.top + (frame.limit + 1)) :
    ∃ result, habit.stubs frame id exits memory = .ok result := by
  obtain ⟨result, left, _⟩ :
      ∃ result,
        exits.foldlM (habit.leaveIn frame id) (.replicate none, memory) = .ok result ∧ True := by
    apply Attempt.exists_foldlM_eq_ok trivial
    intro first _ reached _
    obtain ⟨⟨found, remembered⟩, searched⟩ :=
      habit.exists_ways tree first reached.2 isNode deep enough
    exact ⟨_, Attempt.bind_eq_ok_iff.mpr ⟨_, searched, rfl⟩, trivial⟩
  exact ⟨_, Attempt.bind_eq_ok_iff.mpr ⟨result, left, rfl⟩⟩

end Habit

/-- What is known of the stubs of an end of a link. -/
structure AreStubs
    (graph : Graph α)
    (top : Nat)
    (node : Node α)
    (allowed : List Direction)
    (found : List Stub) : Prop where
  inOrder : (found.map (·.last)).Sublist Direction.all
  climbs :
    ∀ stub ∈ found, stub.first ∈ allowed ∧ graph.Climbs top node stub.first stub.last stub.roads
  shortest :
    ∀ first ∈ allowed, ∀ last roads, graph.Climbs top node first last roads →
      ∃ stub ∈ found, stub.last = last ∧ stub.roads.length ≤ roads.length

theorem mem_perDirection_toList_iff
    {β : Type}
    {values : PerDirection β}
    {value : β} :
    value ∈ values.toList ↔ ∃ direction, values.toward direction = value := by
  rw [PerDirection.toList, List.mem_map]
  constructor
  · rintro ⟨direction, _, same⟩
    exact ⟨direction, same⟩
  · rintro ⟨direction, same⟩
    exact ⟨direction, direction.mem_all, same⟩

/-- The shortest climbs for each final direction, listed in the order of these directions. -/
theorem areStubs_of_areLeastStubs
    {top : Nat}
    {allowed : List Direction}
    {best : PerDirection (Option Stub)}
    (least :
      AreLeastStubs best fun first last roads =>
        first ∈ allowed ∧ graph.Climbs top node first last roads) :
    AreStubs graph top node allowed (best.toList.filterMap fun stub => stub) where
  inOrder := by
    have lasts :
        (best.toList.filterMap fun stub => stub).map (·.last) =
          Direction.all.filterMap fun last => (best.toward last).map (·.last) := by
      rw [PerDirection.toList, List.filterMap_map, List.map_filterMap]
      rfl
    have same :
        (fun last => (best.toward last).map (·.last)) =
          Option.guard fun last => (best.toward last).isSome := by
      funext last
      cases isStub : best.toward last with
      | none =>
          simp [Option.guard, isStub]
      | some stub =>
          simp [Option.guard, isStub, (least.isOne isStub).1]
    rw [lasts, same, List.filterMap_eq_filter]
    exact List.filter_sublist
  climbs := by
    intro stub member
    obtain ⟨entry, entryMember, isStub⟩ := List.mem_filterMap.mp member
    obtain ⟨last, rfl⟩ := mem_perDirection_toList_iff.mp entryMember
    obtain ⟨rfl, isClimb⟩ := least.isOne isStub
    exact isClimb
  shortest := by
    intro first isAllowed last roads climbs
    obtain ⟨stub, isStub, shorter⟩ := least.isLeast ⟨isAllowed, climbs⟩
    refine ⟨stub, ?_, (least.isOne isStub).1, shorter⟩
    exact List.mem_filterMap.mpr
      ⟨some stub, mem_perDirection_toList_iff.mpr ⟨last, isStub⟩, rfl⟩

/-- The stubs of an end are shortest climbs in its allowed directions. -/
theorem areStubs_of_stubs
    (tree : frame.graph.IsTree)
    {allowed : List Direction}
    {memory remembered : Memory}
    {found : List Stub}
    (isNode : frame.graph.get? endpoint.node = some node)
    (deep : frame.top < node.depth)
    (allows : frame.graph.allowedExits endpoint.node endpoint.edge = .ok allowed)
    (isRight : memory.IsRight frame Habit.usual.sides)
    (succeeded : stubs frame endpoint memory = .ok (found, remembered)) :
    AreStubs frame.graph frame.top node allowed found ∧
      remembered.IsRight frame Habit.usual.sides := by
  rw [Habit.stubs_usual endpoint memory allows] at succeeded
  choose ways explored using exists_explored tree Habit.usual.sides isNode deep
  obtain ⟨rfl, rememberedRight⟩ :=
    Habit.finds_stubs tree (Habit.maintains_isRight _ frame) isNode explored isRight succeeded
  exact ⟨areStubs_of_areLeastStubs (.bestStubs fun first _ =>
    (explored first).areLeast Habit.isFair_usual), rememberedRight⟩

/-- The stubs of an end can be found if as many turns are allowed as there are levels to climb. -/
theorem exists_stubs
    (tree : frame.graph.IsTree)
    {allowed : List Direction}
    (memory : Memory)
    (isNode : frame.graph.get? endpoint.node = some node)
    (deep : frame.top < node.depth)
    (allows : frame.graph.allowedExits endpoint.node endpoint.edge = .ok allowed)
    (enough : node.depth ≤ frame.top + (frame.limit + 1)) :
    ∃ result, stubs frame endpoint memory = .ok result := by
  rw [Habit.stubs_usual endpoint memory allows]
  exact Habit.usual.exists_stubs tree allowed memory isNode deep enough

end Climb

end BoxDiagram
