import BoxDiagram.Proofs.Route.Walk
import BoxDiagram.Route.Stub

namespace BoxDiagram

/-!
# Climbs and the shortest of them

`Graph.Climbs` describes the ways from a box into a container above it without
saying how they are found: a way goes on to the last level if no sibling lies
ahead before it, and otherwise turns into the gap before the sibling and climbs
on sideways.  The search with its memory finds, for each final direction, a
shortest one of these ways, and finds none only where there is none.
-/

variable {α : Type} {graph : Graph α}

/-- In a tree every box has at least one level to the first gap in each direction. -/
theorem Graph.IsTree.boundary_pos
    (tree : graph.IsTree)
    {id : NodeId}
    {node : Node α}
    (found : graph.get? id = some node)
    (direction : Direction) :
    0 < node.boundary.toward direction := by
  rcases tree.parent_of_get? found with isTop | ⟨parent, _, holds⟩
  · simp [isTop.boundary_eq]
  · rw [holds.boundary_eq, childBoundary, PerDirection.toward_ofFunction]
    split
    · exact Nat.one_pos
    · split
      · exact Nat.one_pos
      · exact Nat.succ_pos _

/--
The roads of a way from a box into a container above it, by the depth of the
container, the direction in which the way leaves the box, and the one before its
last road.
-/
inductive Graph.Climbs (graph : Graph α) (top : Nat) :
    Node α → Direction → Direction → List Road → Prop where
  | arrive
      {node below container : Node α}
      {direction : Direction}
      {level : Nat}
      {road : Road}
      (meets : graph.MeetsRoad node direction level road below container)
      (arrives : node.depth = top + level + 1)
      (clear : level < node.boundary.toward direction) :
      Climbs graph top node direction direction [road]
  | turn
      {node below holder : Node α}
      {direction side last : Direction}
      {level : Nat}
      {road : Road}
      {rest : List Road}
      (meets : graph.MeetsRoad node direction level road below holder)
      (blocked : node.boundary.toward direction = level + 1)
      (inside : top + level + 1 < node.depth)
      (turns : side ∈ direction.perpendicular)
      (climbs : Climbs graph top holder side last rest) :
      Climbs graph top node direction last (road :: rest)

namespace Climb

/--
For each final direction, what was found is a shortest one of several lists of
roads, and something was found if there is one.
-/
structure Ways.AreLeast (found : Ways) (among : Direction → List Road → Prop) : Prop where
  isOne :
    ∀ {last before lastRoad}, found.toward last = some (before, lastRoad) →
      among last (before ++ [lastRoad])
  isLeast :
    ∀ {last roads}, among last roads →
      ∃ way, found.toward last = some way ∧ way.1.length < roads.length

namespace Ways.AreLeast

variable {found kept : Ways} {among amongKept : Direction → List Road → Prop}

theorem replicate_none :
    Ways.AreLeast (.replicate none) fun _ _ => False where
  isOne isFound := by
    simp at isFound
  isLeast impossible := impossible.elim

/-- What is least among some is least among the same ones. -/
theorem congr
    (least : found.AreLeast among)
    (same : ∀ last roads, among last roads ↔ amongKept last roads) :
    found.AreLeast amongKept where
  isOne isFound := (same _ _).mp (least.isOne isFound)
  isLeast isAmong := least.isLeast ((same _ _).mpr isAmong)

/-- A single way is the least one in its direction. -/
theorem single
    (direction : Direction)
    (road : Road) :
    Ways.AreLeast ((PerDirection.replicate none).set direction (some ([], road)))
      fun last roads => last = direction ∧ roads = [road] where
  isOne {last before lastRoad} isFound := by
    rw [PerDirection.toward_set] at isFound
    split at isFound
    · cases isFound
      exact ⟨‹_›, rfl⟩
    · simp at isFound
  isLeast {last roads} isAmong := by
    obtain ⟨rfl, rfl⟩ := isAmong
    exact ⟨([], road), by rw [PerDirection.toward_set, if_pos rfl], Nat.one_pos⟩

/-- The shorter one of two ways, one of which goes on after a road. -/
theorem improve
    (leastKept : kept.AreLeast amongKept)
    (least : found.AreLeast among)
    (road : Road) :
    (kept.improve (some road) found).AreLeast fun last roads =>
      amongKept last roads ∨ ∃ rest, roads = road :: rest ∧ among last rest where
  isOne {last before lastRoad} isFound := by
    rw [Ways.improve, PerDirection.toward_ofFunction] at isFound
    cases keptHere : kept.toward last with
    | none =>
        cases foundHere : found.toward last with
        | none =>
            simp [keptHere, foundHere, shorter] at isFound
        | some way =>
            simp only [keptHere, foundHere, shorter, Option.map_some, Climb.after,
              Option.some.injEq] at isFound
            cases isFound
            exact .inr ⟨way.1 ++ [way.2], rfl, least.isOne foundHere⟩
    | some old =>
        cases foundHere : found.toward last with
        | none =>
            simp only [keptHere, foundHere, shorter, Option.map_none, Option.some.injEq] at isFound
            subst isFound
            exact .inl (leastKept.isOne keptHere)
        | some way =>
            simp only [keptHere, foundHere, shorter, Option.map_some] at isFound
            split at isFound
            · cases isFound
              exact .inr ⟨way.1 ++ [way.2], rfl, least.isOne foundHere⟩
            · cases isFound
              exact .inl (leastKept.isOne keptHere)
  isLeast {last roads} isAmong := by
    rw [Ways.improve, PerDirection.toward_ofFunction]
    rcases isAmong with amongOld | ⟨rest, rfl, amongNew⟩
    · obtain ⟨old, keptHere, shorterOld⟩ := leastKept.isLeast amongOld
      rw [keptHere]
      cases found.toward last with
      | none =>
          exact ⟨old, rfl, shorterOld⟩
      | some way =>
          simp only [Option.map_some, shorter]
          split
          · exact ⟨_, rfl, by omega⟩
          · exact ⟨old, rfl, shorterOld⟩
    · obtain ⟨way, foundHere, shorterNew⟩ := least.isLeast amongNew
      rw [foundHere]
      have lengthAfter : (Climb.after (some road) way).1.length = way.1.length + 1 := by
        simp [Climb.after]
      cases kept.toward last with
      | none =>
          exact ⟨_, rfl, by simpa [lengthAfter] using shorterNew⟩
      | some old =>
          simp only [Option.map_some, shorter]
          split
          · exact ⟨_, rfl, by simpa [lengthAfter] using shorterNew⟩
          · refine ⟨old, rfl, ?_⟩
            simp only [List.length_cons]
            omega

end Ways.AreLeast

variable {id : NodeId} {node : Node α}

/-- The climbs of a box below the last level go on to it or turn into the gap before a sibling. -/
theorem exists_arrive_or_turn
    {top : Nat}
    (tree : graph.IsTree)
    (isNode : graph.get? id = some node)
    (deep : top < node.depth)
    (direction : Direction) :
    (∃ level road below container,
      graph.MeetsRoad node direction level road below container ∧
        node.depth = top + level + 1 ∧ level < node.boundary.toward direction) ∨
    (∃ level road below holder,
      graph.MeetsRoad node direction level road below holder ∧
        node.boundary.toward direction = level + 1 ∧ top + level + 1 < node.depth) := by
  have positive := tree.boundary_pos isNode direction
  by_cases clear : node.depth - top ≤ node.boundary.toward direction
  · obtain ⟨road, below, container, meets⟩ :=
      tree.exists_meetsRoad isNode direction
        (show node.depth - top - 1 < node.depth by omega)
    exact .inl ⟨_, road, below, container, meets, by omega, by omega⟩
  · obtain ⟨road, below, holder, meets⟩ :=
      tree.exists_meetsRoad isNode direction
        (show node.boundary.toward direction - 1 < node.depth by omega)
    exact .inr ⟨_, road, below, holder, meets, by omega, by omega⟩

/-- Where the road ahead is one of the top, the climb ends on it. -/
theorem climbs_iff_of_arrive
    {top level : Nat}
    {direction last : Direction}
    {road : Road}
    {roads : List Road}
    {below container : Node α}
    (meets : graph.MeetsRoad node direction level road below container)
    (arrives : node.depth = top + level + 1)
    (clear : level < node.boundary.toward direction) :
    graph.Climbs top node direction last roads ↔ last = direction ∧ roads = [road] := by
  constructor
  · intro climbs
    cases climbs with
    | @arrive _ _ _ _ otherLevel _ otherMeets otherArrives _ =>
        obtain rfl : otherLevel = level := by omega
        rw [meets.unique otherMeets]
        exact ⟨rfl, rfl⟩
    | turn otherMeets blocked inside turns rest =>
        omega
  · rintro ⟨rfl, rfl⟩
    exact .arrive meets arrives clear

/-- Where the way is blocked below the top, the climb goes on to either side. -/
theorem climbs_iff_of_turn
    {top level : Nat}
    {direction last : Direction}
    {road : Road}
    {roads : List Road}
    {below holder : Node α}
    (meets : graph.MeetsRoad node direction level road below holder)
    (blocked : node.boundary.toward direction = level + 1)
    (inside : top + level + 1 < node.depth) :
    graph.Climbs top node direction last roads ↔
      ∃ side ∈ direction.perpendicular, ∃ rest,
        roads = road :: rest ∧ graph.Climbs top holder side last rest := by
  constructor
  · intro climbs
    cases climbs with
    | arrive otherMeets arrives clear =>
        omega
    | @turn _ _ otherHolder _ side _ otherLevel _ rest otherMeets otherBlocked _ turns climbs =>
        obtain rfl : otherLevel = level := by omega
        rw [meets.unique otherMeets,
          meets.isOuter_container.unique otherMeets.isOuter_container]
        exact ⟨side, turns, rest, rfl, climbs⟩
  · rintro ⟨side, turns, rest, rfl, climbs⟩
    exact .turn meets blocked inside turns climbs

/-- A box below the last level can climb in every direction. -/
theorem exists_climbs
    {top : Nat}
    (tree : graph.IsTree)
    (isNode : graph.get? id = some node)
    (deep : top < node.depth)
    (direction : Direction) :
    ∃ last roads, graph.Climbs top node direction last roads := by
  induction levels : node.depth using Nat.strongRecOn generalizing id node direction with
  | _ depth inductionHypothesis =>
      rcases exists_arrive_or_turn tree isNode deep direction with
        ⟨level, road, below, container, meets, arrives, clear⟩ |
        ⟨level, road, below, holder, meets, blocked, inside⟩
      · exact ⟨direction, [road], .arrive meets arrives clear⟩
      · have depths := meets.isOuter_container.depth_eq
        obtain ⟨side, rest, perpendicular⟩ :
            ∃ side rest, direction.perpendicular = side :: rest := by
          cases direction <;> exact ⟨_, _, rfl⟩
        obtain ⟨last, roads, climbs⟩ :=
          inductionHypothesis holder.depth (by omega) meets.found (by omega) side rfl
        exact ⟨last, road :: roads,
          .turn meets blocked inside (by simp [perpendicular]) climbs⟩

/-- In which order a box that turns to two sides tries them. -/
abbrev Sides := NodeId → Direction → List Direction

/-- Each turn is tried to both sides and to no other. -/
def Sides.IsFair (sides : Sides) : Prop :=
  ∀ id direction, (sides id direction).Perm direction.perpendicular

/-- Fair sides are the perpendicular directions in some order. -/
theorem Sides.IsFair.mem_iff
    {sides : Sides}
    (fair : sides.IsFair)
    {id : NodeId}
    {direction side : Direction} :
    side ∈ sides id direction ↔ side ∈ direction.perpendicular :=
  (fair id direction).mem_iff

/-- The first shortest ways after several turns, each of which finds its own. -/
def Ways.ofTurns (road : Road) (sides : List Direction) (found : Direction → Ways) : Ways :=
  sides.foldl (fun kept side => kept.improve (some road) (found side)) (.replicate none)

/-- The ways after several turns are the shortest ones among those after each turn. -/
theorem Ways.AreLeast.ofTurns
    {sides : List Direction}
    {found : Direction → Ways}
    {among : Direction → Direction → List Road → Prop}
    (road : Road)
    (each : ∀ side ∈ sides, (found side).AreLeast (among side)) :
    (Ways.ofTurns road sides found).AreLeast fun last roads =>
      ∃ side ∈ sides, ∃ rest, roads = road :: rest ∧ among side last rest := by
  have further :
      ∀ (kept : Ways) (amongKept : Direction → List Road → Prop), kept.AreLeast amongKept →
        (sides.foldl (fun kept side => kept.improve (some road) (found side)) kept).AreLeast
          fun last roads => amongKept last roads ∨
            ∃ side ∈ sides, ∃ rest, roads = road :: rest ∧ among side last rest := by
    induction sides with
    | nil =>
        intro kept amongKept least
        exact least.congr (by simp)
    | cons side rest inductionHypothesis =>
        intro kept amongKept least
        have leastNext := least.improve (each side List.mem_cons_self) road
        refine (inductionHypothesis (fun other member => each other (List.mem_cons_of_mem _ member))
          _ _ leastNext).congr ?_
        intro last roads
        simp only [List.exists_mem_cons_iff]
        exact or_assoc
  exact (further _ _ .replicate_none).congr (by simp)

/--
What is found for a box and a direction when nothing is remembered: the way to the
last level, or the first shortest ones of those after each turn.
-/
inductive Explored (graph : Graph α) (top : Nat) (sides : Sides) :
    Node α → Direction → Ways → Prop where
  | arrive
      {node below container : Node α}
      {direction : Direction}
      {level : Nat}
      {road : Road}
      (meets : graph.MeetsRoad node direction level road below container)
      (arrives : node.depth = top + level + 1)
      (clear : level < node.boundary.toward direction) :
      Explored graph top sides node direction
        ((PerDirection.replicate none).set direction (some ([], road)))
  | turn
      {node below holder : Node α}
      {direction : Direction}
      {level : Nat}
      {road : Road}
      {found : Direction → Ways}
      (meets : graph.MeetsRoad node direction level road below holder)
      (blocked : node.boundary.toward direction = level + 1)
      (inside : top + level + 1 < node.depth)
      (each : ∀ side ∈ sides node.id direction, Explored graph top sides holder side (found side)) :
      Explored graph top sides node direction (.ofTurns road (sides node.id direction) found)

namespace Explored

variable {top : Nat} {sides : Sides} {direction : Direction} {found other : Ways}

/-- One thing only is found for a box and a direction. -/
theorem unique
    (explored : Explored graph top sides node direction found)
    (otherExplored : Explored graph top sides node direction other) :
    found = other := by
  induction explored generalizing other with
  | @arrive node _ _ direction level road meets arrives clear =>
      cases otherExplored with
      | @arrive _ _ _ _ otherLevel _ otherMeets otherArrives _ =>
          obtain rfl : otherLevel = level := by omega
          rw [meets.unique otherMeets]
      | turn otherMeets blocked inside _ =>
          omega
  | @turn node _ holder direction level road found meets blocked inside each
      inductionHypothesis =>
      cases otherExplored with
      | arrive otherMeets arrives clear =>
          omega
      | @turn _ _ _ _ otherLevel _ otherFound otherMeets otherBlocked _ otherEach =>
          obtain rfl : otherLevel = level := by omega
          rw [meets.isOuter_container.unique otherMeets.isOuter_container] at inductionHypothesis
          rw [meets.unique otherMeets, Ways.ofTurns, Ways.ofTurns]
          refine List.foldl_ext _ _ _ fun kept side member => ?_
          rw [inductionHypothesis side member (otherEach side member)]

/-- What is found are the shortest climbs. -/
theorem areLeast
    (fair : sides.IsFair)
    (explored : Explored graph top sides node direction found) :
    found.AreLeast (graph.Climbs top node direction) := by
  induction explored with
  | arrive meets arrives clear =>
      exact (Ways.AreLeast.single _ _).congr
        fun last roads => (climbs_iff_of_arrive meets arrives clear).symm
  | turn meets blocked inside each inductionHypothesis =>
      refine (Ways.AreLeast.ofTurns _ inductionHypothesis).congr fun last roads => ?_
      rw [climbs_iff_of_turn meets blocked inside]
      simp only [fair.mem_iff]

end Explored

/-- There is something to be found for every box below the last level. -/
theorem exists_explored
    {top : Nat}
    (tree : graph.IsTree)
    (sides : Sides)
    (isNode : graph.get? id = some node)
    (deep : top < node.depth)
    (direction : Direction) :
    ∃ found, Explored graph top sides node direction found := by
  induction levels : node.depth using Nat.strongRecOn generalizing id node direction with
  | _ depth inductionHypothesis =>
      rcases exists_arrive_or_turn tree isNode deep direction with
        ⟨level, road, below, container, meets, arrives, clear⟩ |
        ⟨level, road, below, holder, meets, blocked, inside⟩
      · exact ⟨_, .arrive meets arrives clear⟩
      · have depths := meets.isOuter_container.depth_eq
        have explored (side : Direction) : ∃ found, Explored graph top sides holder side found :=
          inductionHypothesis holder.depth (by omega) meets.found (by omega) side rfl
        choose found each using explored
        exact ⟨_, .turn meets blocked inside fun side _ => each side⟩

end Climb

end BoxDiagram
