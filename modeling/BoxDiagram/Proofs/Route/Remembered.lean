import BoxDiagram.Proofs.Route.Climb

namespace BoxDiagram

/-!
# Climbs with a memory

A search for climbs may remember what it found for boxes and directions, and it
may turn to the two sides in either order.  As long as what is remembered was found
in the same order, remembering does not change what is found; and in whatever order
the sides are tried, shortest climbs are found.
-/

variable {α : Type}

namespace Climb

variable {frame : Frame α} {id : NodeId} {node : Node α}

/-- An ancestor is the box at its level outward. -/
theorem ancestor_eq
    {outer : Node α}
    {level : Nat}
    (tree : frame.graph.IsTree)
    (found : frame.graph.get? id = some node)
    (isOuter : frame.graph.IsOuter node level outer) :
    ancestor frame id level = .ok outer.id := by
  rw [ancestor, tree.ancestorAt_of_isOuter found isOuter]
  rfl

/-- The road at a level is the one that is met there. -/
theorem roadAt_eq
    {below container : Node α}
    {direction : Direction}
    {level : Nat}
    {road : Road}
    (tree : frame.graph.IsTree)
    (found : frame.graph.get? id = some node)
    (meets : frame.graph.MeetsRoad node direction level road below container) :
    roadAt frame id (level + 1) direction = .ok road := by
  rw [roadAt, if_neg (Nat.succ_ne_zero level), Nat.add_sub_cancel,
    ancestor_eq tree found meets.isOuter]
  simp only [Attempt.ok_bind,
    tree.adjacentRoad_eq meets.isOuter.found meets.found meets.holds, ← meets.road_eq]
  rfl

/-- How climbs are searched for: in which order sides are tried, and what is remembered. -/
structure Habit where
  sides : Sides
  remembers : NodeId → Direction → Bool

namespace Habit

/-- The order of directions, with everything remembered. -/
def usual : Habit where
  sides _ direction := direction.perpendicular
  remembers _ _ := true

/-- The same order, with nothing remembered. -/
def forgetful (habit : Habit) : Habit :=
  { habit with remembers := fun _ _ => false }

/-- The usual sides are fair. -/
theorem isFair_usual : usual.sides.IsFair :=
  fun _ _ => .refl _

/-- What is remembered after ways were found. -/
def keep
    (habit : Habit)
    (id : NodeId)
    (direction : Direction)
    (found : Ways)
    (memory : Memory) : Memory :=
  if habit.remembers id direction then ((id, direction), found) :: memory else memory

/-- The shortest ways from a box that start in a direction, searched for in any habit. -/
def ways
    (habit : Habit)
    (frame : Frame α) :
    Nat → NodeId → Direction → Memory → Except Failure (Ways × Memory)
  | 0, id, _, _ => tooManyTurns frame id
  | turns + 1, id, direction, memory => do
      match memory.lookup (id, direction) with
      | some found => return (found, memory)
      | none =>
          let node ← Failure.ofGraph (frame.graph.find id)
          let budget := node.boundary.toward direction
          if node.depth < frame.top then throw (.fault (.aboveRoot id))
          let remaining := node.depth - frame.top
          if remaining ≤ budget then
            let road ← roadAt frame id remaining direction
            let found : Ways := (PerDirection.replicate none).set direction (some ([], road))
            return (found, habit.keep id direction found memory)
          else
            let head ← if 1 ≤ budget then some <$> roadAt frame id budget direction else pure none
            let holder ← ancestor frame id budget
            let turn (reached : Ways × Memory) (side : Direction) :
                Except Failure (Ways × Memory) := do
              let (found, remembered) ← habit.ways frame turns holder side reached.2
              return (reached.1.improve head found, remembered)
            let (found, remembered) ←
              (habit.sides id direction).foldlM turn (PerDirection.replicate none, memory)
            return (found, habit.keep id direction found remembered)

/-- The search for ways has the usual habit. -/
theorem ways_usual
    (turns : Nat) :
    usual.ways frame turns = Climb.ways frame turns := by
  induction turns with
  | zero =>
      funext id direction memory
      rfl
  | succ turns inductionHypothesis =>
      funext id direction memory
      rw [ways, Climb.ways, inductionHypothesis]
      rfl

variable {habit : Habit}

/-- The ways from the holder of a road in one more direction, each after the road. -/
def turnInto
    (habit : Habit)
    (frame : Frame α)
    (turns : Nat)
    (road : Road)
    (holder : NodeId)
    (reached : Ways × Memory)
    (side : Direction) : Except Failure (Ways × Memory) := do
  let (found, remembered) ← habit.ways frame turns holder side reached.2
  return (reached.1.improve (some road) found, remembered)

/-- What is remembered is not explored again. -/
theorem ways_remembered
    {turns : Nat}
    {direction : Direction}
    {memory : Memory}
    {found : Ways}
    (remembered : memory.lookup (id, direction) = some found) :
    habit.ways frame (turns + 1) id direction memory = .ok (found, memory) := by
  rw [ways, remembered]
  rfl

/-- A climb that meets no sibling before the last level goes on to it. -/
theorem ways_arrive
    {turns level : Nat}
    {direction : Direction}
    {memory : Memory}
    {road : Road}
    {below container : Node α}
    (tree : frame.graph.IsTree)
    (isNode : frame.graph.get? id = some node)
    (forgotten : memory.lookup (id, direction) = none)
    (meets : frame.graph.MeetsRoad node direction level road below container)
    (arrives : node.depth = frame.top + level + 1)
    (clear : level < node.boundary.toward direction) :
    habit.ways frame (turns + 1) id direction memory =
      .ok ((PerDirection.replicate none).set direction (some ([], road)),
        habit.keep id direction ((PerDirection.replicate none).set direction (some ([], road)))
          memory) := by
  have notBelow : ¬ node.depth < frame.top := by omega
  have remaining : node.depth - frame.top = level + 1 := by omega
  rw [ways, forgotten]
  simp only [Graph.find_eq_ok_iff.mpr isNode, Failure.ofGraph, Except.mapError,
    Attempt.ok_bind, if_neg notBelow, remaining, if_pos (Nat.succ_le_of_lt clear), pure_bind]
  rw [roadAt_eq tree isNode meets]
  rfl

/-- A climb that meets a sibling earlier turns into the gap before it. -/
theorem ways_turn
    {turns level : Nat}
    {direction : Direction}
    {memory : Memory}
    {road : Road}
    {below holder : Node α}
    (tree : frame.graph.IsTree)
    (isNode : frame.graph.get? id = some node)
    (forgotten : memory.lookup (id, direction) = none)
    (meets : frame.graph.MeetsRoad node direction level road below holder)
    (blocked : node.boundary.toward direction = level + 1)
    (inside : frame.top + level + 1 < node.depth) :
    habit.ways frame (turns + 1) id direction memory =
      (habit.sides id direction).foldlM (habit.turnInto frame turns road holder.id)
          (.replicate none, memory) >>= fun (found, remembered) =>
        .ok (found, habit.keep id direction found remembered) := by
  have notBelow : ¬ node.depth < frame.top := by omega
  have remaining : ¬ node.depth - frame.top ≤ level + 1 := by omega
  rw [ways, forgotten]
  simp only [Graph.find_eq_ok_iff.mpr isNode, Failure.ofGraph, Except.mapError,
    Attempt.ok_bind, if_neg notBelow, blocked, if_neg remaining,
    if_pos (Nat.le_add_left 1 level), pure_bind]
  rw [roadAt_eq tree isNode meets, ancestor_eq tree isNode meets.isOuter_container]
  rfl

end Habit

/-- What is remembered for a box and a direction is what would be found without a memory. -/
def Memory.IsRight (frame : Frame α) (sides : Sides) (memory : Memory) : Prop :=
  ∀ ⦃id : NodeId⦄ ⦃direction : Direction⦄ ⦃found : Ways⦄,
    memory.lookup (id, direction) = some found →
      ∀ ⦃node : Node α⦄, frame.graph.get? id = some node →
        Explored frame.graph frame.top sides node direction found

theorem Memory.isRight_nil
    {sides : Sides} :
    Memory.IsRight frame sides [] := by
  intro id direction found impossible
  cases impossible

variable {habit : Habit}

/-- A memory stays right with ways that were explored. -/
theorem Memory.IsRight.keep
    {memory : Memory}
    {direction : Direction}
    {found : Ways}
    (isRight : memory.IsRight frame habit.sides)
    (isNode : frame.graph.get? id = some node)
    (explored : Explored frame.graph frame.top habit.sides node direction found) :
    Memory.IsRight frame habit.sides (habit.keep id direction found memory) := by
  rw [Habit.keep]
  split
  · intro otherId otherDirection other remembered otherNode isOther
    rw [List.lookup_cons] at remembered
    split at remembered
    · rename_i same
      obtain ⟨rfl, rfl⟩ : otherId = id ∧ otherDirection = direction := by simpa using same
      obtain rfl := Option.some.inj remembered
      obtain rfl := Option.some.inj (isNode.symm.trans isOther)
      exact explored
    · exact isRight remembered isOther
  · exact isRight

/--
A property of memories in which only right things are remembered, and which outlasts
what a habit adds to the memory.
-/
structure Habit.Maintains
    (habit : Habit)
    (frame : Frame α)
    (holds : Memory → Prop) : Prop where
  isRight : ∀ {memory}, holds memory → memory.IsRight frame habit.sides
  keep :
    ∀ {memory id direction found node}, holds memory →
      frame.graph.get? id = some node →
        Explored frame.graph frame.top habit.sides node direction found →
          holds (habit.keep id direction found memory)

namespace Habit

/-- Each habit keeps its memory right. -/
theorem maintains_isRight
    (habit : Habit)
    (frame : Frame α) :
    habit.Maintains frame (Memory.IsRight frame habit.sides) where
  isRight isRight := isRight
  keep isRight isNode explored := isRight.keep isNode explored

/-- Who forgets has nothing to remember. -/
theorem forgetful_maintains_nil
    (habit : Habit)
    (frame : Frame α) :
    habit.forgetful.Maintains frame (· = []) where
  isRight isNil := by
    subst isNil
    exact Memory.isRight_nil
  keep isNil _ _ := isNil

variable {holds : Memory → Prop}

/-- If each turn finds what it finds without a memory, so do all of them. -/
theorem finds_turns
    {turns : Nat}
    {road : Road}
    {holder : NodeId}
    {sides : List Direction}
    {found : Direction → Ways}
    (each :
      ∀ side ∈ sides, ∀ memory ways remembered, holds memory →
        habit.ways frame turns holder side memory = .ok (ways, remembered) →
          ways = found side ∧ holds remembered)
    {kept final : Ways}
    {memory remembered : Memory}
    (atStart : holds memory)
    (succeeded :
      sides.foldlM (habit.turnInto frame turns road holder) (kept, memory) =
        .ok (final, remembered)) :
    final = sides.foldl (fun kept side => kept.improve (some road) (found side)) kept ∧
      holds remembered := by
  induction sides generalizing kept memory with
  | nil =>
      cases succeeded
      exact ⟨rfl, atStart⟩
  | cons side rest inductionHypothesis =>
      rw [List.foldlM_cons, turnInto] at succeeded
      obtain ⟨middle, turned, succeeded⟩ := Attempt.bind_eq_ok_iff.mp succeeded
      obtain ⟨⟨ways, later⟩, searched, same⟩ := Attempt.bind_eq_ok_iff.mp turned
      cases same
      obtain ⟨rfl, holdsLater⟩ := each side List.mem_cons_self _ _ _ atStart searched
      exact inductionHypothesis (fun other member => each other (List.mem_cons_of_mem _ member))
        holdsLater succeeded

/-- A search finds what there is to be found, whatever it remembers rightly. -/
theorem finds_ways
    (tree : frame.graph.IsTree)
    (maintains : habit.Maintains frame holds)
    {turns : Nat}
    {direction : Direction}
    {memory remembered : Memory}
    {found final : Ways}
    (isNode : frame.graph.get? id = some node)
    (explored : Explored frame.graph frame.top habit.sides node direction found)
    (atStart : holds memory)
    (succeeded : habit.ways frame turns id direction memory = .ok (final, remembered)) :
    final = found ∧ holds remembered := by
  induction turns generalizing id node direction memory remembered found final with
  | zero =>
      obtain ⟨name, _, failed⟩ := Attempt.bind_eq_ok_iff.mp succeeded
      cases failed
  | succ turns inductionHypothesis =>
      cases known : memory.lookup (id, direction) with
      | some earlier =>
          rw [ways_remembered known] at succeeded
          cases succeeded
          exact ⟨(maintains.isRight atStart known isNode).unique explored, atStart⟩
      | none =>
          cases explored with
          | arrive meets arrives clear =>
              rw [ways_arrive tree isNode known meets arrives clear] at succeeded
              cases succeeded
              exact ⟨rfl, maintains.keep atStart isNode (.arrive meets arrives clear)⟩
          | @turn _ _ holder _ _ road found meets blocked inside each =>
              obtain rfl := tree.id_of_get? isNode
              rw [ways_turn tree isNode known meets blocked inside] at succeeded
              obtain ⟨⟨ways, later⟩, turned, same⟩ := Attempt.bind_eq_ok_iff.mp succeeded
              cases same
              obtain ⟨rfl, holdsLater⟩ :=
                finds_turns
                  (fun side member _ _ _ holdsNow searched =>
                    inductionHypothesis meets.found (each side member) holdsNow searched)
                  atStart turned
              exact ⟨rfl, maintains.keep holdsLater isNode (.turn meets blocked inside each)⟩

/-- A search with at least as many turns as levels left always ends. -/
theorem exists_ways
    (habit : Habit)
    (tree : frame.graph.IsTree)
    {turns : Nat}
    (direction : Direction)
    (memory : Memory)
    (isNode : frame.graph.get? id = some node)
    (deep : frame.top < node.depth)
    (enough : node.depth ≤ frame.top + turns) :
    ∃ result, habit.ways frame turns id direction memory = .ok result := by
  induction turns generalizing id node direction memory with
  | zero =>
      omega
  | succ turns inductionHypothesis =>
      cases known : memory.lookup (id, direction) with
      | some earlier =>
          exact ⟨_, ways_remembered known⟩
      | none =>
          rcases exists_arrive_or_turn tree isNode deep direction with
            ⟨level, road, below, container, meets, arrives, clear⟩ |
            ⟨level, road, below, holder, meets, blocked, inside⟩
          · exact ⟨_, ways_arrive tree isNode known meets arrives clear⟩
          · have depths := meets.isOuter_container.depth_eq
            have advances :
                ∀ side ∈ habit.sides id direction, ∀ reached : Ways × Memory, True →
                  ∃ result,
                    habit.turnInto frame turns road holder.id reached side = .ok result ∧
                      True := by
              intro side _ reached _
              obtain ⟨⟨found, remembered⟩, searched⟩ :=
                inductionHypothesis side reached.2 meets.found (by omega) (by omega)
              exact ⟨_, Attempt.bind_eq_ok_iff.mpr ⟨_, searched, rfl⟩, trivial⟩
            obtain ⟨result, turned, _⟩ :
                ∃ result,
                  (habit.sides id direction).foldlM
                      (habit.turnInto frame turns road holder.id)
                      (.replicate none, memory) = .ok result ∧ True :=
              Attempt.exists_foldlM_eq_ok trivial advances
            rw [ways_turn tree isNode known meets blocked inside]
            exact ⟨_, Attempt.bind_eq_ok_iff.mpr ⟨result, turned, rfl⟩⟩

end Habit

end Climb

end BoxDiagram
