import BoxDiagram.Proofs.Graph.Closed
import BoxDiagram.Proofs.Route.Stub
import BoxDiagram.Route.Topological

namespace BoxDiagram

/-!
# What can be said of ways in any graph

Whatever the boxes of a graph say about each other, the roads of a way lie next to boxes.
Where chains of ancestors agree, a way has at most one road for each level that it climbs.
What is remembered keeps this, and so do the stubs and their joins.
-/

variable {α : Type}

/-- The road lies next to some box of the graph. -/
def Graph.IsAdjacent (graph : Graph α) (road : Road) : Prop :=
  ∃ id direction, graph.adjacentRoad id direction = .ok (some road)

namespace Climb

variable {frame : Frame α} {levels more : Nat}

/-- The roads of a way lie next to boxes, and if chains agree they are no more than levels. -/
structure IsShort (frame : Frame α) (levels : Nat) (way : Way) : Prop where
  isAdjacent : ∀ road ∈ way.1 ++ [way.2], frame.graph.IsAdjacent road
  length_lt : frame.graph.ChainsAgree → way.1.length < levels

/-- The ways for all final directions are short. -/
def Ways.AreShort (frame : Frame α) (levels : Nat) (found : Ways) : Prop :=
  ∀ ⦃last : Direction⦄ ⦃way : Way⦄, found.toward last = some way → IsShort frame levels way

/-- What is remembered of a box is short for the levels above the box. -/
def Memory.IsShort (frame : Frame α) (memory : Memory) : Prop :=
  ∀ ⦃id : NodeId⦄ ⦃direction : Direction⦄ ⦃found : Ways⦄,
    memory.lookup (id, direction) = some found →
      ∀ ⦃node : Node α⦄, frame.graph.get? id = some node →
        found.AreShort frame (node.depth - frame.top)

/-- The shorter of two ways is one of them. -/
theorem eq_or_eq_of_shorter
    {kept found : Option Way}
    {way : Way}
    (isShorter : shorter kept found = some way) :
    kept = some way ∨ found = some way := by
  cases kept with
  | none =>
      exact .inr isShorter
  | some old =>
      cases found with
      | none =>
          exact .inl isShorter
      | some new =>
          rw [shorter] at isShorter
          split at isShorter
          · exact .inr isShorter
          · exact .inl isShorter

/-- A way is short behind a road that is next to a box. -/
theorem IsShort.after
    {way : Way}
    {head : Option Road}
    (isShort : IsShort frame levels way)
    (headAdjacent : ∀ road ∈ head, frame.graph.IsAdjacent road)
    (enough : frame.graph.ChainsAgree → levels + head.toList.length ≤ more) :
    IsShort frame more (Climb.after head way) where
  isAdjacent := by
    rw [Climb.after, List.append_assoc, List.forall_mem_append]
    exact ⟨fun road member => headAdjacent road (Option.mem_toList.mp member), isShort.isAdjacent⟩
  length_lt agree := by
    have before := isShort.length_lt agree
    have all := enough agree
    rw [Climb.after, List.length_append]
    omega

/-- Where nothing was found, nothing is long. -/
theorem Ways.areShort_none :
    Ways.AreShort frame levels (.replicate none) := by
  intro last way isNone
  rw [PerDirection.toward_replicate] at isNone
  cases isNone

/-- A single road to the last level is short. -/
theorem Ways.areShort_single
    {road : Road}
    (isAdjacent : frame.graph.IsAdjacent road)
    (isAbove : frame.graph.ChainsAgree → 0 < levels)
    (direction : Direction) :
    Ways.AreShort frame levels ((PerDirection.replicate none).set direction (some ([], road))) := by
  intro last way isFound
  rw [PerDirection.toward_set] at isFound
  split at isFound
  · cases isFound
    exact ⟨List.forall_mem_singleton.mpr isAdjacent, isAbove⟩
  · exact areShort_none isFound

/-- The better ones of short ways are short, as those found after a road are. -/
theorem Ways.AreShort.improve
    {kept found : Ways}
    {head : Option Road}
    (keptShort : kept.AreShort frame more)
    (foundShort : found.AreShort frame levels)
    (headAdjacent : ∀ road ∈ head, frame.graph.IsAdjacent road)
    (enough : frame.graph.ChainsAgree → levels + head.toList.length ≤ more) :
    (kept.improve head found).AreShort frame more := by
  intro last way isFound
  rw [Ways.improve, PerDirection.toward_ofFunction] at isFound
  rcases eq_or_eq_of_shorter isFound with isKept | isNew
  · exact keptShort isKept
  · obtain ⟨rest, isRest, rfl⟩ := Option.map_eq_some_iff.mp isNew
    exact (foundShort isRest).after headAdjacent enough

theorem Memory.isShort_nil :
    Memory.IsShort frame [] := by
  intro id direction found impossible
  cases impossible

/-- A memory stays short with ways that are. -/
theorem Memory.IsShort.cons
    {memory : Memory}
    {id : NodeId}
    {node : Node α}
    {found : Ways}
    (isShort : memory.IsShort frame)
    (isNode : frame.graph.get? id = some node)
    (foundShort : found.AreShort frame (node.depth - frame.top))
    (direction : Direction) :
    Memory.IsShort frame (((id, direction), found) :: memory) := by
  intro otherId otherDirection other remembered otherNode isOther
  rw [List.lookup_cons] at remembered
  split at remembered
  · rename_i same
    obtain ⟨rfl, rfl⟩ : otherId = id ∧ otherDirection = direction := by simpa using same
    obtain rfl := Option.some.inj remembered
    obtain rfl := Option.some.inj (isNode.symm.trans isOther)
    exact foundShort
  · exact isShort remembered isOther

/-- The stubs for all final directions are short. -/
def AreShortStubs (frame : Frame α) (levels : Nat) (best : PerDirection (Option Stub)) : Prop :=
  ∀ ⦃last : Direction⦄ ⦃stub : Stub⦄,
    best.toward last = some stub → IsShort frame levels (stub.before, stub.lastRoad)

theorem areShortStubs_none :
    AreShortStubs frame levels (.replicate none) := by
  intro last stub isNone
  rw [PerDirection.toward_replicate] at isNone
  cases isNone

/-- Stubs of short ways are short. -/
theorem AreShortStubs.improve
    {kept : PerDirection (Option Stub)}
    {found : Ways}
    (keptShort : AreShortStubs frame levels kept)
    (foundShort : found.AreShort frame levels)
    (first : Direction) :
    AreShortStubs frame levels (improveStubs kept first found) := by
  intro last stub isStub
  rw [improveStubs, PerDirection.toward_ofFunction] at isStub
  cases keptHere : kept.toward last with
  | none =>
      cases foundHere : found.toward last with
      | none =>
          simp [keptHere, foundHere] at isStub
      | some way =>
          simp only [keptHere, foundHere, Option.some.injEq] at isStub
          subst isStub
          exact foundShort foundHere
  | some old =>
      cases foundHere : found.toward last with
      | none =>
          simp only [keptHere, foundHere, Option.some.injEq] at isStub
          subst isStub
          exact keptShort keptHere
      | some way =>
          simp only [keptHere, foundHere] at isStub
          split at isStub
          · cases isStub
            exact foundShort foundHere
          · cases isStub
            exact keptShort keptHere

/-- Each of several short stubs is short. -/
theorem AreShortStubs.of_mem
    {best : PerDirection (Option Stub)}
    {stub : Stub}
    (areShort : AreShortStubs frame levels best)
    (member : stub ∈ best.toList.filterMap id) :
    IsShort frame levels (stub.before, stub.lastRoad) := by
  obtain ⟨entry, isEntry, isStub⟩ := List.mem_filterMap.mp member
  obtain ⟨last, rfl⟩ := mem_perDirection_toList_iff.mp isEntry
  exact areShort isStub

end Climb

namespace Topological

variable {graph : Graph α} {branches : Branches} {first last : Stub} {join : Join}

/--
Between the first roads of its stubs a join has their last roads, and at most one more, which
connects them.  Its penalty is largest where it has.
-/
theorem exists_middle_of_join?
    (joined : join? graph branches first last = .ok (some join)) :
    ∃ middle : List Road,
      join.roads = first.before ++ middle ++ last.before.reverse ∧ middle.length ≤ 3 ∧
        (∀ road ∈ middle,
          road = first.lastRoad ∨ road = last.lastRoad ∨
            connector graph branches first.lastRoad = .ok road) ∧
          join.penalty ≤ 6 + distance first.lastRoad.avenue last.lastRoad.avenue := by
  rw [join?] at joined
  dsimp only at joined
  split at joined
  · cases joined
  split at joined
  · cases joined
    refine ⟨[first.lastRoad], rfl, by simp, by simp, ?_⟩
    dsimp only
    split <;> omega
  split at joined
  · cases joined
    refine ⟨[first.lastRoad, last.lastRoad], by simp [Stub.roads], by simp, by simp, ?_⟩
    dsimp only
    omega
  · obtain ⟨between, isBetween, same⟩ := Attempt.bind_eq_ok_iff.mp joined
    cases same
    exact ⟨[first.lastRoad, between, last.lastRoad], by simp [Stub.roads], by simp,
      by simp [isBetween], Nat.le_refl _⟩

end Topological

end BoxDiagram
