import BoxDiagram.Proofs.Number.Exact
import BoxDiagram.Proofs.Route.Goals
import BoxDiagram.Proofs.Route.Planner

namespace BoxDiagram

/-!
# Searches that arrive at once

A search looks first at the walk whose length and remaining distance to the target are least.
If among the walks that it starts with this one already ends on a road onto which the target
leaves, the route is this road alone, whatever could be found on longer walks.
-/

namespace Scalar

variable {β : Type} {key : β → Rat} {value head : β} {values : List β}

/-- A value with a lesser key than all others of a list comes first. -/
theorem insertBy_of_lt
    (least : ∀ other ∈ values, key value < key other) :
    insertBy key value values = value :: values := by
  cases values with
  | nil =>
      rfl
  | cons head rest =>
      rw [insertBy, if_pos (rank_eq_lt_rat.mpr (least head List.mem_cons_self))]

/-- What is not less than the first stays behind it. -/
theorem insertBy_of_le
    (least : key head ≤ key value) :
    insertBy key value (head :: values) = head :: insertBy key value values := by
  rw [insertBy, if_neg (mt rank_eq_lt_rat.mp least.not_gt)]

end Scalar

namespace Search

variable {task : Task Rat} {progress : Progress Rat} {walk other : Walk Rat}

/-- The length of a walk together with the distance that remains to the target. -/
def Task.estimate (task : Task Rat) (walk : Walk Rat) : Rat :=
  walk.length + walk.point.manhattan task.target

/-- A walk is the first one of a search that waits. -/
def Leads (task : Task Rat) (walk : Walk Rat) (progress : Progress Rat) : Prop :=
  ∃ index rest, progress.walks[index]? = some walk ∧
    progress.queue = ⟨task.estimate walk, index⟩ :: rest

/-- A walk that was not offered yet will come before all walks of a search that wait. -/
structure IsAwaited (task : Task Rat) (walk : Walk Rat) (progress : Progress Rat) : Prop where
  later : ∀ entry ∈ progress.queue, task.estimate walk < entry.estimate
  unknown : (progress.best.get? walk.road).join = none

/-- The first walk that waits stays the first one when others come that promise no more. -/
theorem Leads.offer
    (leads : Leads task walk progress)
    (least : task.estimate walk ≤ task.estimate other) :
    Leads task walk (task.offer progress other) := by
  obtain ⟨index, rest, isWalk, isQueue⟩ := leads
  rcases offer_eq_or_keep task progress other with passedOver | kept
  · rw [passedOver]
    exact ⟨index, rest, isWalk, isQueue⟩
  · rw [kept]
    exact ⟨index, _, getElem?_push_of_some isWalk other,
      by rw [isQueue]; exact Scalar.insertBy_of_le least⟩

/-- A walk stays in the lead while others are offered. -/
theorem Leads.offer_all
    {offered : List (Walk Rat)}
    (leads : Leads task walk progress)
    (least : ∀ other ∈ offered, task.estimate walk ≤ task.estimate other) :
    Leads task walk (offered.foldl task.offer progress) := by
  induction offered generalizing progress with
  | nil =>
      exact leads
  | cons other rest inductionHypothesis =>
      obtain ⟨leastOther, leastRest⟩ := List.forall_mem_cons.mp least
      exact inductionHypothesis (leads.offer leastOther) leastRest

theorem IsAwaited.offer
    (awaited : IsAwaited task walk progress)
    (differ : other.road ≠ walk.road)
    (later : task.estimate walk < task.estimate other) :
    IsAwaited task walk (task.offer progress other) := by
  rcases offer_eq_or_keep task progress other with passedOver | kept
  · rw [passedOver]
    exact awaited
  · rw [kept]
    constructor
    · intro entry member
      rcases Scalar.mem_insertBy_iff.mp member with rfl | isOld
      · exact later
      · exact awaited.later entry isOld
    · rw [RoadMap.get?_set, if_neg differ]
      exact awaited.unknown

/-- A walk that is awaited leads once it is offered. -/
theorem IsAwaited.leads
    (awaited : IsAwaited task walk progress) :
    Leads task walk (task.offer progress walk) := by
  rw [Task.offer, awaited.unknown]
  exact ⟨progress.walks.size, progress.queue, Array.getElem?_push_size,
    Scalar.insertBy_of_lt awaited.later⟩

/-- Of several walks to different roads the one that promises most comes to wait first. -/
theorem leads_of_offered
    {offered : List (Walk Rat)}
    (awaited : IsAwaited task walk progress)
    (member : walk ∈ offered)
    (least :
      ∀ other ∈ offered,
        other = walk ∨ other.road ≠ walk.road ∧ task.estimate walk < task.estimate other) :
    Leads task walk (offered.foldl task.offer progress) := by
  induction offered generalizing progress with
  | nil =>
      cases member
  | cons other rest inductionHypothesis =>
      obtain ⟨leastOther, leastRest⟩ := List.forall_mem_cons.mp least
      rw [List.foldl_cons]
      by_cases same : other = walk
      · subst same
        refine awaited.leads.offer_all fun later isLater => ?_
        rcases leastRest later isLater with rfl | ⟨_, less⟩
        · exact le_rfl
        · exact less.le
      · obtain ⟨differ, less⟩ := leastOther.resolve_left same
        exact inductionHypothesis (awaited.offer differ less)
          ((List.mem_cons.mp member).resolve_left (Ne.symm same)) leastRest

/-- Of the walks that leave the source of a search the one that promises most comes first. -/
theorem leads_of_start
    {source target common : Node Rat}
    {climb descent : Nat}
    {first : Direction}
    {road : Road}
    (sound : task.IsSound source target common climb descent)
    (started : task.start = .ok progress)
    (leaves : task.graph.LeavesOnto task.ends.common task.ends.source first road)
    (isWalk : task.firstWalk first road = .ok walk)
    (isRoad : walk.road = road)
    (least :
      ∀ {direction : Direction} {beside : Road} {other : Walk Rat},
        task.graph.LeavesOnto task.ends.common task.ends.source direction beside →
          task.firstWalk direction beside = .ok other →
            other = walk ∨ other.road ≠ walk.road ∧ task.estimate walk < task.estimate other) :
    Leads task walk progress := by
  have hasRoad : task.graph.HasRoad walk.road := isRoad ▸ (sound.passable_of_leavesOnto leaves).1
  obtain ⟨walks, rfl, mem_walks_iff⟩ := exists_walks_of_start sound started
  apply leads_of_offered
  case awaited =>
    refine ⟨fun _ impossible => by (cases impossible), ?_⟩
    rw [RoadMap.get?_ofGraph hasRoad]
    rfl
  case member =>
    exact (mem_walks_iff walk).mpr ⟨first, road, leaves, isWalk⟩
  case least =>
    intro other member
    obtain ⟨direction, beside, leavesOther, isOther⟩ := (mem_walks_iff other).mp member
    exact least leavesOther isOther

/-- A search arrives at once if the walk that waits first ends on a goal. -/
theorem run_of_leads
    {exit : Direction}
    (started : task.start = .ok progress)
    (leads : Leads task walk progress)
    (isFirst : walk.parent = none)
    (isGoal : task.goals.get? walk.road = some (some exit)) :
    task.run = .ok (some (task.ends.route walk.first exit [walk.road])) := by
  obtain ⟨index, rest, isWalk, isQueue⟩ := leads
  have inside : index < progress.walks.size := (Array.getElem?_eq_some_iff.mp isWalk).1
  have turned : task.turn? progress progress.queue = some (.arrived index walk exit) := by
    rw [isQueue, Task.turn?]
    simp only [isWalk, isGoal, Option.join_some]
  have isBack : Task.roadsBack progress.walks progress.walks.size (some index) = [walk.road] := by
    obtain ⟨count, isSize⟩ := Nat.exists_eq_succ_of_ne_zero (Nat.ne_zero_of_lt inside)
    rw [isSize, Task.roadsBack]
    simp only [isWalk, isFirst]
    cases count <;> rfl
  rw [Task.run, started, Attempt.ok_bind, Task.search, turned]
  dsimp only
  rw [Task.route, isBack, List.reverse_singleton]

end Search

end BoxDiagram
