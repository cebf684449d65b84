import BoxDiagram.Proofs.Route.Reachable
import BoxDiagram.Proofs.Route.Run

namespace BoxDiagram

/-!
# Searches give up only at a limit

A road is known to a search once some walk reached it.  The last walk that was kept for a
known road either still waits or was continued, and then all roads are known that may follow.
When no walk waits any more, whatever can be reached from the source is therefore known,
a goal among it, and a walk to a goal is never continued.  This holds for lengths that
compare in any way, as long as none is less than itself.
-/

namespace Search

open Task.IsSound (IsPassable)
open Relation (ReflTransGen)

variable
  {α : Type} [Scalar α]
  {task : Task α}
  {progress next : Progress α}
  {source target common : Node α}
  {climb descent turns index : Nat}
  {road : Road}
  {walk : Walk α}
  {rest : List (Entry α)}

section Offers

/-- Some walk reached a road. -/
def Progress.Knows (progress : Progress α) (road : Road) : Prop :=
  ∃ length, progress.best.get? road = some (some length)

/-- An entry is about the last walk that was kept for a road. -/
def Progress.IsFor (progress : Progress α) (road : Road) (entry : Entry α) : Prop :=
  ∃ walk, progress.walks[entry.walk]? = some walk ∧ walk.road = road ∧
    progress.best.get? road = some (some walk.length)

/-- The last walk that was kept for a road waits to be continued. -/
def Progress.Awaits (progress : Progress α) (road : Road) : Prop :=
  ∃ entry ∈ progress.queue, progress.IsFor road entry

/-- Offering a walk leaves the roads of the map. -/
theorem isOver_offer
    (isOver : progress.best.IsOver task.graph)
    (walk : Walk α) :
    (task.offer progress walk).best.IsOver task.graph := by
  rcases offer_eq_or_keep task progress walk with passedOver | kept
  · rwa [passedOver]
  · rw [kept]
    exact isOver.set walk.road (some walk.length)

/-- The road of a walk that is offered is known afterwards. -/
theorem knows_offer
    (isOver : progress.best.IsOver task.graph)
    (hasRoad : task.graph.HasRoad walk.road) :
    (task.offer progress walk).Knows walk.road := by
  obtain ⟨value, isValue⟩ := isOver.exists_get?_iff.mpr hasRoad
  rw [Task.offer, isValue, Option.join_some]
  cases value with
  | none =>
      exact ⟨walk.length, by simp [Task.offer.keep, RoadMap.get?_set, isValue]⟩
  | some length =>
      dsimp only
      split
      · exact ⟨length, isValue⟩
      · exact ⟨walk.length, by simp [Task.offer.keep, RoadMap.get?_set, isValue]⟩

/-- A road that is known stays known. -/
theorem Progress.Knows.offer
    (knows : progress.Knows road)
    (walk : Walk α) :
    (task.offer progress walk).Knows road := by
  obtain ⟨length, isLength⟩ := knows
  rcases offer_eq_or_keep task progress walk with passedOver | kept
  · rw [passedOver]
    exact ⟨length, isLength⟩
  · rw [kept, Progress.Knows, RoadMap.get?_set]
    split
    · exact ⟨walk.length, by rw [isLength]; rfl⟩
    · exact ⟨length, isLength⟩

/-- The walk that is kept for a road waits until it is continued, or another one does. -/
theorem Progress.Awaits.offer
    (awaits : progress.Awaits road)
    (walk : Walk α) :
    (task.offer progress walk).Awaits road := by
  obtain ⟨entry, member, last, isLast, lastRoad, isBest⟩ := awaits
  rcases offer_eq_or_keep task progress walk with passedOver | kept
  · rw [passedOver]
    exact ⟨entry, member, last, isLast, lastRoad, isBest⟩
  · rw [kept]
    by_cases same : walk.road = road
    · refine ⟨_, Scalar.mem_insertBy_iff.mpr (.inl rfl), walk, Array.getElem?_push_size, same, ?_⟩
      rw [RoadMap.get?_set, if_pos same, isBest]
      rfl
    · refine ⟨entry, Scalar.mem_insertBy_iff.mpr (.inr member), last,
        getElem?_push_of_some isLast walk, lastRoad, ?_⟩
      rw [RoadMap.get?_set, if_neg same]
      exact isBest

/-- A road that an offer makes known is one whose walk waits. -/
theorem knows_or_awaits_of_offer
    (knows : (task.offer progress walk).Knows road) :
    progress.Knows road ∨ (task.offer progress walk).Awaits road := by
  obtain ⟨length, isLength⟩ := knows
  rcases offer_eq_or_keep task progress walk with passedOver | kept
  · rw [passedOver] at isLength
    exact .inl ⟨length, isLength⟩
  · rw [kept] at isLength ⊢
    by_cases same : walk.road = road
    · refine .inr ⟨_, Scalar.mem_insertBy_iff.mpr (.inl rfl), walk, Array.getElem?_push_size, same,
        ?_⟩
      rw [RoadMap.get?_set, if_pos same] at isLength ⊢
      obtain ⟨_, isOld, _⟩ := Option.map_eq_some_iff.mp isLength
      rw [isOld]
      rfl
    · rw [RoadMap.get?_set, if_neg same] at isLength
      exact .inl ⟨length, isLength⟩

/-- What several offers make of what a search knows. -/
structure Extends (task : Task α) (offered : List (Walk α)) (progress next : Progress α) :
    Prop where
  isOver : next.best.IsOver task.graph
  knows : ∀ {road}, progress.Knows road → next.Knows road
  knows_offered : ∀ walk ∈ offered, next.Knows walk.road
  awaits : ∀ {road}, progress.Awaits road → next.Awaits road
  knows_or_awaits : ∀ {road}, next.Knows road → progress.Knows road ∨ next.Awaits road

/-- Offering walks one after another extends the progress by all of them. -/
theorem extends_offer_all
    {offered : List (Walk α)}
    (progress : Progress α)
    (isOver : progress.best.IsOver task.graph)
    (haveRoads : ∀ walk ∈ offered, task.graph.HasRoad walk.road) :
    Extends task offered progress (offered.foldl task.offer progress) := by
  induction offered generalizing progress with
  | nil =>
      exact ⟨isOver, id, fun _ impossible => (by cases impossible), id, .inl⟩
  | cons walk rest inductionHypothesis =>
      obtain ⟨hasRoad, haveRoads⟩ := List.forall_mem_cons.mp haveRoads
      have after := inductionHypothesis _ (isOver_offer isOver walk) haveRoads
      constructor
      case isOver =>
        exact after.isOver
      case knows =>
        intro road knows
        exact after.knows (knows.offer walk)
      case knows_offered =>
        intro other member
        rcases List.mem_cons.mp member with rfl | isLater
        · exact after.knows (knows_offer isOver hasRoad)
        · exact after.knows_offered other isLater
      case awaits =>
        intro road awaits
        exact after.awaits (awaits.offer walk)
      case knows_or_awaits =>
        intro road knows
        rcases after.knows_or_awaits knows with isEarlier | isLater
        · exact (knows_or_awaits_of_offer isEarlier).imp_right after.awaits
        · exact .inr isLater

end Offers

section Limits

/-- The steps onto all roads that may follow a walk: those on the way to the target, and others. -/
def Task.sides (task : Task α) (walk : Walk α) :
    Except Failure (List (Step α) × List (Step α)) := do
  let roads ← task.nextRoads walk.road
  let (fixed, _) ← task.line walk.road
  let steps ← roads.mapM (task.stepOnto walk.point)
  return steps.partition fun step => task.isInner fixed.other walk.point step.point

/-- The limits of a search leave out none of the steps that may follow a walk. -/
def Task.IsUncut (task : Task α) (walk : Walk α) : Prop :=
  ∀ inner outer, task.sides walk = .ok (inner, outer) →
    inner.length ≤ task.config.innerLimit ∧ outer.length ≤ task.config.outerLimit

instance (task : Task α) (walk : Walk α) : Decidable (task.IsUncut walk) :=
  match found : task.sides walk with
  | .ok (inner, outer) =>
      decidable_of_iff
        (inner.length ≤ task.config.innerLimit ∧ outer.length ≤ task.config.outerLimit)
        (by simp [Task.IsUncut, found])
  | .error _ => .isTrue (by simp [Task.IsUncut, found])

/--
No limit binds in the run of a search: whenever a walk is to be continued, no step is left
out, the walk may have another road, and another turn is left.
-/
structure Task.IsUnlimited (task : Task α) : Prop where
  uncut :
    ∀ {turns index progress walk rest}, task.Reaches (turns + 1) progress →
      task.turn? progress progress.queue = some (.proceed index walk rest) → task.IsUncut walk
  short :
    ∀ {turns index progress walk rest}, task.Reaches (turns + 1) progress →
      task.turn? progress progress.queue = some (.proceed index walk rest) →
        walk.roads < maxRoads
  left :
    ∀ {turns index progress walk rest}, task.Reaches (turns + 1) progress →
      task.turn? progress progress.queue = some (.proceed index walk rest) → turns ≠ 0

/-- Whether no limit binds in a number of turns from what is known. -/
def Task.staysWithin (task : Task α) : Nat → Progress α → Bool
  | 0, _ => true
  | turns + 1, progress =>
      match task.turn? progress progress.queue with
      | some (.proceed index walk rest) =>
          (task.IsUncut walk ∧ walk.roads < maxRoads ∧ turns ≠ 0) &&
            match task.expand { progress with queue := rest } index walk with
            | .ok next => staysWithin task turns next
            | .error _ => true
      | _ => true

/-- What a run reaches is within the limit of the whole run. -/
theorem Task.Reaches.staysWithin
    (within : ∀ progress, task.start = .ok progress →
      task.staysWithin (maxExpansions + 1) progress = true)
    (reached : task.Reaches turns progress) :
    task.staysWithin turns progress = true := by
  induction reached with
  | start started =>
      exact within _ started
  | proceed earlier turned left expanded inductionHypothesis =>
      simp only [Task.staysWithin, turned, expanded, Bool.and_eq_true] at inductionHypothesis
      exact inductionHypothesis.2

/-- Whether no limit binds can be told by running the search. -/
theorem Task.isUnlimited_of_staysWithin
    (within : ∀ progress, task.start = .ok progress →
      task.staysWithin (maxExpansions + 1) progress = true) :
    task.IsUnlimited := by
  have each :
      ∀ {turns index progress walk rest}, task.Reaches (turns + 1) progress →
        task.turn? progress progress.queue = some (.proceed index walk rest) →
          task.IsUncut walk ∧ walk.roads < maxRoads ∧ turns ≠ 0 := by
    intro turns index progress walk rest reached turned
    have isWithin := reached.staysWithin within
    simp only [Task.staysWithin, turned, Bool.and_eq_true, decide_eq_true_iff] at isWithin
    exact isWithin.1
  exact {
    uncut := fun reached turned => (each reached turned).1
    short := fun reached turned => (each reached turned).2.1
    left := fun reached turned => (each reached turned).2.2 }

/-- Where steps are few, none is cut. -/
theorem mem_nearest_of_length_le
    {moving : Axis}
    {limit : Nat}
    {steps : List (Step α)}
    {step : Step α}
    (member : step ∈ steps)
    (few : steps.length ≤ limit) :
    step ∈ task.nearest moving limit steps := by
  rw [Task.nearest, List.take_of_length_le]
  · exact Scalar.sortBy_perm.mem_iff.mpr member
  · rw [Scalar.sortBy_perm.length_eq]
    exact few

/-- If nothing is left out, there is a step onto each road that may follow. -/
theorem exists_step_of_isUncut
    {steps : List (Step α)}
    {next : Road}
    (isUncut : task.IsUncut walk)
    (succeeded : task.nextSteps walk = .ok steps)
    (leads : task.LeadsTo walk.road next) :
    ∃ step ∈ steps, step.road = next := by
  obtain ⟨roads, axis, line, all, nextFound, lineFound, allFound, rfl⟩ :=
    exists_of_nextSteps succeeded
  obtain ⟨others, othersFound, member⟩ := leads
  obtain rfl := Except.ok.inj (nextFound.symm.trans othersFound)
  have areSides :
      task.sides walk =
        .ok (all.filter fun step => task.isInner axis.other walk.point step.point,
          all.filter fun step => !task.isInner axis.other walk.point step.point) := by
    rw [Task.sides, nextFound, Attempt.ok_bind, lineFound, Attempt.ok_bind]
    dsimp only
    rw [allFound, Attempt.ok_bind, List.partition_eq_filter_filter]
    rfl
  obtain ⟨fewInner, fewOuter⟩ := isUncut _ _ areSides
  obtain ⟨step, isListed, isStep⟩ := Attempt.exists_result_of_mem allFound member
  refine ⟨step, ?_, road_of_stepOnto isStep⟩
  cases isInner : task.isInner axis.other walk.point step.point with
  | true =>
      refine List.mem_append_left _ (mem_nearest_of_length_le ?_ fewInner)
      exact List.mem_filter.mpr ⟨isListed, isInner⟩
  | false =>
      refine List.mem_append_right _ (mem_nearest_of_length_le ?_ fewOuter)
      exact List.mem_filter.mpr ⟨isListed, by simp [isInner]⟩

end Limits

section Turns

/-- No length of walks is less than itself. -/
def IsIrreflexive (α : Type) [Scalar α] : Prop :=
  ∀ length : α, Scalar.less length length = false

/-- The last walk that was kept for a road is never passed over. -/
theorem not_isOutrun
    (irreflexive : IsIrreflexive α)
    (isBest : progress.best.get? walk.road = some (some walk.length)) :
    Task.isOutrun progress walk = false := by
  rw [Task.isOutrun, isBest, Option.join_some]
  exact irreflexive walk.length

/-- An entry for a road still waits after a turn, or its walk is the one that is continued. -/
theorem eq_or_mem_of_turn?
    (irreflexive : IsIrreflexive α)
    {queue : List (Entry α)}
    {entry : Entry α}
    (turned : task.turn? progress queue = some (.proceed index walk rest))
    (member : entry ∈ queue)
    (isFor : progress.IsFor road entry) :
    road = walk.road ∨ entry ∈ rest := by
  induction queue with
  | nil =>
      cases member
  | cons head later inductionHypothesis =>
      obtain ⟨last, isLast, lastRoad, isBest⟩ := isFor
      rw [Task.turn?] at turned
      rcases List.mem_cons.mp member with rfl | isLater
      · simp only [isLast] at turned
        split at turned
        · cases turned
        · rw [if_neg (by simp [not_isOutrun irreflexive (lastRoad ▸ isBest)])] at turned
          cases turned
          exact .inl lastRoad.symm
      · split at turned
        · exact inductionHypothesis turned isLater
        · split at turned
          · cases turned
          · split at turned
            · exact inductionHypothesis turned isLater
            · cases turned
              exact .inr isLater

/-- A search that finds no walk to continue awaits no road. -/
theorem not_isFor_of_turn?
    (irreflexive : IsIrreflexive α)
    {queue : List (Entry α)}
    {entry : Entry α}
    (turned : task.turn? progress queue = none)
    (member : entry ∈ queue) :
    ¬ progress.IsFor road entry := by
  rintro ⟨last, isLast, lastRoad, isBest⟩
  induction queue with
  | nil =>
      cases member
  | cons head later inductionHypothesis =>
      rw [Task.turn?] at turned
      rcases List.mem_cons.mp member with rfl | isLater
      · simp only [isLast] at turned
        split at turned
        · cases turned
        · rw [if_neg (by simp [not_isOutrun irreflexive (lastRoad ▸ isBest)])] at turned
          cases turned
      · split at turned
        · exact inductionHypothesis turned isLater
        · split at turned
          · cases turned
          · split at turned
            · exact inductionHypothesis turned isLater
            · cases turned

/-- A walk that is continued does not end on a goal. -/
theorem not_isGoal_of_turn?
    {queue : List (Entry α)}
    (turned : task.turn? progress queue = some (.proceed index walk rest)) :
    (task.goals.get? walk.road).join = none := by
  induction queue with
  | nil =>
      cases turned
  | cons head later inductionHypothesis =>
      rw [Task.turn?] at turned
      split at turned
      · exact inductionHypothesis turned
      · split at turned
        · cases turned
        · split at turned
          · exact inductionHypothesis turned
          · cases turned
            assumption

end Turns

/-- A road is no goal, and all roads are known that may follow it. -/
structure Task.IsSettled (task : Task α) (progress : Progress α) (road : Road) : Prop where
  notGoal : (task.goals.get? road).join = none
  knows : ∀ {next}, task.LeadsTo road next → progress.Knows next

/-- What a search without limits keeps: it knows where it starts, and forgets no known road. -/
structure Task.IsCovered (task : Task α) (progress : Progress α) : Prop where
  isOver : progress.best.IsOver task.graph
  starts :
    ∀ {first road}, task.graph.LeavesOnto task.ends.common task.ends.source first road →
      progress.Knows road
  settled : ∀ {road}, progress.Knows road → progress.Awaits road ∨ task.IsSettled progress road

/-- At the start, what is known is covered. -/
theorem isCovered_start
    (sound : task.IsSound source target common climb descent)
    (hasLines : task.HasLines)
    (started : task.start = .ok progress) :
    task.IsCovered progress := by
  obtain ⟨walks, rfl, mem_walks_iff⟩ := exists_walks_of_start sound started
  have nothing :
      ∀ {road}, ¬ Progress.Knows ⟨#[], [], .ofGraph task.graph (none : Option α)⟩ road := by
    rintro road ⟨length, isLength⟩
    cases (RoadMap.get?_ofGraph_eq_some_iff.mp isLength).2
  have areOffered :
      Extends task walks ⟨#[], [], .ofGraph task.graph none⟩
        (walks.foldl task.offer ⟨#[], [], .ofGraph task.graph none⟩) := by
    refine extends_offer_all _ (.ofGraph task.graph none) ?_
    intro walk member
    obtain ⟨first, road, leaves, isWalk⟩ := (mem_walks_iff walk).mp member
    obtain ⟨step, _, same⟩ := Attempt.bind_eq_ok_iff.mp isWalk
    cases same
    exact (sound.passable_of_leavesOnto leaves).1
  constructor
  case isOver =>
    exact areOffered.isOver
  case starts =>
    intro first road leaves
    obtain ⟨step, isStep⟩ :=
      exists_stepOnto hasLines (sound.passable_of_leavesOnto leaves).1 task.source
    have isWalk := (mem_walks_iff _).mpr ⟨first, road, leaves, by
      rw [Task.firstWalk, isStep, Attempt.ok_bind]; rfl⟩
    exact areOffered.knows_offered _ isWalk
  case settled =>
    intro road knows
    exact .inl ((areOffered.knows_or_awaits knows).resolve_left nothing)

/-- Continuing a walk by all steps that may follow settles its road. -/
theorem Task.IsCovered.expand
    (irreflexive : IsIrreflexive α)
    (covered : task.IsCovered progress)
    (sound : task.IsSound source target common climb descent)
    (areWalks : AreWalks task progress.walks)
    (turned : task.turn? progress progress.queue = some (.proceed index walk rest))
    (short : walk.roads < maxRoads)
    (isUncut : task.IsUncut walk)
    (expanded : task.expand { progress with queue := rest } index walk = .ok next) :
    task.IsCovered next := by
  rw [Task.expand, if_neg (Nat.not_le_of_lt short)] at expanded
  obtain ⟨steps, stepsFound, same⟩ := Attempt.bind_eq_ok_iff.mp expanded
  cases same
  have passable := (areWalks index walk (isTurn_of_turn? turned)).1.passable
  have areTurns := turns_of_nextSteps sound passable stepsFound
  have areOffered :
      Extends task (steps.map (Task.continued index walk)) { progress with queue := rest }
        ((steps.map (Task.continued index walk)).foldl task.offer
          { progress with queue := rest }) := by
    refine extends_offer_all { progress with queue := rest } covered.isOver ?_
    intro other member
    obtain ⟨step, stepMember, rfl⟩ := List.mem_map.mp member
    exact (areTurns step stepMember).2.1
  constructor
  case isOver =>
    exact areOffered.isOver
  case starts =>
    intro first road leaves
    exact areOffered.knows (covered.starts leaves)
  case settled =>
    intro road knows
    rcases areOffered.knows_or_awaits knows with wasKnown | awaits
    · rcases covered.settled wasKnown with ⟨entry, member, isFor⟩ | isSettled
      -- The road of the walk is settled by its steps, any other road waits as before.
      · rcases eq_or_mem_of_turn? irreflexive turned member isFor with rfl | isLater
        · refine .inr ⟨not_isGoal_of_turn? turned, fun leads => ?_⟩
          obtain ⟨step, stepMember, rfl⟩ := exists_step_of_isUncut isUncut stepsFound leads
          exact areOffered.knows_offered _ (List.mem_map_of_mem stepMember)
        · exact .inl (areOffered.awaits ⟨entry, isLater, isFor⟩)
      · exact .inr ⟨isSettled.notGoal, fun leads => areOffered.knows (isSettled.knows leads)⟩
    · exact .inl awaits

/-- Throughout a run, what is known and expanded is covered. -/
theorem Task.Reaches.isCovered
    (irreflexive : IsIrreflexive α)
    (sound : task.IsSound source target common climb descent)
    (hasLines : task.HasLines)
    (unlimited : task.IsUnlimited)
    (reached : task.Reaches turns progress) :
    task.IsCovered progress := by
  induction reached with
  | start started =>
      exact isCovered_start sound hasLines started
  | proceed earlier turned left expanded inductionHypothesis =>
      exact inductionHypothesis.expand irreflexive sound (earlier.areWalks sound) turned
        (unlimited.short earlier turned) (unlimited.uncut earlier turned) expanded

/-- A search that awaits no road any more knows all roads that can be reached from its source. -/
theorem Task.IsCovered.knows_of_reaches
    (irreflexive : IsIrreflexive α)
    (covered : task.IsCovered progress)
    (turned : task.turn? progress progress.queue = none)
    {start finish : Road}
    (knows : progress.Knows start)
    (reaches : ReflTransGen task.LeadsTo start finish) :
    progress.Knows finish ∧ task.IsSettled progress finish := by
  have settled : ∀ {road}, progress.Knows road → task.IsSettled progress road := by
    intro road isKnown
    rcases covered.settled isKnown with ⟨entry, member, isFor⟩ | isSettled
    · exact absurd isFor (not_isFor_of_turn? irreflexive turned member)
    · exact isSettled
  induction reaches with
  | refl =>
      exact ⟨knows, settled knows⟩
  | tail _ leads inductionHypothesis =>
      have isKnown := inductionHypothesis.2.knows leads
      exact ⟨isKnown, settled isKnown⟩

/-- A search in which no limit binds finds a route. -/
theorem exists_route_of_isUnlimited
    (irreflexive : IsIrreflexive α)
    (sound : task.IsSound source target common climb descent)
    (aware : task.IsAware target common)
    (hasLines : task.HasLines)
    (unlimited : task.IsUnlimited) :
    ∃ route, task.run = .ok (some route) := by
  obtain ⟨answer, answered⟩ := exists_run sound hasLines
  cases Task.endsWith_of_run answered with
  | arrived =>
      exact ⟨_, answered⟩
  | exhausted reached turned =>
      have covered := reached.isCovered irreflexive sound hasLines unlimited
      obtain ⟨first, road, leaves⟩ := exists_leavesOnto_source sound
      obtain ⟨goal, exit, reaches, isGoal⟩ := exists_reaches_goal sound aware leaves
      have isSettled :=
        (covered.knows_of_reaches irreflexive turned (covered.starts leaves) reaches).2
      have notGoal := isSettled.notGoal
      rw [isGoal] at notGoal
      cases notGoal
  | stopped reached turned =>
      exact absurd rfl (unlimited.left reached turned)

end Search

end BoxDiagram
