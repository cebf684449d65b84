import BoxDiagram.Proofs.Route.NextRoads
import Mathlib.Data.List.Chain

namespace BoxDiagram

/-!
# What a search finds

A search keeps its walks in a list in which each one names the earlier walk that it
continues by one road.  Every step adds only walks that continue an earlier one
by a turn, so the roads read back from a walk that arrives are a walk between the
ends of the link.
-/

namespace Scalar

variable
  {α β : Type} [Scalar α]
  {key : β → α}
  {value other : β}
  {values : List β}

/-- A value that is put into a list in the order of a key is added to it. -/
theorem insertBy_perm :
    (insertBy key value values).Perm (value :: values) := by
  induction values with
  | nil =>
      exact .refl _
  | cons head rest inductionHypothesis =>
      rw [insertBy]
      split
      · exact .refl _
      · exact (inductionHypothesis.cons head).trans (.swap value head rest)

theorem mem_insertBy_iff :
    other ∈ insertBy key value values ↔ other = value ∨ other ∈ values :=
  insertBy_perm.mem_iff.trans List.mem_cons

/-- Putting a list in the order of a key keeps its values. -/
theorem sortBy_perm :
    (sortBy key values).Perm values := by
  suffices perm :
      ∀ sorted, (values.foldl (fun sorted value => insertBy key value sorted) sorted).Perm
        (values ++ sorted) by
    simpa [sortBy] using perm []
  induction values with
  | nil =>
      exact .refl
  | cons head rest inductionHypothesis =>
      intro sorted
      exact (inductionHypothesis _).trans
        ((insertBy_perm.append_left rest).trans List.perm_middle)

end Scalar

namespace Search

open Task.IsSound (IsPassable)

variable {α : Type} {task : Task α}

/-- A walk stands at the same place in a longer list. -/
theorem getElem?_push_of_some
    {walks : Array (Walk α)}
    {walk : Walk α}
    {index : Nat}
    (isWalk : walks[index]? = some walk)
    (other : Walk α) :
    (walks.push other)[index]? = some walk := by
  have inside := (Array.getElem?_eq_some_iff.mp isWalk).1
  rw [Array.getElem?_push_lt inside, ← Array.getElem?_eq_getElem inside]
  exact isWalk

/-- A walk that stands in a longer list is the last one or stood there before. -/
theorem eq_or_getElem?_of_push
    {walks : Array (Walk α)}
    {walk other : Walk α}
    {index : Nat}
    (isWalk : (walks.push other)[index]? = some walk) :
    (index = walks.size ∧ walk = other) ∨ walks[index]? = some walk := by
  by_cases inside : index < walks.size
  · rw [Array.getElem?_push_lt inside, ← Array.getElem?_eq_getElem inside] at isWalk
    exact .inr isWalk
  · have isLast : index = walks.size := by
      have := (Array.getElem?_eq_some_iff.mp isWalk).1
      rw [Array.size_push] at this
      omega
    subst isLast
    rw [Array.getElem?_push_size] at isWalk
    exact .inl ⟨rfl, (Option.some.inj isWalk).symm⟩

/-- A walk starts at the source of the link, or continues one of several walks by a turn. -/
structure Walk.Follows (task : Task α) (walks : Array (Walk α)) (walk : Walk α) : Prop where
  passable : IsPassable task walk.road
  starts :
    walk.parent = none →
      task.graph.LeavesOnto task.ends.common task.ends.source walk.first walk.road
  continues :
    ∀ {parent : Nat}, walk.parent = some parent →
      ∃ earlier, walks[parent]? = some earlier ∧ earlier.first = walk.first ∧
        task.graph.Turns task.ends.common earlier.road walk.road

/-- Each of the walks of a search starts at the source or continues an earlier one. -/
def AreWalks (task : Task α) (walks : Array (Walk α)) : Prop :=
  ∀ (index : Nat) (walk : Walk α), walks[index]? = some walk →
    walk.Follows task walks ∧ ∀ {parent : Nat}, walk.parent = some parent → parent < index

/-- A walk follows the ones before it whatever comes behind. -/
theorem Walk.Follows.push
    {walks : Array (Walk α)}
    {walk : Walk α}
    (follows : walk.Follows task walks)
    (other : Walk α) :
    walk.Follows task (walks.push other) where
  passable := follows.passable
  starts := follows.starts
  continues {parent} isParent := by
    obtain ⟨earlier, isEarlier, sameFirst, turns⟩ := follows.continues isParent
    exact ⟨earlier, getElem?_push_of_some isEarlier other, sameFirst, turns⟩

/-- Walks stay walks with one more that follows them. -/
theorem AreWalks.push
    {walks : Array (Walk α)}
    {walk : Walk α}
    (areWalks : AreWalks task walks)
    (follows : walk.Follows task walks) :
    AreWalks task (walks.push walk) := by
  intro index other isOther
  rcases eq_or_getElem?_of_push isOther with ⟨rfl, rfl⟩ | isOld
  · refine ⟨follows.push other, ?_⟩
    intro parent isParent
    obtain ⟨earlier, isEarlier, _⟩ := follows.continues isParent
    exact (Array.getElem?_eq_some_iff.mp isEarlier).1
  · obtain ⟨otherFollows, isLater⟩ := areWalks index other isOld
    exact ⟨otherFollows.push walk, isLater⟩

/-- Read back from one of its walks, the roads of a search are turns back to the source. -/
theorem AreWalks.exists_roadsBack
    {walks : Array (Walk α)}
    (areWalks : AreWalks task walks)
    {count index : Nat}
    {walk : Walk α}
    (isWalk : walks[index]? = some walk)
    (enough : index < count) :
    ∃ earlier first,
      Task.roadsBack walks count (some index) = walk.road :: earlier ∧
        (walk.road :: earlier).IsChain (task.graph.Turns task.ends.common) ∧
          (walk.road :: earlier).getLast? = some first ∧
            task.graph.LeavesOnto task.ends.common task.ends.source walk.first first ∧
              ∀ road ∈ walk.road :: earlier, IsPassable task road := by
  induction count generalizing index walk with
  | zero =>
      omega
  | succ count inductionHypothesis =>
      obtain ⟨follows, isLater⟩ := areWalks index walk isWalk
      rw [Task.roadsBack, isWalk]
      cases parent : walk.parent with
      | none =>
          refine ⟨[], walk.road, ?_, .singleton _, rfl, follows.starts parent, ?_⟩
          · change walk.road :: Task.roadsBack walks count walk.parent = _
            rw [parent]
            cases count <;> rfl
          · intro road member
            rw [List.mem_singleton.mp member]
            exact follows.passable
      | some index =>
          obtain ⟨previous, isPrevious, sameFirst, turns⟩ := follows.continues parent
          obtain ⟨earlier, first, isBack, isChain, isFirst, leaves, arePassable⟩ :=
            inductionHypothesis isPrevious (by have := isLater parent; omega)
          refine ⟨previous.road :: earlier, first, ?_, .cons_cons turns.symm isChain, ?_, ?_, ?_⟩
          · change walk.road :: Task.roadsBack walks count walk.parent = _
            rw [parent, isBack]
          · rw [List.getLast?_cons_cons]
            exact isFirst
          · rw [← sameFirst]
            exact leaves
          · intro road member
            rcases List.mem_cons.mp member with isHead | isEarlier
            · rw [isHead]
              exact follows.passable
            · exact arePassable road isEarlier

variable [Scalar α]

/-- A walk that is offered is passed over or kept. -/
theorem offer_eq_or_keep
    (task : Task α)
    (progress : Progress α)
    (walk : Walk α) :
    task.offer progress walk = progress ∨
      task.offer progress walk =
        { walks := progress.walks.push walk
          queue :=
            Scalar.insertBy (·.estimate)
              ⟨walk.length + walk.point.manhattan task.target, progress.walks.size⟩ progress.queue
          best := progress.best.set walk.road (some walk.length) } := by
  rw [Task.offer]
  split
  · split
    · exact .inl rfl
    · exact .inr rfl
  · exact .inr rfl

/-- Walks stay walks with all that are offered and follow them. -/
theorem AreWalks.offer_all
    {offered : List (Walk α)}
    {progress : Progress α}
    (areWalks : AreWalks task progress.walks)
    (follow : ∀ walk ∈ offered, walk.Follows task progress.walks) :
    AreWalks task (offered.foldl task.offer progress).walks := by
  induction offered generalizing progress with
  | nil =>
      exact areWalks
  | cons walk rest inductionHypothesis =>
      have walkFollows := follow walk (by simp)
      rw [List.foldl_cons]
      rcases offer_eq_or_keep task progress walk with passedOver | kept
      · apply inductionHypothesis (by rw [passedOver]; exact areWalks)
        intro other member
        rw [passedOver]
        exact follow other (by simp [member])
      · apply inductionHypothesis (by rw [kept]; exact areWalks.push walkFollows)
        intro other member
        rw [kept]
        exact (follow other (by simp [member])).push walk

/-- A turn is about one of the walks of a search, and has arrived only at a goal. -/
def IsTurn (task : Task α) (progress : Progress α) : Task.Turn α → Prop
  | .arrived index walk exit =>
      progress.walks[index]? = some walk ∧ task.goals.get? walk.road = some (some exit)
  | .proceed index walk _ => progress.walks[index]? = some walk

/-- What comes of the walks that wait is about one of them. -/
theorem isTurn_of_turn?
    {progress : Progress α}
    {queue : List (Entry α)}
    {turn : Task.Turn α}
    (turned : task.turn? progress queue = some turn) :
    IsTurn task progress turn := by
  induction queue with
  | nil =>
      cases turned
  | cons entry rest inductionHypothesis =>
      rw [Task.turn?] at turned
      cases isWalk : progress.walks[entry.walk]? with
      | none =>
          simp only [isWalk] at turned
          exact inductionHypothesis turned
      | some found =>
          simp only [isWalk] at turned
          cases isGoal : (task.goals.get? found.road).join with
          | some direction =>
              simp only [isGoal] at turned
              cases turned
              exact ⟨isWalk, Option.join_eq_some_iff.mp isGoal⟩
          | none =>
              simp only [isGoal] at turned
              split at turned
              · exact inductionHypothesis turned
              · cases turned
                exact isWalk

variable {source target common : Node α} {climb descent : Nat}

omit [Scalar α] in
/-- The route of a walk that arrived is a walk between the ends of the link. -/
theorem isWalk_of_arrived
    (sound : task.IsSound source target common climb descent)
    {progress : Progress α}
    {index : Nat}
    {walk : Walk α}
    {exit : Direction}
    (areWalks : AreWalks task progress.walks)
    (isWalk : progress.walks[index]? = some walk)
    (isGoal : task.goals.get? walk.road = some (some exit)) :
    ∃ roads, task.route progress index walk exit = task.ends.route walk.first exit roads ∧
      task.graph.IsWalk task.ends.common task.ends.source task.ends.target walk.first exit
        roads := by
  have inside : index < progress.walks.size := (Array.getElem?_eq_some_iff.mp isWalk).1
  obtain ⟨earlier, first, isBack, isChain, isFirst, leaves, arePassable⟩ :=
    areWalks.exists_roadsBack isWalk inside
  refine ⟨(walk.road :: earlier).reverse, ?_, ?_⟩
  · rw [Task.route, isBack]
  · constructor
    case first =>
      exact ⟨first, by rw [List.head?_reverse, isFirst], leaves⟩
    case last =>
      exact ⟨walk.road, by rw [List.getLast?_reverse]; rfl, sound.goals isGoal⟩
    case between =>
      intro road member
      exact arePassable road (List.mem_reverse.mp member)
    case turns =>
      rw [List.isChain_reverse]
      exact isChain.imp fun _ _ turns => turns.symm

/-- Every road of the graph has a middle line in the layout that is searched. -/
def Task.HasLines (task : Task α) : Prop :=
  ∀ {road : Road}, task.graph.HasRoad road →
    ∃ line, (task.reference.lines.get? road).join = some line

omit [Scalar α] in
/-- The line of a road is found exactly if the reference has it. -/
theorem line_eq_ok_iff
    {road : Road}
    {line : Axis × α} :
    task.line road = .ok line ↔ (task.reference.lines.get? road).join = some line := by
  rw [Task.line]
  cases (task.reference.lines.get? road).join with
  | some found =>
      exact Attempt.pure_eq_ok_iff.trans Option.some_inj.symm
  | none =>
      refine iff_of_false (fun succeeded => ?_) (by simp)
      obtain ⟨_, _, impossible⟩ := Attempt.bind_eq_ok_iff.mp succeeded
      cases impossible

omit [Scalar α] in
/-- A step leads onto its road. -/
theorem road_of_stepOnto
    {point : Point α}
    {road : Road}
    {step : Step α}
    (succeeded : task.stepOnto point road = .ok step) :
    step.road = road := by
  obtain ⟨line, _, same⟩ := Attempt.bind_eq_ok_iff.mp succeeded
  cases same
  rfl

omit [Scalar α] in
/-- There is a step onto each road that has a line. -/
theorem exists_stepOnto
    (hasLines : task.HasLines)
    {road : Road}
    (exists_road : task.graph.HasRoad road)
    (point : Point α) :
    ∃ step, task.stepOnto point road = .ok step := by
  obtain ⟨line, isLine⟩ := hasLines exists_road
  exact ⟨_, by rw [Task.stepOnto, line_eq_ok_iff.mpr isLine]; rfl⟩

/-- The nearest steps are some of the steps. -/
theorem mem_of_mem_nearest
    {moving : Axis}
    {limit : Nat}
    {steps : List (Step α)}
    {step : Step α}
    (member : step ∈ task.nearest moving limit steps) :
    step ∈ steps :=
  Scalar.sortBy_perm.mem_iff.mp (List.mem_of_mem_take member)

/-- The steps that may follow a walk are taken from those onto all roads that may follow. -/
theorem exists_of_nextSteps
    {walk : Walk α}
    {steps : List (Step α)}
    (succeeded : task.nextSteps walk = .ok steps) :
    ∃ roads axis line all,
      task.nextRoads walk.road = .ok roads ∧ task.line walk.road = .ok (axis, line) ∧
        roads.mapM (task.stepOnto walk.point) = .ok all ∧
          steps =
            task.nearest axis.other task.config.innerLimit
                (all.filter fun step => task.isInner axis.other walk.point step.point) ++
              task.nearest axis.other task.config.outerLimit
                (all.filter fun step => !task.isInner axis.other walk.point step.point) := by
  obtain ⟨roads, nextFound, succeeded⟩ := Attempt.bind_eq_ok_iff.mp succeeded
  obtain ⟨⟨axis, line⟩, lineFound, succeeded⟩ := Attempt.bind_eq_ok_iff.mp succeeded
  obtain ⟨all, allFound, same⟩ := Attempt.bind_eq_ok_iff.mp succeeded
  dsimp only at same
  rw [List.partition_eq_filter_filter] at same
  cases same
  exact ⟨roads, axis, line, all, nextFound, lineFound, allFound, rfl⟩

/-- Each step that may follow a walk leads from it onto one of the roads that may follow. -/
theorem exists_nextRoads_of_mem_nextSteps
    {walk : Walk α}
    {steps : List (Step α)}
    {step : Step α}
    (succeeded : task.nextSteps walk = .ok steps)
    (member : step ∈ steps) :
    ∃ roads, task.nextRoads walk.road = .ok roads ∧ step.road ∈ roads ∧
      task.stepOnto walk.point step.road = .ok step := by
  obtain ⟨roads, axis, line, all, nextFound, _, allFound, rfl⟩ := exists_of_nextSteps succeeded
  have isListed : step ∈ all := by
    rcases List.mem_append.mp member with isInner | isOuter
    · exact List.mem_of_mem_filter (mem_of_mem_nearest isInner)
    · exact List.mem_of_mem_filter (mem_of_mem_nearest isOuter)
  obtain ⟨road, roadMember, isStep⟩ := Attempt.exists_of_mem_mapM allFound isListed
  obtain rfl := road_of_stepOnto isStep
  exact ⟨roads, nextFound, roadMember, isStep⟩

/-- The steps that may follow a walk are turns. -/
theorem turns_of_nextSteps
    (sound : task.IsSound source target common climb descent)
    {walk : Walk α}
    {steps : List (Step α)}
    (passable : IsPassable task walk.road)
    (succeeded : task.nextSteps walk = .ok steps) :
    ∀ step ∈ steps, task.graph.Turns task.ends.common walk.road step.road ∧
      IsPassable task step.road := by
  intro step member
  obtain ⟨roads, nextFound, roadMember, _⟩ := exists_nextRoads_of_mem_nextSteps succeeded member
  obtain ⟨others, othersFound, areTurns⟩ := sound.exists_nextRoads passable
  obtain rfl := Except.ok.inj (nextFound.symm.trans othersFound)
  exact areTurns step.road roadMember

/-- The next steps of a walk are always found. -/
theorem exists_nextSteps
    (sound : task.IsSound source target common climb descent)
    (hasLines : task.HasLines)
    {walk : Walk α}
    (passable : IsPassable task walk.road) :
    ∃ steps, task.nextSteps walk = .ok steps := by
  obtain ⟨roads, nextFound, areTurns⟩ := sound.exists_nextRoads passable
  obtain ⟨line, isLine⟩ := hasLines passable.1
  obtain ⟨all, allFound⟩ :=
    Attempt.exists_mapM_eq_ok fun road member =>
      exists_stepOnto hasLines (areTurns road member).2.1 walk.point
  have lineFound : task.line walk.road = .ok line := line_eq_ok_iff.mpr isLine
  exact ⟨_, Attempt.bind_eq_ok_iff.mpr ⟨roads, nextFound,
    Attempt.bind_eq_ok_iff.mpr ⟨line, lineFound,
      Attempt.bind_eq_ok_iff.mpr ⟨all, allFound, rfl⟩⟩⟩⟩

/-- Continuing a walk of a search by all steps that may follow keeps its walks walks. -/
theorem areWalks_expand
    (sound : task.IsSound source target common climb descent)
    {progress next : Progress α}
    {index : Nat}
    {walk : Walk α}
    (succeeded : task.expand progress index walk = .ok next)
    (areWalks : AreWalks task progress.walks)
    (isWalk : progress.walks[index]? = some walk) :
    AreWalks task next.walks := by
  rw [Task.expand] at succeeded
  split at succeeded
  · cases succeeded
    exact areWalks
  · obtain ⟨steps, stepsFound, same⟩ := Attempt.bind_eq_ok_iff.mp succeeded
    cases same
    have areTurns :=
      turns_of_nextSteps sound (areWalks index walk isWalk).1.passable stepsFound
    apply areWalks.offer_all
    intro continuation member
    obtain ⟨step, stepMember, rfl⟩ := List.mem_map.mp member
    obtain ⟨turns, passable⟩ := areTurns step stepMember
    refine ⟨passable, fun impossible => (nomatch impossible), ?_⟩
    intro parent isParent
    obtain rfl : index = parent := Option.some.inj isParent
    exact ⟨walk, isWalk, rfl, turns⟩

theorem Task.IsSound.exists_start_eq
    (sound : task.IsSound source target common climb descent) :
    ∃ allowed,
      task.graph.allowedExits task.ends.source.node task.ends.source.edge = .ok allowed ∧
        task.graph.climb task.ends.common task.ends.source.node = .ok (climb + 1) ∧
          task.start =
            (do
              let walks ← allowed.mapM (task.firstWalks (climb + 1))
              return walks.flatten.foldl task.offer ⟨#[], [], .ofGraph task.graph none⟩) := by
  obtain ⟨allowed, allows, _⟩ := LinkEnds.exists_allowedExits sound.checked.sourceFound
  have climbed :
      task.graph.climb task.ends.common task.ends.source.node = .ok (climb + 1) := by
    rw [← sound.checked.common_id]
    exact sound.checked.sourceBelow.climb_eq sound.checked.sourceFound
  refine ⟨allowed, allows, climbed, ?_⟩
  rw [Task.start, climbed, allows]
  rfl

omit [Scalar α] in
/-- A road that the source reaches may stand on a walk. -/
theorem Task.IsSound.passable_of_leavesOnto
    (sound : task.IsSound source target common climb descent)
    {first : Direction}
    {road : Road}
    (leaves : task.graph.LeavesOnto task.ends.common task.ends.source first road) :
    IsPassable task road := by
  obtain ⟨_, ceiling, roads, _, _, climbs, listed, member⟩ := leaves
  rw [← sound.checked.common_id, sound.checked.sourceBelow.climb_eq sound.checked.sourceFound]
    at climbs
  obtain rfl := Except.ok.inj climbs
  obtain ⟨⟨number, other⟩, entryMember, same⟩ := List.mem_map.mp member
  obtain rfl : other = road := same
  obtain ⟨level, below, container, _, _, withinCeiling, meets⟩ :=
    (sound.tree.mem_exitRoads_iff sound.checked.sourceFound listed).mp entryMember
  obtain ⟨exists_road, atOrBelow, above⟩ :=
    sound.tree.between_of_meets sound.checked.sourceFound sound.checked.sourceBelow meets
      withinCeiling
  refine ⟨exists_road, ?_, .inl above⟩
  rw [← sound.checked.common_id]
  exact atOrBelow

/-- A search starts with a walk for each road onto which its source leaves. -/
theorem exists_walks_of_start
    (sound : task.IsSound source target common climb descent)
    {progress : Progress α}
    (succeeded : task.start = .ok progress) :
    ∃ walks : List (Walk α),
      progress = walks.foldl task.offer ⟨#[], [], .ofGraph task.graph none⟩ ∧
        ∀ walk, walk ∈ walks ↔
          ∃ first road, task.graph.LeavesOnto task.ends.common task.ends.source first road ∧
            task.firstWalk first road = .ok walk := by
  obtain ⟨allowed, allows, climbed, isStart⟩ := sound.exists_start_eq
  rw [isStart] at succeeded
  obtain ⟨lists, listsFound, same⟩ := Attempt.bind_eq_ok_iff.mp succeeded
  cases same
  refine ⟨lists.flatten, rfl, fun walk => ⟨fun member => ?_, ?_⟩⟩
  · obtain ⟨list, listMember, walkMember⟩ := List.mem_flatten.mp member
    obtain ⟨first, isAllowed, isList⟩ := Attempt.exists_of_mem_mapM listsFound listMember
    obtain ⟨roads, listed, isList⟩ := Attempt.bind_eq_ok_iff.mp isList
    rw [Attempt.ofGraph_eq_ok_iff] at listed
    obtain ⟨entry, roadMember, isWalk⟩ := Attempt.exists_of_mem_mapM isList walkMember
    exact ⟨first, entry.2, ⟨allowed, climb + 1, roads, allows, isAllowed, climbed, listed,
      List.mem_map_of_mem roadMember⟩, isWalk⟩
  · rintro ⟨first, road, ⟨others, ceiling, roads, otherAllows, isAllowed, otherClimb, listed,
      member⟩, isWalk⟩
    obtain rfl := Except.ok.inj (allows.symm.trans otherAllows)
    obtain rfl := Except.ok.inj (climbed.symm.trans otherClimb)
    obtain ⟨list, listMember, isList⟩ := Attempt.exists_result_of_mem listsFound isAllowed
    obtain ⟨otherRoads, otherListed, isList⟩ := Attempt.bind_eq_ok_iff.mp isList
    rw [Attempt.ofGraph_eq_ok_iff, listed] at otherListed
    cases otherListed
    obtain ⟨entry, entryMember, rfl⟩ := List.mem_map.mp member
    obtain ⟨found, foundMember, isFound⟩ := Attempt.exists_result_of_mem isList entryMember
    obtain rfl := Except.ok.inj (isWalk.symm.trans isFound)
    exact List.mem_flatten.mpr ⟨list, listMember, foundMember⟩

/-- A search starts with walks from its source. -/
theorem areWalks_start
    (sound : task.IsSound source target common climb descent)
    {progress : Progress α}
    (succeeded : task.start = .ok progress) :
    AreWalks task progress.walks := by
  obtain ⟨walks, rfl, mem_walks_iff⟩ := exists_walks_of_start sound succeeded
  have empty : AreWalks task (#[] : Array (Walk α)) := by
    intro index walk impossible
    simp at impossible
  apply AreWalks.offer_all empty
  intro walk member
  obtain ⟨first, road, leaves, isWalk⟩ := (mem_walks_iff walk).mp member
  obtain ⟨step, _, same⟩ := Attempt.bind_eq_ok_iff.mp isWalk
  cases same
  exact {
    passable := sound.passable_of_leavesOnto leaves
    starts := fun _ => leaves
    continues := fun impossible => nomatch impossible }

/-- A search can always be started. -/
theorem exists_start
    (sound : task.IsSound source target common climb descent)
    (hasLines : task.HasLines) :
    ∃ progress, task.start = .ok progress := by
  obtain ⟨allowed, allows, climbed, isStart⟩ := sound.exists_start_eq
  have each :
      ∀ first ∈ allowed, ∃ walks, task.firstWalks (climb + 1) first = .ok walks := by
    intro first isAllowed
    obtain ⟨roads, listed⟩ :=
      sound.tree.exists_exitRoads sound.checked.sourceFound first (climb + 1)
    have steps :
        ∀ entry ∈ roads, ∃ walk, task.firstWalk first entry.2 = .ok walk := by
      rintro ⟨number, road⟩ member
      have leaves : task.graph.LeavesOnto task.ends.common task.ends.source first road :=
        ⟨allowed, climb + 1, roads, allows, isAllowed, climbed, listed,
          List.mem_map.mpr ⟨_, member, rfl⟩⟩
      obtain ⟨step, isStep⟩ :=
        exists_stepOnto hasLines (sound.passable_of_leavesOnto leaves).1 task.source
      exact ⟨_, by rw [Task.firstWalk, isStep]; rfl⟩
    obtain ⟨walks, walksFound⟩ := Attempt.exists_mapM_eq_ok steps
    exact ⟨walks, Attempt.bind_eq_ok_iff.mpr
      ⟨roads, Attempt.ofGraph_eq_ok_iff.mpr listed, walksFound⟩⟩
  obtain ⟨lists, listsFound⟩ := Attempt.exists_mapM_eq_ok each
  rw [isStart]
  exact ⟨_, Attempt.bind_eq_ok_iff.mpr ⟨lists, listsFound, rfl⟩⟩

/-- A search always comes to an answer. -/
theorem exists_search
    (sound : task.IsSound source target common climb descent)
    (hasLines : task.HasLines)
    {turns : Nat}
    {progress : Progress α}
    (areWalks : AreWalks task progress.walks) :
    ∃ answer, task.search turns progress = .ok answer := by
  induction turns generalizing progress with
  | zero =>
      exact ⟨none, rfl⟩
  | succ turns inductionHypothesis =>
      rw [Task.search]
      cases turned : task.turn? progress progress.queue with
      | none =>
          exact ⟨none, rfl⟩
      | some turn =>
          have isTurn := isTurn_of_turn? turned
          cases turn with
          | arrived index walk exit =>
              exact ⟨_, rfl⟩
          | proceed index walk rest =>
              dsimp only
              split
              · exact ⟨none, rfl⟩
              · have expanded :
                    ∃ next, task.expand { progress with queue := rest } index walk = .ok next := by
                  rw [Task.expand]
                  split
                  · exact ⟨_, rfl⟩
                  · obtain ⟨steps, stepsFound⟩ :=
                      exists_nextSteps sound hasLines (areWalks index walk isTurn).1.passable
                    exact ⟨_, by rw [stepsFound]; rfl⟩
                obtain ⟨next, isNext⟩ := expanded
                obtain ⟨answer, answered⟩ :=
                  inductionHypothesis (areWalks_expand sound isNext areWalks isTurn)
                exact ⟨answer, Attempt.bind_eq_ok_iff.mpr ⟨next, isNext, answered⟩⟩

/-- A run always comes to an answer. -/
theorem exists_run
    (sound : task.IsSound source target common climb descent)
    (hasLines : task.HasLines) :
    ∃ answer, task.run = .ok answer := by
  obtain ⟨progress, started⟩ := exists_start sound hasLines
  obtain ⟨answer, answered⟩ :=
    exists_search sound hasLines (areWalks_start sound started)
  exact ⟨answer, Attempt.bind_eq_ok_iff.mpr ⟨progress, started, answered⟩⟩

end Search

end BoxDiagram
