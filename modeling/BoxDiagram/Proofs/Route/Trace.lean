import BoxDiagram.Proofs.Route.Planner

namespace BoxDiagram

/-!
# Walks traced back

Each walk of a search starts at the source or goes on from an earlier one by one step, so
that it can be traced back through earlier and earlier walks to one that starts there.  The
roads of a route are those of the walks on such a trace.
-/

namespace Search

variable
  {α : Type} [Scalar α]
  {task : Task α}
  {progress : Progress α}
  {walks : Array (Walk α)}
  {walk other : Walk α}
  {turns index : Nat}

/-- A walk is one of those with which a search starts. -/
def Walk.IsFirst (task : Task α) (walk : Walk α) : Prop :=
  ∃ first road, task.graph.LeavesOnto task.ends.common task.ends.source first road ∧
    task.firstWalk first road = .ok walk

/-- A walk goes on by one step from another one at a place, which may have another road. -/
def Walk.GoesOn (walk : Walk α) (task : Task α) (parent : Nat) (earlier : Walk α) : Prop :=
  earlier.roads < maxRoads ∧
    ∃ step, task.stepOnto earlier.point step.road = .ok step ∧
      walk = Task.continued parent earlier step

/-- A walk of a search comes from nothing or from a walk that the search has kept. -/
inductive Walk.Comes (task : Task α) (walks : Array (Walk α)) (walk : Walk α) : Prop where
  | first (isFirst : walk.IsFirst task)
  | next
      {parent : Nat}
      {earlier : Walk α}
      (isEarlier : walks[parent]? = some earlier)
      (goesOn : walk.GoesOn task parent earlier)

theorem Walk.IsFirst.parent_eq
    (isFirst : walk.IsFirst task) :
    walk.parent = none ∧ walk.roads = 1 := by
  obtain ⟨first, road, _, isWalk⟩ := isFirst
  obtain ⟨step, _, same⟩ := Attempt.bind_eq_ok_iff.mp isWalk
  cases same
  exact ⟨rfl, rfl⟩

/-- An offer forgets no walk. -/
theorem getElem?_offer
    (isWalk : progress.walks[index]? = some walk)
    (other : Walk α) :
    (task.offer progress other).walks[index]? = some walk := by
  rcases offer_eq_or_keep task progress other with passedOver | kept
  · rwa [passedOver]
  · rw [kept]
    exact getElem?_push_of_some isWalk other

section Keeps

variable {source target common : Node α} {climb descent : Nat}

/-- What every offer keeps is kept by several ones. -/
theorem keeps_offer_all
    {holds : Progress α → Prop}
    {offered : List (Walk α)}
    (atStart : holds progress)
    (offers :
      ∀ {progress walk}, holds progress → task.graph.HasRoad walk.road →
        walk.Comes task progress.walks → holds (task.offer progress walk))
    (come : ∀ walk ∈ offered, task.graph.HasRoad walk.road ∧ walk.Comes task progress.walks) :
    holds (offered.foldl task.offer progress) := by
  induction offered generalizing progress with
  | nil =>
      exact atStart
  | cons walk rest inductionHypothesis =>
      obtain ⟨⟨hasRoad, comes⟩, come⟩ := List.forall_mem_cons.mp come
      refine inductionHypothesis (offers atStart hasRoad comes) fun other member => ?_
      obtain ⟨otherRoad, otherComes⟩ := come other member
      refine ⟨otherRoad, ?_⟩
      cases otherComes with
      | first isFirst =>
          exact .first isFirst
      | next isEarlier goesOn =>
          exact .next (getElem?_offer isEarlier walk) goesOn

/-- What holds at first and is kept by every offer holds of all that a run reaches. -/
theorem Task.Reaches.keeps
    (holds : Progress α → Prop)
    (sound : task.IsSound source target common climb descent)
    (reached : task.Reaches turns progress)
    (atStart : holds ⟨#[], [], .ofGraph task.graph none⟩)
    (drops : ∀ {progress rest}, holds progress → holds { progress with queue := rest })
    (offers :
      ∀ {progress walk}, holds progress → task.graph.HasRoad walk.road →
        walk.Comes task progress.walks → holds (task.offer progress walk)) :
    holds progress := by
  induction reached with
  | start started =>
      obtain ⟨walks, rfl, mem_walks_iff⟩ := exists_walks_of_start sound started
      refine keeps_offer_all atStart offers fun walk member => ?_
      obtain ⟨first, road, leaves, isWalk⟩ := (mem_walks_iff walk).mp member
      refine ⟨?_, .first ⟨first, road, leaves, isWalk⟩⟩
      obtain ⟨step, _, same⟩ := Attempt.bind_eq_ok_iff.mp isWalk
      cases same
      exact (sound.passable_of_leavesOnto leaves).1
  | @proceed _ index before _ walk rest earlier turned _ expanded inductionHypothesis =>
      have isWalk : before.walks[index]? = some walk := isTurn_of_turn? turned
      rw [Task.expand] at expanded
      split at expanded
      · cases expanded
        exact drops inductionHypothesis
      · rename_i short
        obtain ⟨steps, stepsFound, same⟩ := Attempt.bind_eq_ok_iff.mp expanded
        cases same
        have passable := (earlier.areWalks sound index walk isWalk).1.passable
        have areTurns := turns_of_nextSteps sound passable stepsFound
        refine keeps_offer_all (drops inductionHypothesis) offers fun other member => ?_
        obtain ⟨step, stepMember, rfl⟩ := List.mem_map.mp member
        obtain ⟨_, _, _, isStep⟩ := exists_nextRoads_of_mem_nextSteps stepsFound stepMember
        exact ⟨(areTurns step stepMember).2.1,
          .next isWalk ⟨Nat.lt_of_not_le short, step, isStep, rfl⟩⟩

end Keeps

/--
The walks from a walk at a place back to one with which the search starts: each stands
earlier than the one that goes on from it.
-/
inductive Task.Traces (task : Task α) (walks : Array (Walk α)) : Nat → List (Walk α) → Prop where
  | first
      {index : Nat}
      {walk : Walk α}
      (isWalk : walks[index]? = some walk)
      (isFirst : walk.IsFirst task) :
      Traces task walks index [walk]
  | next
      {index parent : Nat}
      {walk earlier : Walk α}
      {rest : List (Walk α)}
      (isWalk : walks[index]? = some walk)
      (goesOn : walk.GoesOn task parent earlier)
      (before : parent < index)
      (traced : Traces task walks parent (earlier :: rest)) :
      Traces task walks index (walk :: earlier :: rest)

namespace Task.Traces

variable {trace rest : List (Walk α)}

/-- A trace stays one when walks are added. -/
theorem push
    (traces : task.Traces walks index trace)
    (other : Walk α) :
    task.Traces (walks.push other) index trace := by
  induction traces with
  | first isWalk isFirst =>
      exact .first (getElem?_push_of_some isWalk other) isFirst
  | next isWalk goesOn before _ inductionHypothesis =>
      exact .next (getElem?_push_of_some isWalk other) goesOn before inductionHypothesis

/-- The walks of a trace stand at its place or before. -/
theorem exists_place
    (traces : task.Traces walks index trace)
    (member : other ∈ trace) :
    ∃ place, place ≤ index ∧ walks[place]? = some other := by
  induction traces with
  | first isWalk _ =>
      obtain rfl := List.mem_singleton.mp member
      exact ⟨_, Nat.le_refl _, isWalk⟩
  | next isWalk _ before _ inductionHypothesis =>
      rcases List.mem_cons.mp member with rfl | isEarlier
      · exact ⟨_, Nat.le_refl _, isWalk⟩
      · obtain ⟨place, notAfter, isThere⟩ := inductionHypothesis isEarlier
        exact ⟨place, by omega, isThere⟩

/-- A walk has as many roads as walks are traced back from it, and not too many. -/
theorem length_eq
    (traces : task.Traces walks index (walk :: rest)) :
    (walk :: rest).length = walk.roads ∧ walk.roads ≤ maxRoads := by
  generalize isTrace : walk :: rest = trace at traces
  induction traces generalizing walk rest with
  | first _ isFirst =>
      cases isTrace
      rw [isFirst.parent_eq.2]
      exact ⟨rfl, by decide⟩
  | next _ goesOn _ _ inductionHypothesis =>
      cases isTrace
      obtain ⟨counted, _⟩ := inductionHypothesis rfl
      obtain ⟨short, step, _, rfl⟩ := goesOn
      exact ⟨congrArg (· + 1) counted, short⟩

/-- The roads that are read back from a walk are those of its trace. -/
theorem roadsBack_eq
    {count : Nat}
    (traces : task.Traces walks index trace)
    (enough : index < count) :
    Task.roadsBack walks count (some index) = trace.map (·.road) := by
  induction traces generalizing count with
  | first isWalk isFirst =>
      obtain ⟨count, rfl⟩ := Nat.exists_eq_succ_of_ne_zero (Nat.ne_zero_of_lt enough)
      simp only [Task.roadsBack, isWalk, isFirst.parent_eq.1]
      cases count <;> rfl
  | next isWalk goesOn before _ inductionHypothesis =>
      obtain ⟨count, rfl⟩ := Nat.exists_eq_succ_of_ne_zero (Nat.ne_zero_of_lt enough)
      obtain ⟨_, step, _, rfl⟩ := goesOn
      simp only [Task.roadsBack, isWalk, Task.continued]
      rw [inductionHypothesis (by omega)]
      rfl

end Task.Traces

/-- Every walk of a search has a trace. -/
def AreTraced (task : Task α) (walks : Array (Walk α)) : Prop :=
  ∀ (index : Nat) (walk : Walk α), walks[index]? = some walk →
    ∃ rest, task.Traces walks index (walk :: rest)

/-- A walk that comes from one of the walks is traced over it. -/
theorem AreTraced.exists_traces
    (traced : AreTraced task walks)
    (comes : walk.Comes task walks) :
    ∃ rest, task.Traces (walks.push walk) walks.size (walk :: rest) := by
  cases comes with
  | first isFirst =>
      exact ⟨[], .first Array.getElem?_push_size isFirst⟩
  | next isEarlier goesOn =>
      obtain ⟨rest, traces⟩ := traced _ _ isEarlier
      exact ⟨_, .next Array.getElem?_push_size goesOn (Array.getElem?_eq_some_iff.mp isEarlier).1
        (traces.push walk)⟩

/-- Walks stay traced with one that comes from them. -/
theorem AreTraced.offer
    (traced : AreTraced task progress.walks)
    (comes : walk.Comes task progress.walks) :
    AreTraced task (task.offer progress walk).walks := by
  rcases offer_eq_or_keep task progress walk with passedOver | kept
  · rwa [passedOver]
  · rw [kept]
    intro index other isOther
    rcases eq_or_getElem?_of_push isOther with ⟨rfl, rfl⟩ | isOld
    · exact traced.exists_traces comes
    · obtain ⟨rest, traces⟩ := traced _ _ isOld
      exact ⟨rest, traces.push walk⟩

theorem areTraced_empty :
    AreTraced task #[] := by
  intro index walk impossible
  simp at impossible

/-- A route that a search finds goes over the roads of a trace, from its start to a goal. -/
theorem exists_traces_of_run
    {source target common : Node α}
    {climb descent : Nat}
    {route : Route}
    (sound : task.IsSound source target common climb descent)
    (succeeded : task.run = .ok (some route)) :
    ∃ turns progress index walk exit rest,
      task.Reaches (turns + 1) progress ∧
        task.turn? progress progress.queue = some (.arrived index walk exit) ∧
          task.Traces progress.walks index (walk :: rest) ∧
            route.roads = ((walk :: rest).map (·.road)).reverse ∧
              (walk :: rest).length ≤ maxRoads := by
  generalize isAnswer : some route = answer at succeeded
  cases Task.endsWith_of_run succeeded with
  | exhausted =>
      cases isAnswer
  | stopped =>
      cases isAnswer
  | @arrived turns index progress walk exit reached turned =>
      cases isAnswer
      have isWalk := (isTurn_of_turn? turned).1
      have traced : AreTraced task progress.walks :=
        reached.keeps (fun progress => AreTraced task progress.walks) sound areTraced_empty id
          fun traced _ comes => traced.offer comes
      obtain ⟨rest, traces⟩ := traced _ _ isWalk
      obtain ⟨counted, few⟩ := traces.length_eq
      have isBack := traces.roadsBack_eq (Array.getElem?_eq_some_iff.mp isWalk).1
      refine ⟨_, progress, index, walk, exit, rest, reached, turned, traces, ?_,
        counted.le.trans few⟩
      rw [Task.route, isBack, LinkEnds.roads_route]

end Search

end BoxDiagram
