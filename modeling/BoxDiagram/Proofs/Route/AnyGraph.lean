import BoxDiagram.Number.Exact
import BoxDiagram.Proofs.Route.Counted
import BoxDiagram.Proofs.Route.Topological
import Mathlib.Algebra.Group.Nat.Defs

namespace BoxDiagram

open Attempt (Ends FailsOnly)

/-!
# Planning in any graph

Planning in a graph that was accepted looks up nothing that is not there, whatever its boxes
say about each other, and fails with a code of routing or of broken promises.  Only where the
chains of ancestors contradict each other can a climb be asked to go above its end.

Numbers of roads and scores are counted in machine words.  Boxes say themselves where they
stand among their siblings; the last place that can be counted has no road after it.  As long
as the places of boxes and their chains leave room for the sums, all sums are those of words.
-/

variable {α : Type} {graph : Graph α}

/-! ## Roads of accepted graphs -/

namespace Graph

/-- A box of the graph can be named. -/
theorem displayName_eq
    {id : NodeId}
    {node : Node α}
    (found : graph.get? id = some node) :
    graph.displayName id = .ok node.displayName := by
  rw [displayName, find_eq_ok_iff.mpr found]
  rfl

namespace IsClosed

variable {id : NodeId} {node : Node α}

/-- What lies next to a box can be told. -/
theorem exists_adjacentRoad
    (closed : graph.IsClosed)
    (found : graph.get? id = some node)
    (direction : Direction) :
    ∃ road, graph.adjacentRoad id direction = .ok road := by
  rw [adjacentRoad, find_eq_ok_iff.mpr found, Attempt.ok_bind]
  cases isParent : node.parent with
  | none =>
      exact ⟨none, rfl⟩
  | some parent =>
      obtain ⟨holder, holderFound⟩ := closed.exists_parent found isParent
      dsimp only
      rw [find_eq_ok_iff.mpr holderFound, Attempt.ok_bind]
      split <;> exact ⟨_, rfl⟩

/-- The roads that a box reaches without passing another one can be told. -/
theorem exists_exitRoads
    (closed : graph.IsClosed)
    (found : graph.get? id = some node)
    (direction : Direction)
    (ceiling : Nat) :
    ∃ exits, graph.exitRoads id direction ceiling = .ok exits := by
  have met :
      ∀ entry ∈ (node.outward.take (min (node.boundary.toward direction) ceiling)).zipIdx 1,
        ∃ meeting, graph.adjacentRoadAt direction entry.1 entry.2 = .ok meeting := by
    rintro ⟨below, number⟩ member
    obtain ⟨level, _, _, atLevel⟩ := mem_take_zipIdx_one_iff.mp member
    obtain ⟨holder, holderFound, _⟩ := closed.exists_outward found atLevel
    obtain ⟨road, adjacent⟩ := closed.exists_adjacentRoad holderFound direction
    exact ⟨_, Attempt.bind_eq_ok_iff.mpr ⟨road, adjacent, rfl⟩⟩
  obtain ⟨meetings, succeed⟩ := Attempt.exists_mapM_eq_ok met
  rw [exitRoads, find_eq_ok_iff.mpr found, Attempt.ok_bind]
  exact ⟨meetings.reduceOption, Attempt.bind_eq_ok_iff.mpr ⟨meetings, succeed, rfl⟩⟩

/-- Whether an end of a link reaches a road can be told. -/
theorem exists_reaches
    (closed : graph.IsClosed)
    {endpoint : Endpoint}
    (found : graph.get? endpoint.node = some node)
    (road : Road) :
    ∃ answer, graph.reaches endpoint.node road endpoint.edge = .ok answer := by
  obtain ⟨allowed, allows, _⟩ := LinkEnds.exists_allowedExits found
  rw [reaches, allows, Attempt.ok_bind]
  apply Attempt.exists_anyM_eq_ok
  intro direction _
  obtain ⟨exits, listed⟩ := closed.exists_exitRoads found direction node.depth
  exact ⟨_, LinkEnds.leadsTo_eq found listed road⟩

end IsClosed

end Graph

namespace Topological

/--
Why planning gives up: for a reason of routing or a broken promise with its code, or, where
chains of ancestors contradict each other, because a climb would pass its end.
-/
inductive Refuses (graph : Graph α) : Failure → Prop where
  | stage
      {code : StageCode}
      (isStage : code.stage = .route ∨ code.stage = .invariant)
      (message : String) :
      Refuses graph (.stage code message)
  | aboveRoot
      (disagree : ¬ graph.ChainsAgree)
      (id : NodeId) :
      Refuses graph (.fault (.aboveRoot id))

end Topological

open Topological (Refuses)

/-! ## Numbers of roads -/

namespace Graph

/-- Places and depths of boxes leave room in a word for what planning adds to them. -/
structure IsCountable (graph : Graph α) : Prop where
  index_lt : ∀ {id node}, graph.get? id = some node → node.index + 1 < 2 ^ 31
  depth_lt : ∀ {id node}, graph.get? id = some node → node.depth < 2 ^ 26

namespace IsCountable

/-- A road next to a box is numbered by the place of the box or the next one. -/
theorem avenue_lt
    {road : Road}
    (countable : graph.IsCountable)
    (isAdjacent : graph.IsAdjacent road) :
    road.avenue < 2 ^ 31 := by
  obtain ⟨id, direction, adjacent⟩ := isAdjacent
  rw [adjacentRoad] at adjacent
  obtain ⟨node, found, adjacent⟩ := Attempt.bind_eq_ok_iff.mp adjacent
  have small := countable.index_lt (find_eq_ok_iff.mp found)
  split at adjacent
  · cases adjacent
  · obtain ⟨holder, _, adjacent⟩ := Attempt.bind_eq_ok_iff.mp adjacent
    split at adjacent <;> cases adjacent <;> simp only [Road.main, Road.cross] <;> omega

/-- A road between two others is numbered by the place of a box or the next one. -/
theorem avenue_lt_of_connector
    {branches : Topological.Branches}
    {road between : Road}
    (countable : graph.IsCountable)
    (isConnector : Topological.connector graph branches road = .ok between) :
    between.avenue < 2 ^ 31 := by
  rw [Topological.connector] at isConnector
  split at isConnector
  · cases isConnector
    simp only [Road.cross]
    split <;> omega
  · obtain ⟨source, found, isConnector⟩ := Attempt.bind_eq_ok_iff.mp isConnector
    obtain ⟨target, _, same⟩ := Attempt.bind_eq_ok_iff.mp isConnector
    have small := countable.index_lt (find_eq_ok_iff.mp found)
    cases same
    simp only [Road.main]
    split <;> omega

end IsCountable

end Graph

/-! ## Climbs -/

namespace Climb

variable {frame : Frame α} {id : NodeId} {node : Node α}

/-- A climb comes to a box, less deep by the levels climbed if chains agree. -/
theorem ends_ancestor
    (closed : frame.graph.IsClosed)
    (found : frame.graph.get? id = some node)
    (level : Nat) :
    Ends
      (fun outer => ∃ holder, frame.graph.get? outer = some holder ∧
        (frame.graph.ChainsAgree → holder.depth + level = node.depth))
      (Refuses frame.graph) (ancestor frame id level) := by
  rw [ancestor, Graph.ancestorAt_eq_outward found (closed.id_eq found)]
  cases isOutward : node.outward[level]? with
  | some outer =>
      exact .ok (closed.exists_outward found isOutward)
  | none =>
      simp only [Graph.displayName_eq found]
      exact .error (.stage (.inr rfl) _)

/-- A road is met at each level above a box that is not its own. -/
theorem ends_roadAt
    (closed : frame.graph.IsClosed)
    (found : frame.graph.get? id = some node)
    {level : Nat}
    (isAbove : frame.graph.ChainsAgree → 0 < level)
    (direction : Direction) :
    Ends frame.graph.IsAdjacent (Refuses frame.graph) (roadAt frame id level direction) := by
  rw [roadAt]
  by_cases isOwn : level = 0
  · rw [if_pos isOwn]
    exact .error (.aboveRoot (fun agree => absurd isOwn (Nat.ne_of_gt (isAbove agree))) id)
  · rw [if_neg isOwn]
    refine (ends_ancestor closed found (level - 1)).bind ?_
    rintro below ⟨holder, holderFound, _⟩
    obtain ⟨road, adjacent⟩ := closed.exists_adjacentRoad holderFound direction
    rw [adjacent]
    cases road with
    | some road =>
        exact .ok ⟨below, direction, adjacent⟩
    | none =>
        simp only [Graph.displayName_eq holderFound]
        exact .error (.stage (.inr rfl) _)

/-- What a climb gives: short ways, and a memory of short ways. -/
def AreFound (frame : Frame α) (levels : Nat) (result : Ways × Memory) : Prop :=
  result.1.AreShort frame levels ∧ result.2.IsShort frame

/-- Turns to several sides give up only where one of them does. -/
theorem ends_turns
    {turns levels inner : Nat}
    {sides : List Direction}
    {head : Option Road}
    {start : Ways × Memory}
    (each :
      ∀ side ∈ sides, ∀ memory, Memory.IsShort frame memory →
        Ends (AreFound frame inner) (Refuses frame.graph) (ways frame turns id side memory))
    (headAdjacent : ∀ road ∈ head, frame.graph.IsAdjacent road)
    (enough : frame.graph.ChainsAgree → inner + head.toList.length ≤ levels)
    (atStart : AreFound frame levels start) :
    Ends (AreFound frame levels) (Refuses frame.graph)
      (sides.foldlM
        (fun (reached : Ways × Memory) side => do
          let (found, remembered) ← ways frame turns id side reached.2
          return (reached.1.improve head found, remembered))
        start) := by
  refine .foldlM atStart fun side member reached ⟨reachedShort, memoryShort⟩ => ?_
  refine (each side member reached.2 memoryShort).bind ?_
  rintro ⟨found, remembered⟩ ⟨foundShort, rememberedShort⟩
  exact .ok ⟨reachedShort.improve foundShort headAdjacent enough, rememberedShort⟩

/-- A search for climbs from below the last level gives up only for a reason. -/
theorem ends_ways
    (closed : frame.graph.IsClosed)
    (turns : Nat)
    (found : frame.graph.get? id = some node)
    (deep : frame.graph.ChainsAgree → frame.top < node.depth)
    (direction : Direction)
    {memory : Memory}
    (memoryShort : memory.IsShort frame) :
    Ends (AreFound frame (node.depth - frame.top)) (Refuses frame.graph)
      (ways frame turns id direction memory) := by
  induction turns generalizing id node direction memory with
  | zero =>
      rw [ways, tooManyTurns, Graph.displayName_eq found]
      exact .error (.stage (.inl rfl) _)
  | succ turns inductionHypothesis =>
      rw [ways]
      cases isRemembered : memory.lookup (id, direction) with
      | some earlier =>
          exact .ok ⟨memoryShort isRemembered found, memoryShort⟩
      | none =>
          rw [Graph.find_eq_ok_iff.mpr found]
          simp only [Attempt.ofGraph_ok, Attempt.ok_bind]
          by_cases isBelow : node.depth < frame.top
          · rw [if_pos isBelow]
            exact .error
              (.aboveRoot (fun agree => absurd isBelow (Nat.not_lt_of_gt (deep agree))) id)
          rw [if_neg isBelow]
          by_cases isClear : node.depth - frame.top ≤ node.boundary.toward direction
          · rw [if_pos isClear]
            have isAbove (agree : frame.graph.ChainsAgree) : 0 < node.depth - frame.top :=
              Nat.sub_pos_of_lt (deep agree)
            refine (ends_roadAt closed found isAbove direction).bind fun road isAdjacent => ?_
            have areShort := Ways.areShort_single isAdjacent isAbove direction
            exact .ok ⟨areShort, memoryShort.cons found areShort direction⟩
          rw [if_neg isClear]
          -- The boundary lies below the last level, so that the turn starts below it as well.
          have turned
              {head : Option Road}
              (headAdjacent : ∀ road ∈ head, frame.graph.IsAdjacent road)
              (isMet : head.toList.length ≤ node.boundary.toward direction) :
              Ends (AreFound frame (node.depth - frame.top)) (Refuses frame.graph) (do
                let holder ← ancestor frame id (node.boundary.toward direction)
                let (found, remembered) ← direction.perpendicular.foldlM
                  (fun (reached : Ways × Memory) side => do
                    let (found, remembered) ← ways frame turns holder side reached.2
                    return (reached.1.improve head found, remembered))
                  (PerDirection.replicate none, memory)
                return (found, ((id, direction), found) :: remembered)) := by
            refine (ends_ancestor closed found _).bind ?_
            rintro holder ⟨outer, outerFound, depths⟩
            have outerDeep (agree : frame.graph.ChainsAgree) : frame.top < outer.depth := by
              have isDeep := deep agree
              have sameDepth := depths agree
              omega
            have enough (agree : frame.graph.ChainsAgree) :
                outer.depth - frame.top + head.toList.length ≤ node.depth - frame.top := by
              have isDeep := outerDeep agree
              have sameDepth := depths agree
              omega
            refine (ends_turns (fun side _ _ => inductionHypothesis outerFound outerDeep side)
              headAdjacent enough ⟨Ways.areShort_none, memoryShort⟩).bind ?_
            rintro ⟨found', remembered⟩ ⟨foundShort, rememberedShort⟩
            exact .ok ⟨foundShort, rememberedShort.cons found foundShort direction⟩
          by_cases hasRoad : 1 ≤ node.boundary.toward direction
          · rw [if_pos hasRoad]
            have met :
                Ends (fun head : Option Road => ∃ road, head = some road ∧
                    frame.graph.IsAdjacent road) (Refuses frame.graph)
                  (some <$> roadAt frame id (node.boundary.toward direction) direction) :=
              (ends_roadAt closed found (fun _ => hasRoad) direction).map
                fun road isAdjacent => ⟨road, rfl, isAdjacent⟩
            refine met.bind ?_
            rintro _ ⟨road, rfl, isAdjacent⟩
            exact turned (fun _ isHead => Option.some.inj isHead ▸ isAdjacent) hasRoad
          · rw [if_neg hasRoad]
            exact turned (fun _ isNone => by cases isNone) (Nat.zero_le _)

/-- The search for the stubs of an end gives up only for a reason. -/
theorem ends_stubs
    (closed : frame.graph.IsClosed)
    {endpoint : Endpoint}
    (found : frame.graph.get? endpoint.node = some node)
    (deep : frame.graph.ChainsAgree → frame.top < node.depth)
    {memory : Memory}
    (memoryShort : memory.IsShort frame) :
    Ends
      (fun result => (∀ stub ∈ result.1,
          IsShort frame (node.depth - frame.top) (stub.before, stub.lastRoad)) ∧
        result.2.IsShort frame)
      (Refuses frame.graph) (stubs frame endpoint memory) := by
  obtain ⟨allowed, allows, _⟩ := LinkEnds.exists_allowedExits found
  rw [stubs, allows]
  have left :
      Ends
        (fun result => AreShortStubs frame (node.depth - frame.top) result.1 ∧
          result.2.IsShort frame)
        (Refuses frame.graph)
        (allowed.foldlM
          (fun (reached : PerDirection (Option Stub) × Memory) first => do
            let (found, remembered) ← ways frame (frame.limit + 1) endpoint.node first reached.2
            return (improveStubs reached.1 first found, remembered))
          (.replicate none, memory)) := by
    refine .foldlM ⟨areShortStubs_none, memoryShort⟩ ?_
    rintro first _ reached ⟨bestShort, reachedShort⟩
    refine (ends_ways closed _ found deep first reachedShort).bind ?_
    rintro ⟨ways, remembered⟩ ⟨waysShort, rememberedShort⟩
    exact .ok ⟨bestShort.improve waysShort first, rememberedShort⟩
  refine left.bind ?_
  rintro ⟨best, remembered⟩ ⟨bestShort, rememberedShort⟩
  exact .ok ⟨fun stub member => bestShort.of_mem member, rememberedShort⟩

end Climb

/-! ## Links -/

namespace Topological

/--
The ends of a link are boxes of a graph, as is the container found for them; if chains
agree, it lies around both.
-/
structure AreFound (graph : Graph α) (ends : LinkEnds) (source target common : Node α) :
    Prop where
  sourceFound : graph.get? ends.source.node = some source
  targetFound : graph.get? ends.target.node = some target
  commonFound : graph.get? ends.common = some common
  sourceDeep : graph.ChainsAgree → common.depth < source.depth
  targetDeep : graph.ChainsAgree → common.depth < target.depth

variable {ends : LinkEnds} {source target common : Node α}

/-- An end of a link is a box of the graph, or the link is refused. -/
theorem ends_checkEndpoint
    (id : LinkId)
    (endpoint : Endpoint) :
    Ends (fun _ => ∃ node, graph.get? endpoint.node = some node) (Refuses graph)
      (LinkEnds.checkEndpoint graph id endpoint) := by
  rw [LinkEnds.checkEndpoint]
  cases found : graph.get? endpoint.node with
  | some node =>
      exact .ok ⟨node, rfl⟩
  | none =>
      exact .error (.stage (.inr rfl) _)

/-- The check before planning refers to no box that is not there. -/
theorem ends_ofLink
    (closed : graph.IsClosed)
    (id : LinkId)
    (link : Link) :
    Ends (fun ends => ∃ source target common, AreFound graph ends source target common)
      (Refuses graph) (LinkEnds.ofLink graph id link) := by
  rw [LinkEnds.ofLink]
  refine (ends_checkEndpoint id link.source).bind ?_
  rintro _ ⟨source, sourceFound⟩
  refine (ends_checkEndpoint id link.target).bind ?_
  rintro _ ⟨target, targetFound⟩
  dsimp only
  rw [Graph.isRelated_eq sourceFound targetFound (closed.id_eq sourceFound)
    (closed.id_eq targetFound), Graph.displayName_eq sourceFound,
    Graph.displayName_eq targetFound, Graph.commonAncestor_eq sourceFound targetFound]
  cases source.isRelatedTo target with
  | true =>
      exact .error (.stage (.inl rfl) _)
  | false =>
      cases isCommon : source.ancestors.reverse.find? target.ancestors.contains with
      | none =>
          exact .error (.stage (.inr rfl) _)
      | some common =>
          have aboveSource : common ∈ source.ancestors :=
            List.mem_reverse.mp (List.mem_of_find?_eq_some isCommon)
          have aboveTarget : common ∈ target.ancestors := by
            simpa using List.find?_some isCommon
          obtain ⟨container, containerFound⟩ :=
            closed.related sourceFound common (by simp [aboveSource])
          refine .ok ⟨source, target, container, sourceFound, targetFound, containerFound, ?_, ?_⟩
          · exact fun agree => agree.depth_lt sourceFound aboveSource containerFound
          · exact fun agree => agree.depth_lt targetFound aboveTarget containerFound

/-- Below the common container of a link there is a box on the way to each of its ends. -/
theorem ends_branch
    (closed : graph.IsClosed)
    {id : NodeId}
    {node : Node α}
    (found : graph.get? id = some node)
    (commonFound : graph.get? ends.common = some common)
    (deep : graph.ChainsAgree → common.depth < node.depth) :
    Ends (fun child => ∃ holder, graph.get? child = some holder) (Refuses graph)
      (branch graph ends id) := by
  have climbed :
      graph.climb ends.common id =
        if common.depth ≤ node.depth then .ok (node.depth - common.depth)
        else .error (.aboveRoot id) := by
    rw [Graph.climb, Graph.find_eq_ok_iff.mpr found, Graph.find_eq_ok_iff.mpr commonFound]
    rfl
  rw [branch, climbed]
  by_cases isAbove : common.depth ≤ node.depth
  · rw [if_pos isAbove, Attempt.ofGraph_ok, Attempt.ok_bind,
      Graph.ancestorAt_eq_outward found (closed.id_eq found), Attempt.ofGraph_ok, Attempt.ok_bind]
    cases isOutward : node.outward[node.depth - common.depth - 1]? with
    | some child =>
        obtain ⟨holder, holderFound, _⟩ := closed.exists_outward found isOutward
        exact .ok ⟨holder, holderFound⟩
    | none =>
        exact .error (.stage (.inr rfl) _)
  · rw [if_neg isAbove]
    exact .error (.aboveRoot (fun agree => isAbove (Nat.le_of_lt (deep agree))) id)

/-- Stubs whose branches are boxes can be joined or told not to meet. -/
theorem exists_join?
    {branches : Branches}
    (sourceFound : graph.get? branches.source = some source)
    (targetFound : graph.get? branches.target = some target)
    (first last : Stub) :
    ∃ join, join? graph branches first last = .ok join := by
  have connected (road : Road) : ∃ between, connector graph branches road = .ok between := by
    rw [connector]
    cases road.axis with
    | main =>
        exact ⟨_, rfl⟩
    | cross =>
        simp only [Graph.find_eq_ok_iff.mpr sourceFound, Graph.find_eq_ok_iff.mpr targetFound,
          Attempt.ok_bind]
        exact ⟨_, rfl⟩
  rw [join?]
  dsimp only
  split
  · exact ⟨_, rfl⟩
  split
  · exact ⟨_, rfl⟩
  split
  · exact ⟨_, rfl⟩
  · obtain ⟨between, isBetween⟩ := connected first.lastRoad
    rw [isBetween]
    exact ⟨_, rfl⟩

/-- Joins are found whatever the chains of ancestors say. -/
theorem exists_joins_of_found
    {branches : Branches}
    (sourceFound : graph.get? branches.source = some source)
    (targetFound : graph.get? branches.target = some target)
    (sources targets : List Stub) :
    ∃ found, joins graph branches sources targets = .ok found := by
  have rows :
      ∀ first ∈ sources, ∃ row, targets.mapM (join? graph branches first) = .ok row := by
    intro first _
    apply Attempt.exists_mapM_eq_ok
    intro last _
    exact exists_join? sourceFound targetFound first last
  obtain ⟨table, tabled⟩ := Attempt.exists_mapM_eq_ok rows
  exact ⟨_, Attempt.bind_eq_ok_iff.mpr ⟨table, tabled, rfl⟩⟩

/-- The roads of a join can be counted in words, as can its penalty. -/
structure IsCountedJoin (graph : Graph α) (join : Join) : Prop where
  avenue_lt : ∀ road ∈ join.roads, road.avenue < 2 ^ 31
  length_lt : graph.ChainsAgree → join.roads.length < 2 ^ 27
  penalty_lt : join.penalty < 2 ^ 31 + 6

/-- Joins of short stubs are counted in words if places and depths are. -/
theorem IsCountedJoin.of_join?
    {frame : Climb.Frame α}
    {branches : Branches}
    {first last : Stub}
    {join : Join}
    (countable : frame.graph.IsCountable)
    (sourceFound : frame.graph.get? ends.source.node = some source)
    (targetFound : frame.graph.get? ends.target.node = some target)
    (firstShort : Climb.IsShort frame (source.depth - frame.top) (first.before, first.lastRoad))
    (lastShort : Climb.IsShort frame (target.depth - frame.top) (last.before, last.lastRoad))
    (joined : join? frame.graph branches first last = .ok (some join)) :
    IsCountedJoin frame.graph join := by
  obtain ⟨middle, areRoads, few, areMiddle, penalty_le⟩ := exists_middle_of_join? joined
  have firstLast := countable.avenue_lt (firstShort.isAdjacent first.lastRoad (by simp))
  have lastLast := countable.avenue_lt (lastShort.isAdjacent last.lastRoad (by simp))
  constructor
  case avenue_lt =>
    rw [areRoads, List.forall_mem_append, List.forall_mem_append]
    refine ⟨⟨?_, ?_⟩, ?_⟩
    · exact fun road member => countable.avenue_lt (firstShort.isAdjacent road (by simp [member]))
    · intro road member
      rcases areMiddle road member with rfl | rfl | isConnector
      · exact firstLast
      · exact lastLast
      · exact countable.avenue_lt_of_connector isConnector
    · intro road member
      exact countable.avenue_lt
        (lastShort.isAdjacent road (by simp [List.mem_reverse.mp member]))
  case length_lt =>
    intro agree
    have firstLength := firstShort.length_lt agree
    have lastLength := lastShort.length_lt agree
    have sourceDepth := countable.depth_lt sourceFound
    have targetDepth := countable.depth_lt targetFound
    rw [areRoads, List.length_append, List.length_append, List.length_reverse]
    dsimp only at firstLength lastLength
    omega
  case penalty_lt =>
    rw [distance] at penalty_le
    omega

/-- The joins that are compared for a link are counted in words if places and depths are. -/
theorem ends_candidates
    (closed : graph.IsClosed)
    (areFound : AreFound graph ends source target common)
    (limit : Nat) :
    Ends (fun found => graph.IsCountable → ∀ join ∈ found, IsCountedJoin graph join)
      (Refuses graph) (candidates graph ends limit) := by
  rw [candidates, Graph.find_eq_ok_iff.mpr areFound.commonFound]
  simp only [Attempt.ofGraph_ok, Attempt.ok_bind]
  let frame : Climb.Frame α := ⟨graph, common.depth, limit⟩
  have leaving := Climb.ends_stubs (show frame.graph.IsClosed from closed) areFound.sourceFound
    areFound.sourceDeep Climb.Memory.isShort_nil
  refine leaving.bind ?_
  rintro ⟨sources, memory⟩ ⟨sourcesShort, memoryShort⟩
  have arriving := Climb.ends_stubs (show frame.graph.IsClosed from closed) areFound.targetFound
    areFound.targetDeep memoryShort
  refine arriving.bind ?_
  rintro ⟨targets, _⟩ ⟨targetsShort, _⟩
  refine (ends_branch closed areFound.sourceFound areFound.commonFound
    areFound.sourceDeep).bind ?_
  rintro sourceBranch ⟨sourceHolder, sourceFound⟩
  refine (ends_branch closed areFound.targetFound areFound.commonFound
    areFound.targetDeep).bind ?_
  rintro targetBranch ⟨targetHolder, targetFound⟩
  obtain ⟨found, joined⟩ :
      ∃ found, joins graph ⟨sourceBranch, targetBranch⟩ sources targets = .ok found :=
    exists_joins_of_found sourceFound targetFound sources targets
  rw [joined]
  refine .ok fun countable join member => ?_
  obtain ⟨first, isFirst, last, isLast, isJoin⟩ := (mem_joins_iff joined).mp member
  exact .of_join? (show frame.graph.IsCountable from countable) areFound.sourceFound
    areFound.targetFound (sourcesShort first isFirst) (targetsShort last isLast) isJoin

/-- The cheapest of the joins is looked for only where they are found. -/
theorem ends_bestJoin
    (closed : graph.IsClosed)
    (areFound : AreFound graph ends source target common)
    (limit : Nat) :
    Ends (fun _ => True) (Refuses graph) (bestJoin graph ends limit) :=
  (ends_candidates closed areFound limit).bind fun _ _ => .ok trivial

/-- A link is routed, or refused for a reason. -/
theorem ends_routeLink
    (closed : graph.IsClosed)
    (areFound : AreFound graph ends source target common)
    (limit : Nat) :
    Ends (fun _ => True) (Refuses graph) (routeLink graph ends limit) := by
  rw [routeLink, Graph.displayName_eq areFound.sourceFound,
    Graph.displayName_eq areFound.targetFound]
  refine (ends_bestJoin closed areFound limit).bind fun best _ => ?_
  cases best with
  | some join =>
      exact .ok trivial
  | none =>
      exact .error (.stage (.inl rfl) _)

/-- The check after planning looks at the ends of the link alone. -/
theorem ends_verify
    (closed : graph.IsClosed)
    (areFound : AreFound graph ends source target common)
    (route : Route) :
    Ends (fun _ => True) (Refuses graph) (ends.verify graph route) := by
  have reached
      {endpoint : Endpoint}
      {node : Node α}
      (found : graph.get? endpoint.node = some node)
      (road : Road)
      (which : String) :
      Ends (fun _ => True) (Refuses graph) (ends.requireReach graph endpoint road which) := by
    obtain ⟨answer, answered⟩ := closed.exists_reaches found road
    rw [LinkEnds.requireReach, answered, Graph.displayName_eq found]
    cases answer with
    | true =>
        exact .ok trivial
    | false =>
        exact .error (.stage (.inl rfl) _)
  rw [LinkEnds.verify]
  cases route.roads.head? with
  | none =>
      exact .error (.stage (.inl rfl) _)
  | some first =>
      cases route.roads.getLast? with
      | none =>
          exact .error (.stage (.inl rfl) _)
      | some last =>
          exact (reached areFound.sourceFound first "first").bind fun _ _ =>
            reached areFound.targetFound last "last"

/-- A link is planned, or refused for a reason. -/
theorem ends_planLink
    (closed : graph.IsClosed)
    (limit : Nat)
    (id : LinkId)
    (link : Link) :
    Ends (fun _ => True) (Refuses graph) (planLink graph limit id link) := by
  refine (ends_ofLink closed id link).bind ?_
  rintro ends ⟨source, target, common, areFound⟩
  refine (ends_routeLink closed areFound limit).bind fun route _ => ?_
  exact (ends_verify closed areFound route).bind fun _ _ => .ok trivial

/-- The join is one of those that are compared for one of the links. -/
def IsCompared (graph : Graph α) (limit : Nat) (links : List Link) (join : Join) : Prop :=
  ∃ link ∈ links, ∃ id ends found,
    LinkEnds.ofLink graph id link = .ok ends ∧
      candidates graph ends limit = .ok found ∧ join ∈ found

/--
What planning adds up stays within machine words: places and depths of boxes are small, and
where chains of ancestors contradict each other, so are the numbers of roads that are joined.
-/
structure FitsWords (graph : Graph α) (limit : Nat) (links : List Link) : Prop where
  countable : graph.IsCountable
  length_le :
    ¬ graph.ChainsAgree →
      ∀ join, IsCompared graph limit links join → join.roads.length ≤ 2 ^ 27

/--
No sum of planning leaves its word: neither the number of a road next to a box or between two
roads, which has 64 bits, nor the score of a join and so its penalty, which have 32.
-/
structure StaysInWords (graph : Graph α) (limit : Nat) (links : List Link) : Prop where
  adjacent : ∀ road, graph.IsAdjacent road → road.avenue < 2 ^ 64
  joined : ∀ join, IsCompared graph limit links join → ∀ road ∈ join.roads, road.avenue < 2 ^ 64
  score : ∀ join, IsCompared graph limit links join → join.score < 2 ^ 32

/-- The joins for the links of an accepted graph are counted in words if places and depths are. -/
theorem IsCompared.isCountedJoin
    {limit : Nat}
    {links : List Link}
    {join : Join}
    (isCompared : IsCompared graph limit links join)
    (closed : graph.IsClosed)
    (countable : graph.IsCountable) :
    IsCountedJoin graph join := by
  obtain ⟨link, _, id, ends, found, isLink, areCandidates, member⟩ := isCompared
  obtain ⟨source, target, common, areFound⟩ := (ends_ofLink closed id link).of_ok isLink
  exact (ends_candidates closed areFound limit).of_ok areCandidates countable join member

/-- Sums stay in their words where what boxes say leaves room. -/
theorem staysInWords
    {limit : Nat}
    {links : List Link}
    (closed : graph.IsClosed)
    (fits : FitsWords graph limit links) :
    StaysInWords graph limit links where
  adjacent road isAdjacent :=
    (fits.countable.avenue_lt isAdjacent).trans (by decide)
  joined join isCompared road member :=
    ((isCompared.isCountedJoin closed fits.countable).avenue_lt road member).trans (by decide)
  score join isCompared := by
    have isCounted := isCompared.isCountedJoin closed fits.countable
    have few : join.roads.length ≤ 2 ^ 27 := by
      by_cases agree : graph.ChainsAgree
      · exact (isCounted.length_lt agree).le
      · exact fits.length_le agree join isCompared
    have penalty_lt := isCounted.penalty_lt
    rw [Join.score]
    omega

/--
Planning the links of any accepted graph looks up no box that is not there.  It gives routes
or a reason of routing or of broken promises, unless chains of ancestors contradict each other.
The sums on the way are those of machine words as long as what boxes say fits into them.
-/
theorem failsOnly_plan
    {nodes : List (Node α)}
    {limit : Nat}
    {links : List Link}
    (accepted : Graph.ofNodes nodes = .ok graph)
    (fits : FitsWords graph limit links) :
    FailsOnly (Refuses graph) (plan graph limit links) ∧ StaysInWords graph limit links := by
  have closed := Graph.isClosed_of_ofNodes accepted
  refine ⟨.mapM ?_, staysInWords closed fits⟩
  rintro ⟨link, id⟩ _
  exact (ends_planLink closed limit id link).failsOnly

/--
Two boxes whose container refers to itself as one of its own ancestors are accepted; a climb
for a link between them passes its end.
-/
theorem exists_plan_passes_end :
    ∃ (nodes : List (Node Rat)) (graph : Graph Rat) (link : Link),
      Graph.ofNodes nodes = .ok graph ∧ FitsWords graph 9 [link] ∧
        plan graph 9 [link] = .error (.fault (.aboveRoot 1)) ∧
          FailsOnly (Refuses graph) (plan graph 9 [link]) ∧ StaysInWords graph 9 [link] := by
  let container : Node Rat :=
    { Node.detached 0 .unit with ancestors := [0, 0, 0], children := [1, 2] }
  let box (id index : Nat) : Node Rat :=
    { Node.detached id .cell with parent := some 0, ancestors := [0], index }
  let graph : Graph Rat := ⟨#[container, box 1 0, box 2 1]⟩
  let link : Link := ⟨⟨1, none⟩, ⟨2, none⟩, "-", ⟨false, true⟩, none, []⟩
  have accepted : Graph.ofNodes [container, box 1 0, box 2 1] = .ok graph := rfl
  have countable : graph.IsCountable := by
    have each : ∀ node ∈ graph.nodes.toList, node.index + 1 < 2 ^ 31 ∧ node.depth < 2 ^ 26 := by
      decide
    constructor
    · exact fun found => (each _ (Array.mem_toList_iff.mpr (Array.mem_of_getElem? found))).1
    · exact fun found => (each _ (Array.mem_toList_iff.mpr (Array.mem_of_getElem? found))).2
  have fits : FitsWords graph 9 [link] := by
    refine ⟨countable, ?_⟩
    rintro _ join ⟨other, isOther, id, ends, found, isLink, areCandidates, _⟩
    obtain rfl := List.mem_singleton.mp isOther
    cases isLink
    cases areCandidates
  exact ⟨_, graph, link, accepted, fits, rfl, failsOnly_plan accepted fits⟩

/--
A box that says it stands at the last place that can be counted is accepted; the road after it
has no number in a word.
-/
theorem exists_avenue_beyond_word :
    ∃ (nodes : List (Node Rat)) (graph : Graph Rat) (road : Road),
      Graph.ofNodes nodes = .ok graph ∧ graph.IsAdjacent road ∧ road.avenue = 2 ^ 64 := by
  let container : Node Rat := { Node.detached 0 .unit with children := [1] }
  let box : Node Rat :=
    { Node.detached 1 .cell with parent := some 0, ancestors := [0], index := 2 ^ 64 - 1 }
  let graph : Graph Rat := ⟨#[container, box]⟩
  have accepted : Graph.ofNodes [container, box] = .ok graph := rfl
  have adjacent :
      graph.adjacentRoad 1 container.itemFrame.main = .ok (some (.main 0 (2 ^ 64 - 1 + 1))) := rfl
  exact ⟨_, graph, _, accepted, ⟨1, container.itemFrame.main, adjacent⟩, by decide⟩

end Topological

end BoxDiagram
