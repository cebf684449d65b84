import BoxDiagram.Proofs.Layout.Numbers
import BoxDiagram.Proofs.Number.Distance
import BoxDiagram.Proofs.Route.Total
import BoxDiagram.Proofs.Route.Trace

namespace BoxDiagram

/-!
# Searches do not go in circles

Along the trace of a walk the lengths never become less, since distances are added.  A walk
to a road that is known is kept only if it is shorter than all earlier ones to this road, as
long as lengths can be compared.  So no road stands twice on a trace, unless a length is no
number.
-/

namespace Search

open Single (IsDistance IsExtent reachOf)

variable
  {task : Task Float32}
  {progress : Progress Float32}
  {walks : Array (Walk Float32)}
  {walk : Walk Float32}
  {trace : List (Walk Float32)}
  {first second : Point Float32}
  {index : Nat}

section Lengths

/-- The distance between two points is a distance, whatever they are. -/
theorem isDistance_manhattan
    (first second : Point Float32) :
    IsDistance (first.manhattan second) :=
  (Single.isDistance_abs _).add (Single.isDistance_abs _)

/-- The distance between finite points is an extent. -/
theorem isExtent_manhattan
    (firstFinite : first.Each (Scalar.isFinite · = true))
    (secondFinite : second.Each (Scalar.isFinite · = true)) :
    IsExtent (first.manhattan second) :=
  (Single.isExtent_abs_sub (firstFinite .main) (secondFinite .main)).add
    (Single.isExtent_abs_sub (firstFinite .cross) (secondFinite .cross))

/-- Along a trace each walk is at least as long as all those before it, with all rounding. -/
theorem Task.Traces.pairwise_reachOf
    (traces : task.Traces walks index trace) :
    (∀ walk ∈ trace, IsDistance walk.length) ∧
      trace.Pairwise fun later earlier => reachOf earlier.length ≤ reachOf later.length := by
  induction traces with
  | first _ isFirst =>
      obtain ⟨_, road, _, isWalk⟩ := isFirst
      obtain ⟨step, _, same⟩ := Attempt.bind_eq_ok_iff.mp isWalk
      cases same
      refine ⟨fun walk member => ?_, List.pairwise_singleton _ _⟩
      rw [List.mem_singleton.mp member]
      exact isDistance_manhattan _ _
  | @next _ _ _ earlier _ _ goesOn _ _ inductionHypothesis =>
      obtain ⟨areDistances, inOrder⟩ := inductionHypothesis
      obtain ⟨_, step, _, rfl⟩ := goesOn
      have distance := isDistance_manhattan earlier.point step.point
      have earlierDistance := areDistances _ List.mem_cons_self
      have notLess := earlierDistance.reachOf_le_add distance
      refine ⟨List.forall_mem_cons.mpr ⟨earlierDistance.add distance, areDistances⟩,
        List.pairwise_cons.mpr ⟨fun other member => ?_, inOrder⟩⟩
      rcases List.mem_cons.mp member with rfl | isEarlier
      · exact notLess
      · exact ((List.pairwise_cons.mp inOrder).1 other isEarlier).trans notLess

/-- The source of a search and the middle lines of all roads have finite coordinates. -/
structure Task.IsFinite (task : Task Float32) : Prop where
  source : task.source.Each (Scalar.isFinite · = true)
  lines :
    ∀ {road axis line}, task.line road = .ok (axis, line) → Scalar.isFinite line = true

/-- A step from a finite point leads to one. -/
theorem Task.IsFinite.stepOnto
    {road : Road}
    {step : Step Float32}
    (finite : task.IsFinite)
    (isFinite : first.Each (Scalar.isFinite · = true))
    (succeeded : task.stepOnto first road = .ok step) :
    step.point.Each (Scalar.isFinite · = true) := by
  obtain ⟨⟨axis, line⟩, isLine, same⟩ := Attempt.bind_eq_ok_iff.mp succeeded
  cases same
  exact isFinite.withAlong (finite.lines isLine) axis

/-- Where all coordinates are finite, the lengths along a trace can be compared. -/
theorem Task.Traces.isExtent
    (finite : task.IsFinite)
    (traces : task.Traces walks index trace) :
    ∀ walk ∈ trace,
      IsExtent walk.length ∧ walk.point.Each (Scalar.isFinite · = true) := by
  induction traces with
  | first _ isFirst =>
      obtain ⟨_, road, _, isWalk⟩ := isFirst
      obtain ⟨step, isStep, same⟩ := Attempt.bind_eq_ok_iff.mp isWalk
      cases same
      intro walk member
      rw [List.mem_singleton.mp member]
      have stepFinite := finite.stepOnto finite.source isStep
      exact ⟨isExtent_manhattan finite.source stepFinite, stepFinite⟩
  | next _ goesOn _ _ inductionHypothesis =>
      obtain ⟨_, step, isStep, rfl⟩ := goesOn
      obtain ⟨earlierExtent, earlierFinite⟩ := inductionHypothesis _ List.mem_cons_self
      have stepFinite := finite.stepOnto earlierFinite isStep
      exact List.forall_mem_cons.mpr
        ⟨⟨earlierExtent.add (isExtent_manhattan earlierFinite stepFinite), stepFinite⟩,
          inductionHypothesis⟩

end Lengths

/--
What a search with finite coordinates keeps: the best length of a road is that of its last
walk, and each walk to a road is shorter than all earlier ones.
-/
structure Task.IsImproving (task : Task Float32) (progress : Progress Float32) : Prop where
  traced : AreTraced task progress.walks
  isOver : progress.best.IsOver task.graph
  least :
    ∀ {index : Nat} {walk : Walk Float32}, progress.walks[index]? = some walk →
      ∃ best, progress.best.get? walk.road = some (some best) ∧ IsExtent best ∧
        reachOf best ≤ reachOf walk.length
  improves :
    ∀ {place index : Nat} {earlier later : Walk Float32}, place < index →
      progress.walks[place]? = some earlier → progress.walks[index]? = some later →
        earlier.road = later.road → reachOf later.length < reachOf earlier.length

/-- Where there is no walk, all are improving. -/
theorem isImproving_empty :
    task.IsImproving ⟨#[], [], .ofGraph task.graph none⟩ where
  traced := areTraced_empty
  isOver := .ofGraph task.graph none
  least impossible := by
    simp at impossible
  improves _ impossible := by
    simp at impossible

namespace Task.IsImproving

/-- A walk is kept only if it is shorter than all earlier ones to its road. -/
theorem offer_eq_or_less
    (improving : task.IsImproving progress)
    (extent : IsExtent walk.length) :
    task.offer progress walk = progress ∨
      task.offer progress walk = offer.keep task progress walk ∧
        ∀ {index : Nat} {other : Walk Float32}, progress.walks[index]? = some other →
          other.road = walk.road → reachOf walk.length < reachOf other.length := by
  rw [offer]
  split
  · rename_i best isBest
    split
    · exact .inl rfl
    · rename_i notLess
      refine .inr ⟨rfl, fun isOther sameRoad => ?_⟩
      obtain ⟨least, isLeast, leastExtent, notMore⟩ := improving.least isOther
      rw [sameRoad] at isLeast
      rw [isLeast, Option.join_some] at isBest
      cases isBest
      exact (not_le.mp (mt (leastExtent.atMost_iff extent).mpr notLess)).trans_le notMore
  · rename_i isUnknown
    refine .inr ⟨rfl, fun isOther sameRoad => ?_⟩
    obtain ⟨least, isLeast, _⟩ := improving.least isOther
    rw [sameRoad] at isLeast
    rw [isLeast] at isUnknown
    cases isUnknown

/-- Offering a walk keeps walks improving. -/
theorem offer
    (finite : task.IsFinite)
    (improving : task.IsImproving progress)
    (hasRoad : task.graph.HasRoad walk.road)
    (comes : walk.Comes task progress.walks) :
    task.IsImproving (task.offer progress walk) := by
  obtain ⟨rest, traces⟩ := improving.traced.exists_traces comes
  have extent := (traces.isExtent finite walk List.mem_cons_self).1
  have traced := improving.traced.offer comes
  rcases improving.offer_eq_or_less extent with passedOver | ⟨kept, isShorter⟩
  · rwa [passedOver]
  · rw [kept] at traced ⊢
    obtain ⟨value, isValue⟩ := improving.isOver.exists_get?_iff.mpr hasRoad
    constructor
    case traced =>
      exact traced
    case isOver =>
      exact improving.isOver.set walk.road (some walk.length)
    case least =>
      intro index other isOther
      by_cases sameRoad : other.road = walk.road
      · refine ⟨walk.length, ?_, extent, ?_⟩
        · simp [offer.keep, RoadMap.get?_set, sameRoad, isValue]
        · rcases eq_or_getElem?_of_push isOther with ⟨_, rfl⟩ | isOld
          · exact le_rfl
          · exact (isShorter isOld sameRoad).le
      · rcases eq_or_getElem?_of_push isOther with ⟨_, rfl⟩ | isOld
        · exact absurd rfl sameRoad
        · obtain ⟨best, isBest, isLeast⟩ := improving.least isOld
          refine ⟨best, ?_, isLeast⟩
          simp [offer.keep, RoadMap.get?_set, Ne.symm sameRoad, isBest]
    case improves =>
      intro place index earlier later before isEarlier isLater sameRoad
      -- Only the walk that is offered can be new, and it stands last.
      rcases eq_or_getElem?_of_push isLater with ⟨rfl, rfl⟩ | isOld
      · rcases eq_or_getElem?_of_push isEarlier with ⟨rfl, _⟩ | isOld
        · exact absurd before (Nat.lt_irrefl _)
        · exact isShorter isOld sameRoad
      · rcases eq_or_getElem?_of_push isEarlier with ⟨rfl, _⟩ | isOldEarlier
        · have inside := (Array.getElem?_eq_some_iff.mp isOld).1
          omega
        · exact improving.improves before isOldEarlier isOld sameRoad

/-- No road stands twice on a trace. -/
theorem nodup_roads
    (improving : task.IsImproving progress)
    (traces : task.Traces progress.walks index trace) :
    (trace.map (·.road)).Nodup := by
  rw [List.Nodup, List.pairwise_map]
  have inOrder := traces.pairwise_reachOf.2
  induction traces with
  | first _ _ =>
      exact List.pairwise_singleton _ _
  | next isWalk goesOn before traces inductionHypothesis =>
      obtain ⟨notMore, inOrder⟩ := List.pairwise_cons.mp inOrder
      refine List.pairwise_cons.mpr ⟨fun other member sameRoad => ?_, inductionHypothesis inOrder⟩
      obtain ⟨place, notAfter, isOther⟩ := traces.exists_place member
      have shorter := improving.improves (by omega) isOther isWalk sameRoad.symm
      exact absurd (notMore other member) (not_le.mpr shorter)

end Task.IsImproving

variable {source target common : Node Float32} {climb descent turns : Nat}

/-- Throughout a run, walks are improving. -/
theorem Task.Reaches.isImproving
    (sound : task.IsSound source target common climb descent)
    (finite : task.IsFinite)
    (reached : task.Reaches turns progress) :
    task.IsImproving progress :=
  reached.keeps task.IsImproving sound isImproving_empty
    (fun ⟨traced, isOver, least, improves⟩ => ⟨traced, isOver, least, improves⟩)
    fun improving hasRoad comes => improving.offer finite hasRoad comes

end Search

/-- The lines of a reference are those of the roads of a graph. -/
theorem Reference.isOver_lines
    {α : Type}
    [Scalar α]
    (graph : Graph α)
    (layout : Layout α) :
    (Reference.ofLayout graph layout).lines.IsOver graph := by
  suffices isOver :
      ∀ lines : RoadMap (Option (Axis × α)), lines.IsOver graph →
        (layout.roads.foldl
          (fun lines road => lines.set road.road (some (road.fixedAxis, road.centerLine)))
          lines).IsOver graph from
    isOver _ (.ofGraph graph none)
  induction layout.roads with
  | nil =>
      exact fun _ isOver => isOver
  | cons road rest inductionHypothesis =>
      exact fun lines isOver => inductionHypothesis _ (isOver.set road.road _)

/-- A search in a layout has finite coordinates if its source and all roads have finite middles. -/
theorem Search.Task.isFinite_of_layout
    {task : Search.Task Float32}
    {layout : Layout Float32}
    (complete : layout.IsComplete task.graph)
    (isReference : task.reference = Reference.ofLayout task.graph layout)
    (sourceFinite : task.source.Each (Scalar.isFinite · = true))
    (linesFinite : ∀ road ∈ layout.roads, Scalar.isFinite road.centerLine = true) :
    task.IsFinite where
  source := sourceFinite
  lines {road axis line} isLine := by
    rw [Search.line_eq_ok_iff, isReference] at isLine
    have hasRoad :=
      (Reference.isOver_lines task.graph layout).exists_get?_iff.mp
        ⟨_, Option.join_eq_some_iff.mp isLine⟩
    obtain ⟨shown, member, _, isShown⟩ := complete.exists_line hasRoad
    rw [isShown] at isLine
    cases isLine
    exact linesFinite shown member

end BoxDiagram
