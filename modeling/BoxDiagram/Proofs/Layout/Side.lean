import BoxDiagram.Proofs.Layout.Gate
import Mathlib.Algebra.GroupWithZero.Nat

namespace BoxDiagram

/-!
# The gates of a side

All links that end at one side of a box form one group, so that the points of their
gates depend on the box and on the number of these links, but not on their order.
-/

variable {α : Type}

/-- The points of the gates at a side of a box, in the order of the gates. -/
def NodeLayout.pointsAt (node : NodeLayout α) (side : Direction) : List (Point α) :=
  (node.gates.filter (·.side = side)).map (·.point)

namespace Gate

/-- The number of ends of routes at a side. -/
def endCount (routes : List Route) (side : BoxSide) : Nat :=
  (routes.flatMap endsOf).countP (·.1 = side)

namespace Groups

theorem ends_cons
    (group : BoxSide × List (LinkId × LinkEnd))
    (rest : Groups) :
    ends (group :: rest) = (group.2.map fun link => (group.1, link)) ++ ends rest :=
  List.flatMap_cons

/-- The number of ends in the groups of a side. -/
theorem countP_ends
    (groups : Groups)
    (side : BoxSide) :
    groups.ends.countP (·.1 = side) =
      ((groups.filter (·.1 = side)).map (·.2.length)).sum := by
  induction groups with
  | nil =>
      rfl
  | cons group rest inductionHypothesis =>
      rw [ends_cons, List.countP_append, inductionHypothesis]
      by_cases isSide : group.1 = side
      · simp [isSide, List.countP_map, Function.comp_def]
      · simp [isSide, List.countP_map, Function.comp_def]

/-- Adding a link keeps one group for each side. -/
theorem nodup_sides_add
    {groups : Groups}
    (side : BoxSide)
    (link : LinkId × LinkEnd)
    (nodup : (groups.map (·.1)).Nodup) :
    ((groups.add side link).map (·.1)).Nodup := by
  induction groups with
  | nil =>
      simp [add]
  | cons group rest inductionHypothesis =>
      obtain ⟨other, links⟩ := group
      rw [List.map_cons, List.nodup_cons] at nodup
      rw [add]
      split
      · exact List.nodup_cons.mpr nodup
      · rename_i notHere
        refine List.nodup_cons.mpr ⟨?_, inductionHypothesis nodup.2⟩
        intro again
        obtain ⟨group, member, isOther⟩ := List.mem_map.mp again
        rcases side_of_mem_add member with isNew | ⟨old, isOld, same⟩
        · exact notHere (isOther.symm.trans isNew)
        · exact nodup.1 (List.mem_map.mpr ⟨old, isOld, same.symm.trans isOther⟩)

/-- Each side has at most one group. -/
theorem nodup_sides_ofRoutes
    (routes : List Route) :
    ((ofRoutes routes).map (·.1)).Nodup := by
  have kept :
      ∀ (rest : List Route) (groups : Groups), (groups.map (·.1)).Nodup →
        ((rest.foldl addRoute groups).map (·.1)).Nodup := by
    intro rest
    induction rest with
    | nil =>
        intro groups nodup
        exact nodup
    | cons route later inductionHypothesis =>
        intro groups nodup
        exact inductionHypothesis _ (nodup_sides_add _ _ (nodup_sides_add _ _ nodup))
  exact kept routes [] List.nodup_nil

/-- An end that is added comes after the other ends at its side. -/
theorem filter_ends_add
    {groups : Groups}
    (side : BoxSide)
    (link : LinkId × LinkEnd)
    (nodup : (groups.map (·.1)).Nodup)
    (other : BoxSide) :
    (groups.add side link).ends.filter (·.1 = other) =
      groups.ends.filter (·.1 = other) ++ [(side, link)].filter (·.1 = other) := by
  induction groups with
  | nil =>
      rfl
  | cons group rest inductionHypothesis =>
      obtain ⟨first, links⟩ := group
      rw [List.map_cons, List.nodup_cons] at nodup
      rw [add]
      split
      · rename_i isSide
        subst isSide
        by_cases isOther : first = other
        · subst isOther
          have noneLater : (ends rest).filter (·.1 = first) = [] := by
            rw [List.filter_eq_nil_iff]
            intro endAt isLater
            obtain ⟨later, isGroup, isEnd⟩ := List.mem_flatMap.mp isLater
            obtain ⟨_, _, rfl⟩ := List.mem_map.mp isEnd
            simpa using fun again => nodup.1 (List.mem_map.mpr ⟨later, isGroup, again⟩)
          simp [ends_cons, List.filter_append, noneLater]
        · simp [ends_cons, List.filter_append, isOther]
      · rw [ends_cons, ends_cons, List.filter_append, List.filter_append,
          inductionHypothesis nodup.2, List.append_assoc]

/-- The groups hold the ends at a side in the order of the routes. -/
theorem filter_ends_ofRoutes
    (routes : List Route)
    (side : BoxSide) :
    (ofRoutes routes).ends.filter (·.1 = side) =
      (routes.flatMap endsOf).filter (·.1 = side) := by
  have added :
      ∀ (rest : List Route) (groups : Groups), (groups.map (·.1)).Nodup →
        (rest.foldl addRoute groups).ends.filter (·.1 = side) =
          groups.ends.filter (·.1 = side) ++ (rest.flatMap endsOf).filter (·.1 = side) := by
    intro rest
    induction rest with
    | nil =>
        intro groups _
        simp
    | cons route later inductionHypothesis =>
        intro groups nodup
        have both := nodup_sides_add (route.source, route.sourceExit) (route.link, .source) nodup
        rw [List.foldl_cons, addRoute, inductionHypothesis _ (nodup_sides_add _ _ both),
          filter_ends_add _ _ both, filter_ends_add _ _ nodup, List.append_assoc,
          List.append_assoc, ← List.filter_append, ← List.filter_append]
        rfl
  exact added routes [] List.nodup_nil

/-- The group of a side, if there is one, holds all ends at the side. -/
theorem group_of_side
    (routes : List Route)
    (side : BoxSide) :
    ((ofRoutes routes).filter (·.1 = side) = [] ∧ endCount routes side = 0) ∨
      ∃ links, (ofRoutes routes).filter (·.1 = side) = [(side, links)] ∧
        endCount routes side = links.length := by
  have counted :
      endCount routes side = (((ofRoutes routes).filter (·.1 = side)).map (·.2.length)).sum := by
    rw [endCount, ← (perm_ends_ofRoutes routes).countP_eq, countP_ends]
  have sides :
      (((ofRoutes routes).filter (·.1 = side)).map (·.1)).Nodup :=
    (nodup_sides_ofRoutes routes).sublist (List.filter_sublist.map _)
  have ofSide : ∀ group ∈ (ofRoutes routes).filter (·.1 = side), group.1 = side := by
    intro group member
    simpa using (List.mem_filter.mp member).2
  generalize (ofRoutes routes).filter (·.1 = side) = groups at counted sides ofSide
  cases groups with
  | nil =>
      exact .inl ⟨rfl, counted⟩
  | cons group rest =>
      obtain ⟨other, links⟩ := group
      obtain rfl : other = side := ofSide _ List.mem_cons_self
      cases rest with
      | nil =>
          exact .inr ⟨links, rfl, by simpa using counted⟩
      | cons second later =>
          have again : second.1 = other := ofSide second (by simp)
          simp [again] at sides

end Groups

variable [Scalar α]

omit [Scalar α] in
/-- The gates recorded for a side of a box are the gates at this side. -/
theorem Placed.pointsAt_record
    {nodes : List (NodeLayout α)}
    {id : NodeId}
    {node : NodeLayout α}
    (records : List (Record α))
    (isNode : nodes[id]? = some node)
    (noGates : node.gates = []) :
    ∃ placed, (record ⟨nodes, []⟩ records).nodes[id]? = some placed ∧
      ∀ side, placed.pointsAt side =
        (records.filter (·.endAt.1 = (id, side))).map (·.gate.point) := by
  refine ⟨_, by rw [record, List.getElem?_mapIdx, isNode]; rfl, ?_⟩
  intro side
  have sameRecords :
      (records.filter (·.box = id)).filter (·.gate.side = side) =
        records.filter (·.endAt.1 = (id, side)) := by
    rw [List.filter_filter]
    apply List.filter_congr
    intro record _
    simp [Record.endAt, Bool.and_comm]
  rw [← sameRecords, NodeLayout.pointsAt]
  simp [noGates, List.filter_map, Function.comp_def]

/-- The gates at a side are those of the groups of the side. -/
theorem filter_records
    {nodes : List (NodeLayout α)}
    {groups : Groups}
    {id : NodeId}
    {node : NodeLayout α}
    (gap : α)
    (isNode : nodes[id]? = some node)
    (side : Direction) :
    (records gap nodes groups).filter (·.endAt.1 = (id, side)) =
      (groups.filter (·.1 = (id, side))).flatMap (recordsOf gap · node) := by
  have ofGroup (group : BoxSide × List (LinkId × LinkEnd)) (shown : NodeLayout α) :
      ∀ record ∈ recordsOf gap group shown, record.endAt.1 = group.1 := by
    intro record member
    obtain ⟨_, _, rfl⟩ := List.mem_map.mp member
    rfl
  induction groups with
  | nil =>
      rfl
  | cons group rest inductionHypothesis =>
      rw [records, List.flatMap_cons, List.filter_append, ← records, inductionHypothesis]
      by_cases isSide : group.1 = (id, side)
      · have isBox : nodes[group.1.1]? = some node := by rw [isSide, isNode]
        rw [List.filter_cons_of_pos (by simpa using isSide), List.flatMap_cons, isBox]
        simp only [Option.toList_some, List.flatMap_cons, List.flatMap_nil, List.append_nil]
        rw [List.filter_eq_self.mpr fun record member => by
          simp [ofGroup group node record member, isSide]]
      · rw [List.filter_cons_of_neg (by simpa using isSide),
          List.filter_eq_nil_iff.mpr fun record member => by
            obtain ⟨shown, _, isRecord⟩ := List.mem_flatMap.mp member
            simp [ofGroup group shown record isRecord, isSide],
          List.nil_append]

/-- The gates at a side are spread along it, as many as there are links that end there. -/
theorem points_of_side
    {nodes : List (NodeLayout α)}
    {id : NodeId}
    {node : NodeLayout α}
    (gap : α)
    (routes : List Route)
    (isNode : nodes[id]? = some node)
    (side : Direction) :
    ((recordsOfRoutes gap routes nodes).filter (·.endAt.1 = (id, side))).map (·.gate.point) =
      spread node.visible side gap (endCount routes (id, side)) := by
  rw [recordsOfRoutes, filter_records gap isNode]
  rcases Groups.group_of_side routes (id, side) with ⟨none, count⟩ | ⟨links, one, count⟩
  · rw [none, count]
    rfl
  · have enough : (spread node.visible side gap links.length).length ≤ links.length := by
      simp [spread]
    rw [one, count, List.flatMap_singleton, recordsOf, List.map_map]
    exact List.map_snd_zip enough

end Gate

end BoxDiagram
