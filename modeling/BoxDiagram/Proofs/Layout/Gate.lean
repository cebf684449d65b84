import BoxDiagram.Layout.Gate
import BoxDiagram.Proofs.Attempt
import Mathlib.Data.List.Nodup

namespace BoxDiagram

/-!
# Placed gates

Each end of a link gets one gate, on the side of its box where its route ends.  The
point of the gate is kept with the box and with the end of the link.
-/

variable {α : Type}

/-- A box without its gates. -/
def NodeLayout.withoutGates (node : NodeLayout α) : NodeLayout α :=
  { node with gates := [] }

/-- Boxes in order stand at their numbers. -/
theorem NodeLayout.id_eq_of_getElem?
    {nodes : List (NodeLayout α)}
    {size position : Nat}
    {node : NodeLayout α}
    (inOrder : nodes.map (·.id) = List.range size)
    (isNode : nodes[position]? = some node) :
    node.id = position := by
  have numbered := congrArg (·[position]?) inOrder
  simp only [List.getElem?_map, isNode, Option.map_some] at numbered
  obtain ⟨inside, same⟩ := List.getElem?_eq_some_iff.mp numbered.symm
  exact same.symm.trans (List.getElem_range inside)

namespace Gate

/-- An end of a link, with the side of the box at which it lies. -/
abbrev EndAt := BoxSide × (LinkId × LinkEnd)

/-- The side of a box at which an end of a route lies. -/
def sideOf (route : Route) : LinkEnd → BoxSide
  | .source => (route.source, route.sourceExit)
  | .target => (route.target, route.targetExit)

/-- The ends of a route, the source first. -/
def endsOf (route : Route) : List EndAt :=
  [(sideOf route .source, (route.link, .source)),
    (sideOf route .target, (route.link, .target))]

/-- Each end of a route is at its side. -/
theorem mem_endsOf_iff
    {route : Route}
    {endAt : EndAt} :
    endAt ∈ endsOf route ↔
      endAt = (sideOf route endAt.2.2, (route.link, endAt.2.2)) := by
  constructor
  · intro member
    rcases List.mem_pair.mp member with rfl | rfl <;> rfl
  · intro same
    rw [same]
    cases endAt.2.2 <;> simp [endsOf]

/-- Routes of different links have different ends. -/
theorem nodup_ends
    {routes : List Route}
    (nodup : (routes.map (·.link)).Nodup) :
    ((routes.flatMap endsOf).map (·.2)).Nodup := by
  rw [List.map_flatMap, List.nodup_flatMap]
  constructor
  · intro route _
    simp [endsOf]
  · rw [List.Nodup, List.pairwise_map] at nodup
    refine nodup.imp fun apart linkEnd isFirst isSecond => apart ?_
    simp only [endsOf, List.map_cons, List.map_nil, List.mem_pair] at isFirst isSecond
    rcases isFirst with rfl | rfl <;> rcases isSecond with same | same <;>
      exact (Prod.mk.inj same).1

/-- Routes join two boxes of a graph each, and each of them belongs to a link of its own. -/
structure AreJoined (size : Nat) (routes : List Route) : Prop where
  inside : ∀ route ∈ routes, ∀ linkEnd, (sideOf route linkEnd).1 < size
  apart : ∀ route ∈ routes, route.source ≠ route.target
  nodup : (routes.map (·.link)).Nodup

namespace AreJoined

variable {size : Nat} {routes : List Route}

/-- No two routes are for the same link. -/
theorem route_eq
    (joined : AreJoined size routes)
    {first second : Route}
    (isFirst : first ∈ routes)
    (isSecond : second ∈ routes)
    (sameLink : first.link = second.link) :
    first = second :=
  List.inj_on_of_nodup_map joined.nodup isFirst isSecond sameLink

/-- A link does not start and end at the same box. -/
theorem end_eq
    (joined : AreJoined size routes)
    {route : Route}
    (isRoute : route ∈ routes)
    {first second : LinkEnd}
    (sameBox : (sideOf route first).1 = (sideOf route second).1) :
    first = second := by
  have apart := joined.apart route isRoute
  cases first with
  | source =>
      cases second with
      | source =>
          rfl
      | target =>
          exact absurd sameBox apart
  | target =>
      cases second with
      | source =>
          exact absurd sameBox.symm apart
      | target =>
          rfl

end AreJoined

namespace Groups

/-- The ends in groups, each with the side of its group. -/
def ends (groups : Groups) : List EndAt :=
  groups.flatMap fun group => group.2.map fun link => (group.1, link)

/-- An end is added to its group once. -/
theorem perm_ends_add
    (side : BoxSide)
    (link : LinkId × LinkEnd)
    (groups : Groups) :
    (groups.add side link).ends.Perm ((side, link) :: groups.ends) := by
  induction groups with
  | nil =>
      exact .refl _
  | cons group rest inductionHypothesis =>
      obtain ⟨other, links⟩ := group
      rw [add]
      split
      · rename_i same
        subst same
        simp only [ends, List.flatMap_cons, List.map_append, List.map_cons, List.map_nil,
          List.append_assoc, List.singleton_append]
        exact List.perm_middle
      · simp only [ends, List.flatMap_cons]
        exact (inductionHypothesis.append_left _).trans List.perm_middle

/-- The groups of routes hold each end of each route once. -/
theorem perm_ends_ofRoutes
    (routes : List Route) :
    (ofRoutes routes).ends.Perm (routes.flatMap endsOf) := by
  have added :
      ∀ (rest : List Route) (groups : Groups),
        (rest.foldl addRoute groups).ends.Perm (groups.ends ++ rest.flatMap endsOf) := by
    intro rest
    induction rest with
    | nil =>
        intro groups
        rw [List.foldl_nil, List.flatMap_nil, List.append_nil]
    | cons route later inductionHypothesis =>
        intro groups
        have both : (groups.addRoute route).ends.Perm (groups.ends ++ endsOf route) :=
          ((perm_ends_add _ _ _).trans ((perm_ends_add _ _ _).cons _)).trans
            ((List.Perm.swap _ _ _).trans
              (show (endsOf route ++ groups.ends).Perm _ from List.perm_append_comm))
        rw [List.foldl_cons, List.flatMap_cons, ← List.append_assoc]
        exact (inductionHypothesis (groups.addRoute route)).trans (both.append_right _)
  exact added routes []

/-- Adding a link adds no other side than its own. -/
theorem side_of_mem_add
    {side : BoxSide}
    {link : LinkId × LinkEnd}
    {groups : Groups}
    {group : BoxSide × List (LinkId × LinkEnd)}
    (member : group ∈ groups.add side link) :
    group.1 = side ∨ ∃ other ∈ groups, group.1 = other.1 := by
  induction groups with
  | nil =>
      exact .inl (congrArg Prod.fst (List.mem_singleton.mp member))
  | cons head rest inductionHypothesis =>
      obtain ⟨other, links⟩ := head
      rw [add] at member
      split at member
      · rcases List.mem_cons.mp member with rfl | later
        · exact .inr ⟨_, List.mem_cons_self, rfl⟩
        · exact .inr ⟨group, List.mem_cons_of_mem _ later, rfl⟩
      · rcases List.mem_cons.mp member with rfl | later
        · exact .inr ⟨_, List.mem_cons_self, rfl⟩
        · rcases inductionHypothesis later with isNew | ⟨old, isOld, same⟩
          · exact .inl isNew
          · exact .inr ⟨old, List.mem_cons_of_mem _ isOld, same⟩

/-- Each group of routes is for a side at which one of them ends. -/
theorem side_of_mem_ofRoutes
    {routes : List Route}
    {group : BoxSide × List (LinkId × LinkEnd)}
    (member : group ∈ ofRoutes routes) :
    ∃ route ∈ routes, ∃ linkEnd, group.1 = sideOf route linkEnd := by
  have added :
      ∀ {rest : List Route} {groups : Groups}, group ∈ rest.foldl addRoute groups →
        (∃ route ∈ rest, ∃ linkEnd, group.1 = sideOf route linkEnd) ∨
          ∃ other ∈ groups, group.1 = other.1 := by
    intro rest
    induction rest with
    | nil =>
        intro groups isOld
        exact .inr ⟨group, isOld, rfl⟩
    | cons route later inductionHypothesis =>
        intro groups member
        rcases inductionHypothesis member with
          ⟨other, isLater, linkEnd, same⟩ | ⟨old, isOld, same⟩
        · exact .inl ⟨other, List.mem_cons_of_mem _ isLater, linkEnd, same⟩
        · rcases side_of_mem_add isOld with isTarget | ⟨older, isOlder, sameOlder⟩
          · exact .inl ⟨route, List.mem_cons_self, .target, same.trans isTarget⟩
          · rcases side_of_mem_add isOlder with isSource | ⟨oldest, isOldest, sameOldest⟩
            · exact .inl ⟨route, List.mem_cons_self, .source,
                same.trans (sameOlder.trans isSource)⟩
            · exact .inr ⟨oldest, isOldest, same.trans (sameOlder.trans sameOldest)⟩
  rcases added member with found | ⟨_, isNone, _⟩
  · exact found
  · cases isNone

end Groups

/-- A gate with the box and the end of the link that it belongs to. -/
structure Record (α : Type) where
  box : NodeId
  gate : Gate α
  linkEnd : LinkEnd

namespace Record

/-- The end of the link at its side. -/
def endAt (record : Record α) : EndAt :=
  ((record.box, record.gate.side), (record.gate.link, record.linkEnd))

/-- The end of the link with its point. -/
def gatePoint (record : Record α) : GatePoint α :=
  ((record.gate.link, record.linkEnd), record.gate.point)

end Record

namespace Placed

/-- Boxes and points with further gates. -/
def record (placed : Placed α) (records : List (Record α)) : Placed α where
  nodes := placed.nodes.mapIdx fun id node =>
    { node with gates := node.gates ++ (records.filter (·.box = id)).map (·.gate) }
  points := (records.map (·.gatePoint)).reverse ++ placed.points

@[simp] theorem record_nil
    (placed : Placed α) :
    placed.record [] = placed := by
  obtain ⟨nodes, points⟩ := placed
  simp only [record, List.filter_nil, List.map_nil, List.append_nil, List.reverse_nil,
    List.nil_append]
  congr 1
  apply List.ext_getElem?
  intro position
  rw [List.getElem?_mapIdx]
  cases nodes[position]? <;> rfl

/-- The boxes are given ones, apart from their gates. -/
def IsOn (nodes : List (NodeLayout α)) (placed : Placed α) : Prop :=
  placed.nodes.map (·.withoutGates) = nodes.map (·.withoutGates)

/-- Gates do not change the numbers of boxes. -/
theorem IsOn.ids_eq
    {nodes : List (NodeLayout α)}
    {placed : Placed α}
    (isOn : placed.IsOn nodes) :
    placed.nodes.map (·.id) = nodes.map (·.id) := by
  have ids := congrArg (List.map (·.id)) isOn
  rwa [List.map_map, List.map_map] at ids

/-- Recording two lists one after another is recording both at once. -/
theorem record_append
    (placed : Placed α)
    (first second : List (Record α)) :
    (placed.record first).record second = placed.record (first ++ second) := by
  simp [record, List.mapIdx_mapIdx, Function.comp_def]

/-- Recording gates does not change the numbers of boxes. -/
@[simp] theorem ids_record
    (placed : Placed α)
    (records : List (Record α)) :
    (placed.record records).nodes.map (·.id) = placed.nodes.map (·.id) := by
  apply List.ext_getElem?
  intro position
  simp [record, List.getElem?_mapIdx, Function.comp_def]

/-- The gates of a box that had none are those recorded for it. -/
theorem exists_node_of_record
    {nodes : List (NodeLayout α)}
    {id : NodeId}
    {node : NodeLayout α}
    (records : List (Record α))
    (isNode : nodes[id]? = some node)
    (noGates : node.gates = []) :
    ∃ placed, (record ⟨nodes, []⟩ records).nodes[id]? = some placed ∧
      ∀ gate, gate ∈ placed.gates ↔ ∃ other ∈ records, other.box = id ∧ other.gate = gate := by
  refine ⟨_, by rw [record, List.getElem?_mapIdx, isNode]; rfl, ?_⟩
  intro gate
  simp [noGates, and_assoc]

/-- The point recorded for an end of a link is found if no other one is recorded for it. -/
theorem lookup_record
    {records : List (Record α)}
    {recorded : Record α}
    (nodes : List (NodeLayout α))
    (nodup : (records.map (·.endAt.2)).Nodup)
    (isRecord : recorded ∈ records) :
    (record ⟨nodes, []⟩ records).points.lookup recorded.endAt.2 = some recorded.gate.point := by
  have mem_points_iff :
      ∀ {entry : GatePoint α},
        entry ∈ (record ⟨nodes, []⟩ records).points ↔
          ∃ other ∈ records, other.gatePoint = entry := by
    intro entry
    simp [record]
  have listed := mem_points_iff.mpr ⟨recorded, isRecord, rfl⟩
  have isSome : ((record ⟨nodes, []⟩ records).points.lookup recorded.endAt.2).isSome :=
    List.lookup_isSome_iff.mpr ⟨_, listed, beq_self_eq_true _⟩
  obtain ⟨point, isFound⟩ := Option.isSome_iff_exists.mp isSome
  obtain ⟨earlier, later, split, _⟩ := List.lookup_eq_some_iff.mp isFound
  obtain ⟨other, isOther, sameEntry⟩ :=
    mem_points_iff.mp (split ▸ List.mem_append_right earlier List.mem_cons_self)
  obtain rfl :=
    List.inj_on_of_nodup_map nodup isOther isRecord (congrArg Prod.fst sameEntry)
  exact isFound.trans (congrArg some (congrArg Prod.snd sameEntry).symm)

end Placed

variable [Scalar α]

/-- The gates of a group on its box. -/
def recordsOf
    (gap : α)
    (group : BoxSide × List (LinkId × LinkEnd))
    (node : NodeLayout α) : List (Record α) :=
  (group.2.zip (spread node.visible group.1.2 gap group.2.length)).map fun entry =>
    ⟨group.1.1, ⟨entry.1.1, group.1.2, entry.2⟩, entry.1.2⟩

/-- The gates of groups on their boxes. -/
def records
    (gap : α)
    (nodes : List (NodeLayout α))
    (groups : Groups) : List (Record α) :=
  groups.flatMap fun group => nodes[group.1.1]?.toList.flatMap (recordsOf gap group)

/-- A group has one record for each of its links. -/
theorem endAts_recordsOf
    (gap : α)
    (group : BoxSide × List (LinkId × LinkEnd))
    (node : NodeLayout α) :
    (recordsOf gap group node).map (·.endAt) = group.2.map fun link => (group.1, link) := by
  have counted :
      group.2.length ≤ (spread node.visible group.1.2 gap group.2.length).length := by
    simp [spread]
  calc
    (recordsOf gap group node).map (·.endAt)
      = ((group.2.zip (spread node.visible group.1.2 gap group.2.length)).map (·.1)).map
          fun link => (group.1, link) := by
        rw [recordsOf, List.map_map, List.map_map]
        rfl
    _ = group.2.map fun link => (group.1, link) := by
        rw [List.map_fst_zip counted]

/-- Groups have one record for each of their ends. -/
theorem endAts_records
    {nodes : List (NodeLayout α)}
    {groups : Groups}
    (gap : α)
    (inside : ∀ group ∈ groups, group.1.1 < nodes.length) :
    (records gap nodes groups).map (·.endAt) = groups.ends := by
  rw [records, Groups.ends, List.map_flatMap, List.flatMap_congr]
  intro group member
  simp [List.getElem?_eq_getElem (inside group member), endAts_recordsOf]

namespace Placed

/-- Gates that were placed before do not change those of other groups. -/
theorem records_record
    (gap : α)
    (placed : Placed α)
    (earlier : List (Record α))
    (groups : Groups) :
    records gap (placed.record earlier).nodes groups = records gap placed.nodes groups := by
  rw [records, records, List.flatMap_congr]
  intro group _
  rw [record, List.getElem?_mapIdx]
  cases placed.nodes[group.1.1]? with
  | none =>
      rfl
  | some node =>
      rfl

end Placed

/-- The gates of a group are recorded on its box. -/
theorem placeGroup_eq
    {placed : Placed α}
    {group : BoxSide × List (LinkId × LinkEnd)}
    {node : NodeLayout α}
    (gap : α)
    (found : placed.nodes[group.1.1]? = some node)
    (sameId : node.id = group.1.1) :
    placeGroup gap placed group = .ok (placed.record (recordsOf gap group node)) := by
  obtain ⟨⟨id, side⟩, links⟩ := group
  simp only at found sameId
  have ofBox :
      ∀ record ∈ recordsOf gap ((id, side), links) node, record.box = id := by
    intro record member
    obtain ⟨_, _, rfl⟩ := List.mem_map.mp member
    rfl
  simp only [placeGroup, found, Option.filter_some, sameId, beq_self_eq_true, if_true]
  congr 1
  rw [Placed.record]
  congr 1
  · apply List.ext_getElem?
    intro position
    rw [List.getElem?_modify, List.getElem?_mapIdx]
    cases placed.nodes[position]? with
    | none =>
        rfl
    | some other =>
        by_cases isBox : id = position
        · subst isBox
          rw [List.filter_eq_self.mpr fun record member => by simp [ofBox record member]]
          simp [recordsOf]
        · rw [List.filter_eq_nil_iff.mpr fun record member => by
            simp [ofBox record member, isBox]]
          simp [isBox]
  · simp [recordsOf, Record.gatePoint, Function.comp_def]

/-- The gates of groups are recorded on their boxes if these stand at their numbers. -/
theorem foldlM_placeGroup_eq
    {groups : Groups}
    {placed : Placed α}
    (gap : α)
    (laidOut :
      ∀ group ∈ groups, ∃ node, placed.nodes[group.1.1]? = some node ∧ node.id = group.1.1) :
    groups.foldlM (placeGroup gap) placed =
      .ok (placed.record (records gap placed.nodes groups)) := by
  induction groups generalizing placed with
  | nil =>
      rw [show records gap placed.nodes [] = [] from rfl, Placed.record_nil]
      rfl
  | cons group rest inductionHypothesis =>
      obtain ⟨node, found, sameId⟩ := laidOut group List.mem_cons_self
      rw [List.foldlM_cons, placeGroup_eq gap found sameId, Attempt.ok_bind,
        inductionHypothesis fun other member => ?_, Placed.records_record, Placed.record_append]
      · simp [records, found]
      · obtain ⟨shown, isShown, isBox⟩ := laidOut other (List.mem_cons_of_mem _ member)
        rw [Placed.record, List.getElem?_mapIdx, isShown]
        exact ⟨_, rfl, isBox⟩

/-- Placing the gates of a side changes nothing but gates. -/
theorem isOn_of_placeGroup
    {gap : α}
    {group : BoxSide × List (LinkId × LinkEnd)}
    {before after : Placed α}
    (succeeded : placeGroup gap before group = .ok after) :
    after.IsOn before.nodes := by
  rw [placeGroup] at succeeded
  split at succeeded
  · cases succeeded
  · cases succeeded
    apply List.ext_getElem?
    intro position
    rw [List.getElem?_map, List.getElem?_modify, List.getElem?_map]
    cases before.nodes[position]? with
    | none =>
        rfl
    | some node =>
        by_cases isBox : group.1.1 = position
        · simp [isBox, NodeLayout.withoutGates]
        · simp [isBox]

/-- Apart from their gates boxes stay as they were. -/
theorem isOn_of_place
    {gap : α}
    {routes : List Route}
    {nodes : List (NodeLayout α)}
    {placed : Placed α}
    (succeeded : place gap routes nodes = .ok placed) :
    placed.IsOn nodes := by
  have atStart : Placed.IsOn nodes ⟨nodes, []⟩ := rfl
  apply Attempt.foldlM_keeps succeeded atStart
  intro group _ before after isOn step
  exact (isOn_of_placeGroup step).trans isOn

/-- The gates of all routes. -/
def recordsOfRoutes
    (gap : α)
    (routes : List Route)
    (nodes : List (NodeLayout α)) : List (Record α) :=
  records gap nodes (Groups.ofRoutes routes)

section Routes

variable {routes : List Route} {nodes : List (NodeLayout α)}

/-- The boxes at which routes end are laid out, and stand at their numbers. -/
def AreLaidOut (nodes : List (NodeLayout α)) (routes : List Route) : Prop :=
  ∀ route ∈ routes, ∀ linkEnd, ∃ node,
    nodes[(sideOf route linkEnd).1]? = some node ∧ node.id = (sideOf route linkEnd).1

omit [Scalar α] in
/-- Each route ends at boxes that are laid out. -/
theorem AreLaidOut.inside
    (laidOut : AreLaidOut nodes routes) :
    ∀ route ∈ routes, ∀ linkEnd, (sideOf route linkEnd).1 < nodes.length := by
  intro route isRoute linkEnd
  obtain ⟨_, found, _⟩ := laidOut route isRoute linkEnd
  exact (List.getElem?_eq_some_iff.mp found).1

omit [Scalar α] in
/-- Each side with gates is one of a box that is laid out. -/
theorem AreLaidOut.exists_node
    (laidOut : AreLaidOut nodes routes)
    {group : BoxSide × List (LinkId × LinkEnd)}
    (member : group ∈ Groups.ofRoutes routes) :
    ∃ node, nodes[group.1.1]? = some node ∧ node.id = group.1.1 := by
  obtain ⟨route, isRoute, linkEnd, same⟩ := Groups.side_of_mem_ofRoutes member
  rw [same]
  exact laidOut route isRoute linkEnd

/-- Gates of routes between boxes that are laid out can be placed, and are the recorded ones. -/
theorem place_of_laidOut
    (gap : α)
    (laidOut : AreLaidOut nodes routes) :
    place gap routes nodes =
      .ok (Placed.record ⟨nodes, []⟩ (recordsOfRoutes gap routes nodes)) :=
  foldlM_placeGroup_eq gap fun _ member => laidOut.exists_node member

/-- Gates of routes between known boxes can be placed, and are the recorded ones. -/
theorem place_eq
    (gap : α)
    (inOrder : nodes.map (·.id) = List.range nodes.length)
    (joined : AreJoined nodes.length routes) :
    place gap routes nodes =
      .ok (Placed.record ⟨nodes, []⟩ (recordsOfRoutes gap routes nodes)) :=
  place_of_laidOut gap fun route isRoute linkEnd =>
    have found := List.getElem?_eq_getElem (joined.inside route isRoute linkEnd)
    ⟨_, found, NodeLayout.id_eq_of_getElem? inOrder found⟩

section Inside

variable (gap : α) (inside : ∀ route ∈ routes, ∀ linkEnd, (sideOf route linkEnd).1 < nodes.length)

include inside

/-- All routes have one record for each of their grouped ends. -/
theorem endAts_recordsOfRoutes :
    (recordsOfRoutes gap routes nodes).map (·.endAt) = (Groups.ofRoutes routes).ends := by
  refine endAts_records gap fun group member => ?_
  obtain ⟨route, isRoute, linkEnd, same⟩ := Groups.side_of_mem_ofRoutes member
  rw [same]
  exact inside route isRoute linkEnd

/-- The records are those of the ends of all routes, in another order. -/
theorem perm_endAts :
    ((recordsOfRoutes gap routes nodes).map (·.endAt)).Perm (routes.flatMap endsOf) := by
  rw [endAts_recordsOfRoutes gap inside]
  exact Groups.perm_ends_ofRoutes routes

/-- No end of a link has two records. -/
theorem nodup_records
    (nodup : (routes.map (·.link)).Nodup) :
    ((recordsOfRoutes gap routes nodes).map (·.endAt.2)).Nodup := by
  have distinct := ((perm_endAts gap inside).map (·.2)).nodup_iff.mpr (nodup_ends nodup)
  rwa [List.map_map] at distinct

end Inside

/-- Each end of a route has a record. -/
theorem exists_record
    (gap : α)
    (joined : AreJoined nodes.length routes)
    {route : Route}
    (isRoute : route ∈ routes)
    (linkEnd : LinkEnd) :
    ∃ record ∈ recordsOfRoutes gap routes nodes,
      record.endAt = (sideOf route linkEnd, (route.link, linkEnd)) := by
  have isEnd : (sideOf route linkEnd, (route.link, linkEnd)) ∈ routes.flatMap endsOf :=
    List.mem_flatMap.mpr ⟨route, isRoute, mem_endsOf_iff.mpr rfl⟩
  obtain ⟨record, isRecord, same⟩ :=
    List.mem_map.mp ((perm_endAts gap joined.inside).mem_iff.mpr isEnd)
  exact ⟨record, isRecord, same⟩

/-- Each record is one of an end of a route. -/
theorem exists_route
    {gap : α}
    (joined : AreJoined nodes.length routes)
    {record : Record α}
    (isRecord : record ∈ recordsOfRoutes gap routes nodes) :
    ∃ route ∈ routes,
      record.endAt = (sideOf route record.linkEnd, (route.link, record.linkEnd)) := by
  have isEnd := (perm_endAts gap joined.inside).mem_iff.mp (List.mem_map_of_mem isRecord)
  obtain ⟨route, isRoute, atEnd⟩ := List.mem_flatMap.mp isEnd
  exact ⟨route, isRoute, mem_endsOf_iff.mp atEnd⟩

/-- There is one record for each end of a link. -/
theorem record_eq
    {gap : α}
    (joined : AreJoined nodes.length routes)
    {first second : Record α}
    (isFirst : first ∈ recordsOfRoutes gap routes nodes)
    (isSecond : second ∈ recordsOfRoutes gap routes nodes)
    (sameEnd : first.endAt.2 = second.endAt.2) :
    first = second := by
  exact List.inj_on_of_nodup_map (nodup_records gap joined.inside joined.nodup) isFirst isSecond
    sameEnd

/-- The point of an end of a route is that of its gate. -/
theorem exists_lookup
    (gap : α)
    (joined : AreJoined nodes.length routes)
    {route : Route}
    (isRoute : route ∈ routes)
    (linkEnd : LinkEnd) :
    ∃ record ∈ recordsOfRoutes gap routes nodes,
      record.endAt = (sideOf route linkEnd, (route.link, linkEnd)) ∧
        (Placed.record ⟨nodes, []⟩ (recordsOfRoutes gap routes nodes)).points.lookup
            (route.link, linkEnd) = some record.gate.point := by
  obtain ⟨record, isRecord, isEnd⟩ := exists_record gap joined isRoute linkEnd
  have sameKey : record.endAt.2 = (route.link, linkEnd) := congrArg Prod.snd isEnd
  refine ⟨record, isRecord, isEnd, ?_⟩
  rw [← sameKey]
  exact Placed.lookup_record nodes (nodup_records gap joined.inside joined.nodup) isRecord

/-- A box has one gate for each link that ends there. -/
theorem record_eq_of_box
    {gap : α}
    (joined : AreJoined nodes.length routes)
    {first second : Record α}
    (isFirst : first ∈ recordsOfRoutes gap routes nodes)
    (isSecond : second ∈ recordsOfRoutes gap routes nodes)
    (sameLink : second.gate.link = first.gate.link)
    (sameBox : second.box = first.box) :
    second = first := by
  obtain ⟨firstRoute, isFirstRoute, firstEnd⟩ := exists_route joined isFirst
  obtain ⟨secondRoute, isSecondRoute, secondEnd⟩ := exists_route joined isSecond
  have firstLink : first.gate.link = firstRoute.link := congrArg (·.2.1) firstEnd
  have secondLink : second.gate.link = secondRoute.link := congrArg (·.2.1) secondEnd
  obtain rfl :=
    joined.route_eq isSecondRoute isFirstRoute
      (secondLink.symm.trans (sameLink.trans firstLink))
  have firstBox : first.box = (sideOf secondRoute first.linkEnd).1 := congrArg (·.1.1) firstEnd
  have secondBox : second.box = (sideOf secondRoute second.linkEnd).1 :=
    congrArg (·.1.1) secondEnd
  rw [secondBox, firstBox] at sameBox
  have sameEnd := joined.end_eq isSecondRoute sameBox
  exact record_eq joined isSecond isFirst (Prod.ext sameLink sameEnd)

/-- Each end of each route has a gate, which is the only one of its link on its box. -/
theorem exists_gate
    (gap : α)
    (joined : AreJoined nodes.length routes)
    (noGates : ∀ node ∈ nodes, node.gates = [])
    {placed : Placed α}
    (isPlaced : placed = Placed.record ⟨nodes, []⟩ (recordsOfRoutes gap routes nodes))
    {route : Route}
    (isRoute : route ∈ routes)
    (linkEnd : LinkEnd) :
    ∃ gate node, placed.points.lookup (route.link, linkEnd) = some gate.point ∧
      placed.nodes[(sideOf route linkEnd).1]? = some node ∧
        gate ∈ node.gates ∧ gate.link = route.link ∧ gate.side = (sideOf route linkEnd).2 ∧
          ∀ other ∈ node.gates, other.link = route.link → other = gate := by
  subst isPlaced
  obtain ⟨record, isRecord, isEnd, isFound⟩ := exists_lookup gap joined isRoute linkEnd
  have sameBox : record.box = (sideOf route linkEnd).1 := congrArg (·.1.1) isEnd
  have sameLink : record.gate.link = route.link := congrArg (·.2.1) isEnd
  have isInside := joined.inside route isRoute linkEnd
  obtain ⟨node, isNode, mem_gates_iff⟩ :=
    Placed.exists_node_of_record (recordsOfRoutes gap routes nodes)
      (List.getElem?_eq_getElem isInside) (noGates _ (List.getElem_mem isInside))
  refine ⟨record.gate, node, isFound, isNode,
    (mem_gates_iff _).mpr ⟨record, isRecord, sameBox, rfl⟩,
    sameLink, congrArg (·.1.2) isEnd, ?_⟩
  intro other isOther otherLink
  obtain ⟨second, isSecond, secondBox, rfl⟩ := (mem_gates_iff other).mp isOther
  rw [record_eq_of_box joined isRecord isSecond (otherLink.trans sameLink.symm)
    (secondBox.trans sameBox.symm)]

end Routes

end Gate

end BoxDiagram
