import BoxDiagram.Proofs.Road.Exits
import BoxDiagram.Road.Map
import Mathlib.Data.List.Nodup

namespace BoxDiagram

/-!
# Maps over the roads of a graph

A map that starts with one value for each road of a graph knows exactly the roads
of the graph, and keeps knowing them whatever is changed in it.
-/

variable {β γ : Type}

namespace ContainerRoads

/-- Changing the value of a road leaves the values of all other roads alone. -/
theorem getElem?_along_modify
    (roads : ContainerRoads β)
    (axis other : Axis)
    (avenue otherAvenue : Nat)
    (change : β → β) :
    ((roads.modify axis avenue change).along other)[otherAvenue]? =
      if axis = other ∧ avenue = otherAvenue then
        (roads.along other)[otherAvenue]?.map change
      else (roads.along other)[otherAvenue]? := by
  cases axis <;> cases other <;> simp [modify, along, Array.getElem?_modify]

end ContainerRoads

namespace RoadMap

/-- A change at one road leaves the others. -/
theorem get?_modify
    (roads : RoadMap β)
    (road other : Road)
    (change : β → β) :
    (roads.modify road change).get? other =
      if road = other then (roads.get? other).map change else roads.get? other := by
  obtain ⟨container, axis, avenue⟩ := road
  obtain ⟨otherContainer, otherAxis, otherAvenue⟩ := other
  simp only [get?, modify, Array.getElem?_modify, Road.mk.injEq]
  by_cases sameContainer : container = otherContainer
  · subst sameContainer
    cases roads.containers[container]? with
    | none =>
        simp
    | some values =>
        simp [ContainerRoads.getElem?_along_modify]
  · simp [sameContainer]

/-- Setting a value at one road leaves the others. -/
theorem get?_set
    (roads : RoadMap β)
    (road other : Road)
    (value : β) :
    (roads.set road value).get? other =
      if road = other then (roads.get? other).map fun _ => value else roads.get? other :=
  get?_modify roads road other fun _ => value

/-- A map is changed road by road. -/
theorem get?_map
    (roads : RoadMap β)
    (change : β → γ)
    (road : Road) :
    (roads.map change).get? road = (roads.get? road).map change := by
  simp only [get?, map, Array.getElem?_map]
  cases roads.containers[road.container]? with
  | none =>
      rfl
  | some values =>
      cases road.axis <;> simp [ContainerRoads.along]

/-- A new map knows the roads of the graph. -/
theorem get?_ofGraph_eq_some_iff
    {α : Type}
    {graph : Graph α}
    {value found : β}
    {road : Road} :
    (ofGraph graph value).get? road = some found ↔ graph.HasRoad road ∧ value = found := by
  have known :
      ∀ {node : Node α}, graph.get? road.container = some node →
        ((ofGraph graph value).get? road = some found ↔
          graph.IsRoadOf node road ∧ value = found) := by
    intro node isNode
    have values :
        (ofGraph graph value).get? road =
          ((ContainerRoads.ofNode node value).along road.axis)[road.avenue]? := by
      simp only [get?, ofGraph, Array.getElem?_map]
      rw [show graph.nodes[road.container]? = some node from isNode]
      rfl
    rw [values, ContainerRoads.ofNode]
    cases isContainer : node.isContainer with
    | false =>
        have notRoad : ¬ graph.IsRoadOf node road := by
          intro isRoad
          cases isContainer.symm.trans isRoad.isContainer
        cases road.axis <;> simp [ContainerRoads.along, notRoad]
    | true =>
        rw [Graph.isRoadOf_iff isNode isContainer]
        cases road.axis with
        | main =>
            simp only [ContainerRoads.along, if_true, Array.getElem?_replicate, Node.mainAvenues,
              Nat.lt_succ_iff, Option.ite_none_right_eq_some, Option.some.injEq]
        | cross =>
            simp [ContainerRoads.along, Array.getElem?_replicate]
  constructor
  · intro isFound
    cases isNode : graph.get? road.container with
    | none =>
        simp only [get?, ofGraph, Array.getElem?_map] at isFound
        rw [show graph.nodes[road.container]? = none from isNode] at isFound
        cases isFound
    | some node =>
        obtain ⟨isRoad, same⟩ := (known isNode).mp isFound
        exact ⟨⟨node, isRoad⟩, same⟩
  · rintro ⟨⟨node, isRoad⟩, same⟩
    exact (known isRoad.found).mpr ⟨isRoad, same⟩

/-- A new map has the same value at each road of its graph. -/
theorem get?_ofGraph
    {α : Type}
    {graph : Graph α}
    {road : Road}
    (exists_road : graph.HasRoad road)
    (value : β) :
    (ofGraph graph value).get? road = some value :=
  get?_ofGraph_eq_some_iff.mpr ⟨exists_road, rfl⟩

/-- The numbers of values that a map has for the containers of a graph. -/
def sizes (roads : RoadMap β) : List (Nat × Nat) :=
  roads.containers.toList.map fun values => (values.main.size, values.cross.size)

/-- The roads that a map knows, in order. -/
def keys (roads : RoadMap β) : List Road :=
  roads.toList.map (·.1)

@[simp] theorem sizes_modify
    (roads : RoadMap β)
    (road : Road)
    (change : β → β) :
    (roads.modify road change).sizes = roads.sizes := by
  apply List.ext_getElem?
  intro position
  simp only [sizes, modify, List.getElem?_map, Array.toList_modify, List.getElem?_modify]
  cases roads.containers.toList[position]? with
  | none =>
      rfl
  | some values =>
      simp only [Option.map_some]
      split
      · cases axis : road.axis <;> simp [ContainerRoads.modify]
      · rfl

@[simp] theorem sizes_set
    (roads : RoadMap β)
    (road : Road)
    (value : β) :
    (roads.set road value).sizes = roads.sizes :=
  sizes_modify roads road fun _ => value

@[simp] theorem sizes_map
    (roads : RoadMap β)
    (change : β → γ) :
    (roads.map change).sizes = roads.sizes := by
  simp [sizes, map, Function.comp_def]

/-- What depends on the positions of a list only is told by its length. -/
theorem map_zipIdx_eq_map_range
    {items : List β}
    {ofEntry : β × Nat → γ}
    {ofPosition : Nat → γ}
    (same : ∀ value position, ofEntry (value, position) = ofPosition position) :
    items.zipIdx.map ofEntry = (List.range items.length).map ofPosition := by
  rw [List.range_eq_range', ← List.zipIdx_map_snd 0 items, List.map_map]
  exact List.map_congr_left fun entry _ => same entry.1 entry.2

/-- The roads of one container are told by the number of its values. -/
theorem map_fst_entries
    (container : NodeId)
    (values : ContainerRoads β) :
    (entries container values).map (·.1) =
      (List.range values.main.size).map (Road.main container) ++
        (List.range values.cross.size).map (Road.cross container) := by
  rw [entries, List.map_append, List.map_map, List.map_map,
    map_zipIdx_eq_map_range fun _ _ => rfl, map_zipIdx_eq_map_range fun _ _ => rfl,
    Array.length_toList, Array.length_toList]
  rfl

/-- The roads of a map are listed container by container, those of the main axis first. -/
theorem keys_eq
    (roads : RoadMap β) :
    roads.keys =
      roads.sizes.zipIdx.flatMap fun (size, container) =>
        (List.range size.1).map (Road.main container) ++
          (List.range size.2).map (Road.cross container) := by
  rw [keys, toList, sizes, List.map_flatMap, List.zipIdx_map, List.flatMap_map]
  congr 1
  funext entry
  exact map_fst_entries entry.2 entry.1

/-- Maps of the same sizes have the same roads. -/
theorem keys_congr
    {roads : RoadMap β}
    {others : RoadMap γ}
    (same : roads.sizes = others.sizes) :
    roads.keys = others.keys := by
  rw [keys_eq, keys_eq, same]

/-- The list of a map holds each road that it knows, with its value. -/
theorem mem_toList_iff
    {roads : RoadMap β}
    {road : Road}
    {value : β} :
    (road, value) ∈ roads.toList ↔ roads.get? road = some value := by
  obtain ⟨container, axis, avenue⟩ := road
  have mem_entries :
      ∀ (other : NodeId) (values : ContainerRoads β),
        ((⟨container, axis, avenue⟩ : Road), value) ∈ entries other values ↔
          other = container ∧ (values.along axis)[avenue]? = some value := by
    intro other values
    simp only [entries, List.mem_append, List.mem_map, Prod.exists,
      List.mem_zipIdx_iff_getElem?, Prod.mk.injEq, Road.main, Road.cross, Road.mk.injEq]
    cases axis <;> simp [ContainerRoads.along, and_comm]
  simp only [toList, List.mem_flatMap, Prod.exists, List.mem_zipIdx_iff_getElem?, mem_entries,
    get?, Array.getElem?_toList]
  constructor
  · rintro ⟨values, other, isValues, rfl, isValue⟩
    rw [isValues]
    exact isValue
  · intro isFound
    cases isValues : roads.containers[container]? with
    | none =>
        rw [isValues] at isFound
        cases isFound
    | some values =>
        rw [isValues] at isFound
        exact ⟨values, container, isValues, rfl, isFound⟩

/-- A map lists each of its roads once. -/
theorem nodup_keys
    (roads : RoadMap β) :
    roads.keys.Nodup := by
  have nodup_own :
      ∀ (container : NodeId) (size : Nat × Nat),
        ((List.range size.1).map (Road.main container) ++
          (List.range size.2).map (Road.cross container)).Nodup := by
    intro container size
    refine List.nodup_append.mpr ⟨?_, ?_, ?_⟩
    · exact List.nodup_range.map fun first second same => by cases same; rfl
    · exact List.nodup_range.map fun first second same => by cases same; rfl
    · intro gap isGap edge isEdge same
      obtain ⟨_, _, rfl⟩ := List.mem_map.mp isGap
      obtain ⟨_, _, rfl⟩ := List.mem_map.mp isEdge
      cases same
  have container_eq :
      ∀ {container : NodeId} {size : Nat × Nat} {road : Road},
        road ∈ (List.range size.1).map (Road.main container) ++
            (List.range size.2).map (Road.cross container) →
          road.container = container := by
    intro container size road member
    rcases List.mem_append.mp member with isGap | isEdge
    · obtain ⟨_, _, rfl⟩ := List.mem_map.mp isGap
      rfl
    · obtain ⟨_, _, rfl⟩ := List.mem_map.mp isEdge
      rfl
  rw [keys_eq, List.nodup_flatMap]
  refine ⟨fun entry _ => nodup_own entry.2 entry.1, ?_⟩
  have distinct : (roads.sizes.zipIdx.map (·.2)).Nodup := by
    rw [List.zipIdx_map_snd]
    exact List.nodup_range'
  rw [List.Nodup, List.pairwise_map] at distinct
  refine distinct.imp fun apart road isFirst isSecond => apart ?_
  exact (container_eq isFirst).symm.trans (container_eq isSecond)

/-- Values that are given for the roads of a map in order are all that it lists. -/
theorem toList_eq_of_values
    {roads : RoadMap β}
    {values : List (Road × β)}
    (sameRoads : values.map (·.1) = roads.keys)
    (areValues : ∀ entry ∈ values, roads.get? entry.1 = some entry.2) :
    roads.toList = values := by
  have listed : ∀ entry ∈ roads.toList, roads.get? entry.1 = some entry.2 :=
    fun _ member => mem_toList_iff.mp member
  have keysEq : roads.toList.map (·.1) = values.map (·.1) := sameRoads.symm
  generalize roads.toList = entries at listed keysEq
  clear sameRoads
  induction values generalizing entries with
  | nil =>
      simpa using keysEq
  | cons value rest inductionHypothesis =>
      cases entries with
      | nil =>
          cases keysEq
      | cons entry others =>
          rw [List.map_cons, List.map_cons, List.cons.injEq] at keysEq
          have first := areValues value List.mem_cons_self
          rw [← keysEq.1, listed entry List.mem_cons_self] at first
          have laterValues := fun other member =>
            areValues other (List.mem_cons_of_mem _ member)
          have laterListed := fun other member =>
            listed other (List.mem_cons_of_mem _ member)
          rw [Prod.ext keysEq.1 (Option.some.inj first),
            inductionHypothesis laterValues others laterListed keysEq.2]

theorem get?_foldl_set_of_not_mem
    {roads : RoadMap β}
    {values : List (Road × β)}
    {road : Road}
    (notEntered : road ∉ values.map (·.1)) :
    (values.foldl (fun roads entry => roads.set entry.1 entry.2) roads).get? road =
      roads.get? road := by
  induction values generalizing roads with
  | nil =>
      rfl
  | cons value rest inductionHypothesis =>
      rw [List.map_cons, List.mem_cons, not_or] at notEntered
      rw [List.foldl_cons, inductionHypothesis notEntered.2, get?_set,
        if_neg (Ne.symm notEntered.1)]

/-- A value that was entered for a road of a map is found there. -/
theorem get?_foldl_set
    {roads : RoadMap β}
    {values : List (Road × β)}
    {entry : Road × β}
    (nodup : (values.map (·.1)).Nodup)
    (member : entry ∈ values)
    (known : (roads.get? entry.1).isSome) :
    (values.foldl (fun roads entry => roads.set entry.1 entry.2) roads).get? entry.1 =
      some entry.2 := by
  induction values generalizing roads with
  | nil =>
      cases member
  | cons value rest inductionHypothesis =>
      rw [List.map_cons, List.nodup_cons] at nodup
      rw [List.foldl_cons]
      rcases List.mem_cons.mp member with rfl | later
      · obtain ⟨old, isOld⟩ := Option.isSome_iff_exists.mp known
        rw [get?_foldl_set_of_not_mem nodup.1, get?_set, if_pos rfl, isOld]
        rfl
      · apply inductionHypothesis nodup.2 later
        rw [get?_set]
        split
        · rw [Option.isSome_map]
          exact known
        · exact known

/-- Values that are entered for the roads of a map in order are all that it then lists. -/
theorem toList_foldl_set
    {roads : RoadMap β}
    {values : List (Road × β)}
    (sameRoads : values.map (·.1) = roads.keys) :
    (values.foldl (fun roads entry => roads.set entry.1 entry.2) roads).toList = values := by
  have sameSizes :
      ∀ (entries : List (Road × β)) (others : RoadMap β),
        (entries.foldl (fun roads entry => roads.set entry.1 entry.2) others).sizes =
          others.sizes := by
    intro entries
    induction entries with
    | nil =>
        intro others
        rfl
    | cons entry rest inductionHypothesis =>
        intro others
        rw [List.foldl_cons, inductionHypothesis, sizes_set]
  apply toList_eq_of_values (sameRoads.trans (keys_congr (sameSizes values roads).symm))
  intro entry member
  have nodup : (values.map (·.1)).Nodup := sameRoads ▸ roads.nodup_keys
  have isKey : entry.1 ∈ roads.keys := sameRoads ▸ List.mem_map_of_mem member
  obtain ⟨listed, isListed, same⟩ := List.mem_map.mp isKey
  refine get?_foldl_set nodup member (Option.isSome_iff_exists.mpr ⟨listed.2, ?_⟩)
  exact same ▸ mem_toList_iff.mp isListed

/-- What is kept was listed. -/
theorem mem_of_mem_keepUnmarked
    {road : Road}
    {roads : List Road} :
    ∀ {marks : RoadMap Bool}, road ∈ marks.keepUnmarked roads → road ∈ roads := by
  induction roads with
  | nil =>
      intro marks member
      cases member
  | cons head rest inductionHypothesis =>
      intro marks member
      rw [keepUnmarked] at member
      split at member
      · exact List.mem_cons_of_mem _ (inductionHypothesis member)
      · rcases List.mem_cons.mp member with isHead | isLater
        · exact isHead ▸ List.mem_cons_self
        · exact List.mem_cons_of_mem _ (inductionHypothesis isLater)

/-- What is not marked is kept. -/
theorem mem_keepUnmarked
    {road : Road}
    {roads : List Road}
    (member : road ∈ roads) :
    ∀ {marks : RoadMap Bool}, marks.get? road ≠ some true → road ∈ marks.keepUnmarked roads := by
  induction roads with
  | nil =>
      cases member
  | cons head rest inductionHypothesis =>
      intro marks unmarked
      rw [keepUnmarked]
      by_cases isHead : road = head
      · subst isHead
        rw [if_neg unmarked]
        exact List.mem_cons_self
      · have isLater := (List.mem_cons.mp member).resolve_left isHead
        split
        · exact inductionHypothesis isLater unmarked
        · refine List.mem_cons_of_mem _ (inductionHypothesis isLater ?_)
          rw [get?_set, if_neg (Ne.symm isHead)]
          exact unmarked

/-- Keeping roads only where they stand first loses none of them. -/
theorem mem_distinct_iff
    {α : Type}
    {graph : Graph α}
    {road : Road}
    {roads : List Road} :
    road ∈ distinct graph roads ↔ road ∈ roads := by
  refine ⟨mem_of_mem_keepUnmarked, fun member => mem_keepUnmarked member fun isMarked => ?_⟩
  cases (get?_ofGraph_eq_some_iff.mp isMarked).2

/-- A map has exactly one value for each road of a graph. -/
def IsOver
    {α : Type}
    (graph : Graph α)
    (roads : RoadMap β) : Prop :=
  roads.sizes = (ofGraph graph ()).sizes

namespace IsOver

variable {α : Type} {graph : Graph α} {roads : RoadMap β}

/-- A new map has a value for each road. -/
theorem ofGraph
    (graph : Graph α)
    (value : β) :
    (RoadMap.ofGraph graph value).IsOver graph := by
  have sameSizes :
      ∀ node : Node α,
        ((ContainerRoads.ofNode node value).main.size,
            (ContainerRoads.ofNode node value).cross.size) =
          ((ContainerRoads.ofNode node ()).main.size,
            (ContainerRoads.ofNode node ()).cross.size) := by
    intro node
    rw [ContainerRoads.ofNode, ContainerRoads.ofNode]
    split <;> simp
  simp only [IsOver, sizes, RoadMap.ofGraph, Array.toList_map, List.map_map]
  exact List.map_congr_left fun node _ => sameSizes node

/-- A map stays over its graph when a value changes. -/
theorem modify
    (isOver : roads.IsOver graph)
    (road : Road)
    (change : β → β) :
    (roads.modify road change).IsOver graph :=
  (sizes_modify roads road change).trans isOver

/-- A map stays over its graph when a value is set. -/
theorem set
    (isOver : roads.IsOver graph)
    (road : Road)
    (value : β) :
    (roads.set road value).IsOver graph :=
  (sizes_set roads road value).trans isOver

/-- A map stays over its graph when all values change. -/
theorem map
    (isOver : roads.IsOver graph)
    (change : β → γ) :
    (roads.map change).IsOver graph :=
  (sizes_map roads change).trans isOver

/-- A map knows a road exactly if the graph has it. -/
theorem exists_get?_iff
    (isOver : roads.IsOver graph)
    {road : Road} :
    (∃ value, roads.get? road = some value) ↔ graph.HasRoad road := by
  have mem_keys_iff :
      ∀ {δ : Type} (others : RoadMap δ), road ∈ others.keys ↔
        ∃ value, others.get? road = some value := by
    intro δ others
    simp [keys, mem_toList_iff]
  rw [← mem_keys_iff, keys_congr isOver, mem_keys_iff]
  constructor
  · rintro ⟨value, isFound⟩
    exact (get?_ofGraph_eq_some_iff.mp isFound).1
  · intro exists_road
    exact ⟨(), get?_ofGraph exists_road ()⟩

/-- A map over a graph has no value at roads that the graph lacks. -/
theorem get?_eq_none
    (isOver : roads.IsOver graph)
    {road : Road}
    (unknown : ¬ graph.HasRoad road) :
    roads.get? road = none :=
  Option.eq_none_iff_forall_not_mem.mpr fun value isFound =>
    unknown (isOver.exists_get?_iff.mp ⟨value, isFound⟩)

end IsOver

end RoadMap

end BoxDiagram
