import BoxDiagram.Proofs.Layout.Engine
import BoxDiagram.Proofs.Layout.Fit
import BoxDiagram.Proofs.Layout.Flow

namespace BoxDiagram

/-!
# Layouts are nested

Sizes are found from the innermost boxes outward, places from the root inward.  Each box
is given a place of the size that was found for it, which leaves room for what it holds,
so that its children are given places of their sizes again.
-/

namespace Placement

variable {α : Type}

/-- All that one placement places is placed by another one. -/
structure IsPartOf (part whole : Placement α) : Prop where
  nodes : part.nodes ⊆ whole.nodes
  roads : part.roads ⊆ whole.roads

theorem isPartOf_append_left
    (first second : Placement α) :
    first.IsPartOf (first.append second) :=
  ⟨List.subset_append_left _ _, List.subset_append_left _ _⟩

theorem isPartOf_append_right
    (first second : Placement α) :
    second.IsPartOf (first.append second) :=
  ⟨List.subset_append_right _ _, List.subset_append_right _ _⟩

/-- A box is placed at a rectangle. -/
def HasBox (placement : Placement α) (id : NodeId) (area : Bounds α) : Prop :=
  ∃ shown ∈ placement.nodes, shown.id = id ∧ shown.bounds = area

/-- A road is placed at a rectangle. -/
def HasRoad (placement : Placement α) (road : Road) (area : Bounds α) : Prop :=
  ∃ band ∈ placement.roads, band.road = road ∧ band.bounds = area

/-- The roads and children of a container are placed where an arrangement has them. -/
structure Follows
    (placement : Placement α)
    (node : Node α)
    (arrangement : Arrangement α) : Prop where
  gap :
    ∀ avenue < node.mainAvenues, ∃ area, arrangement.gaps[avenue]? = some area ∧
      placement.HasRoad (.main node.id avenue) area
  startEdge : placement.HasRoad (.cross node.id 0) arrangement.startEdge
  endEdge : placement.HasRoad (.cross node.id 1) arrangement.endEdge
  child :
    ∀ {index : Nat} {child : NodeId}, node.children[index]? = some child →
      ∃ area, arrangement.items[index]? = some area ∧ placement.HasBox child area

/-- Each road of a box is placed, with its lanes inside it. -/
def KeepsLanes (placement : Placement Rat) (node : Node Rat) : Prop :=
  ∀ road ∈ Road.ofBox node, ∃ band ∈ placement.roads, band.road = road ∧
    band.KeepsLanes (node.itemFrame.axisDirection road.axis).axis

/--
A box leaves its strips free, and what it holds is arranged below its label in the order
of its flow.
-/
structure Nests
    (placement : Placement Rat)
    (node : Node Rat)
    (label : Option (Size Rat))
    (shown : NodeLayout Rat) : Prop where
  member : shown ∈ placement.nodes
  id_eq : shown.id = node.id
  margin : Bounds.IsShrunk node.spacing.margin shown.visible shown.bounds
  inner : Bounds.IsShrunk node.spacing.inner shown.content shown.visible
  lanes : placement.KeepsLanes node
  contents :
    node.isContainer = true →
      ∃ body arrangement, placement.Follows node arrangement ∧
        arrangement.IsIn body ∧ arrangement.IsInFlow node.itemFrame ∧
          ∀ area : Bounds Rat, area.IsInside body → BoxBounds.Holds shown.content label area

namespace IsPartOf

variable {part whole : Placement α}

/-- What a part shows, the whole shows. -/
theorem hasBox
    (isPart : part.IsPartOf whole)
    {id : NodeId}
    {area : Bounds α}
    (has : part.HasBox id area) :
    whole.HasBox id area := by
  obtain ⟨shown, member, same⟩ := has
  exact ⟨shown, isPart.nodes member, same⟩

/-- A road that a part shows, the whole shows. -/
theorem hasRoad
    (isPart : part.IsPartOf whole)
    {road : Road}
    {area : Bounds α}
    (has : part.HasRoad road area) :
    whole.HasRoad road area := by
  obtain ⟨band, member, same⟩ := has
  exact ⟨band, isPart.roads member, same⟩

/-- A part that follows an arrangement does so within the whole. -/
theorem follows
    (isPart : part.IsPartOf whole)
    {node : Node α}
    {arrangement : Arrangement α}
    (followed : part.Follows node arrangement) :
    whole.Follows node arrangement := by
  constructor
  case gap =>
    intro avenue inside
    obtain ⟨area, isArea, has⟩ := followed.gap avenue inside
    exact ⟨area, isArea, isPart.hasRoad has⟩
  case startEdge =>
    exact isPart.hasRoad followed.startEdge
  case endEdge =>
    exact isPart.hasRoad followed.endEdge
  case child =>
    intro index child listed
    obtain ⟨area, isArea, has⟩ := followed.child listed
    exact ⟨area, isArea, isPart.hasBox has⟩

/-- A part that nests a box does so within the whole. -/
theorem nests
    {part whole : Placement Rat}
    (isPart : part.IsPartOf whole)
    {node : Node Rat}
    {label : Option (Size Rat)}
    {shown : NodeLayout Rat}
    (nested : part.Nests node label shown) :
    whole.Nests node label shown := by
  refine {
    nested with
    member := isPart.nodes nested.member
    lanes := fun road isRoad => ?_
    contents := fun isContainer => ?_ }
  · obtain ⟨band, member, isBand⟩ := nested.lanes road isRoad
    exact ⟨band, isPart.roads member, isBand⟩
  · obtain ⟨body, arrangement, followed, rest⟩ := nested.contents isContainer
    exact ⟨body, arrangement, isPart.follows followed, rest⟩

end IsPartOf

end Placement

/-- The roads of a container are placed where the arrangement has them. -/
theorem OwnRoads.hasRoad_layouts
    {α : Type}
    [Scalar α]
    {roads : OwnRoads}
    {node : Node α}
    {arrangement : Arrangement α}
    {placement : Placement α}
    (laneWidth : α)
    (placeCount : arrangement.gaps.length = roads.gaps.length)
    (placed : roads.layouts laneWidth node arrangement ⊆ placement.roads) :
    (∀ avenue < roads.gaps.length, ∃ area, arrangement.gaps[avenue]? = some area ∧
        placement.HasRoad (.main node.id avenue) area) ∧
      placement.HasRoad (.cross node.id 0) arrangement.startEdge ∧
        placement.HasRoad (.cross node.id 1) arrangement.endEdge := by
  rw [OwnRoads.layouts] at placed
  refine ⟨fun avenue inside => ?_, ?_, ?_⟩
  · obtain ⟨lanes, isLanes⟩ : ∃ lanes, roads.gaps[avenue]? = some lanes :=
      ⟨_, List.getElem?_eq_getElem inside⟩
    obtain ⟨area, isArea⟩ : ∃ area, arrangement.gaps[avenue]? = some area :=
      ⟨_, List.getElem?_eq_getElem (placeCount ▸ inside)⟩
    refine ⟨area, isArea, _, placed (List.mem_append_left _ (List.mem_map.mpr
      ⟨((lanes, area), avenue), ?_, rfl⟩)), rfl, rfl⟩
    exact List.mem_zipIdx_iff_getElem?.mpr
      (List.getElem?_zip_eq_some.mpr ⟨isLanes, isArea⟩)
  · exact ⟨_, placed (List.mem_append_right _ List.mem_cons_self), rfl, rfl⟩
  · exact ⟨_, placed (List.mem_append_right _
      (List.mem_cons_of_mem _ List.mem_cons_self)), rfl, rfl⟩

namespace SizedBox

variable {laneWidth : Rat} {box : SizedBox Rat}

/-- A box is shown at the rectangle that it was placed at. -/
theorem hasBox_place
    (laneWidth : Rat)
    (box : SizedBox Rat)
    (outer : Bounds Rat) :
    (box.place laneWidth outer).HasBox box.node.id outer := by
  cases box with
  | cell =>
      exact ⟨_, List.mem_cons_self, rfl, rfl⟩
  | container =>
      exact ⟨_, List.mem_append_left _ List.mem_cons_self, rfl, rfl⟩

/-- Each of several boxes is shown at its rectangle. -/
theorem hasBox_placeAll
    (laneWidth : Rat)
    {boxes : List (SizedBox Rat)}
    {bounds : List (Bounds Rat)}
    {index : Nat}
    {box : SizedBox Rat}
    {outer : Bounds Rat}
    (isBox : boxes[index]? = some box)
    (isOuter : bounds[index]? = some outer) :
    (placeAll laneWidth boxes bounds).HasBox box.node.id outer := by
  induction boxes generalizing bounds index with
  | nil =>
      cases isBox
  | cons first rest inductionHypothesis =>
      cases bounds with
      | nil =>
          cases isOuter
      | cons area others =>
          cases index with
          | zero =>
              cases isBox
              cases isOuter
              exact (Placement.isPartOf_append_left _ _).hasBox (box.hasBox_place laneWidth outer)
          | succ index =>
              exact (Placement.isPartOf_append_right _ _).hasBox
                (inductionHypothesis isBox isOuter)

end SizedBox

namespace LayoutInput.IsMeasured

variable
  {input : LayoutInput Rat}
  {limit levels : Nat}
  {id : NodeId}
  {node : Node Rat}
  {roads : OwnRoads}
  {children : List (SizedBox Rat)}
  {outer : Bounds Rat}

/-- A cell at a place of its size leaves its strips free. -/
theorem nests_sizedCell
    (measured : input.IsMeasured)
    (found : input.diagram.graph.get? id = some node)
    (isCell : node.isContainer = false)
    (hasSize : outer.HasSize (input.sizedCell node).outer)
    (laneWidth : Rat) :
    ∃ shown,
      ((input.sizedCell node).place laneWidth outer).Nests node (input.label? node.id) shown := by
  have nodeMeasured := measured.diagram.node found
  have fits : (BoxBounds.ofOuter node.spacing outer).Fits node.spacing _ :=
    BoxBounds.fits_ofOuter nodeMeasured.spacing
      (isMeasured_cellContent nodeMeasured fun size isLabel => measured.label isLabel) hasSize
  have noRoads : Road.ofBox node = [] := by
    rw [Road.ofBox, isCell]
    rfl
  exact ⟨_, List.mem_singleton_self _, rfl, fits.margin, fits.inner,
    fun road isRoad => absurd (noRoads ▸ isRoad) List.not_mem_nil,
    fun isContainer => nomatch isCell.symm.trans isContainer⟩

/-- A container that has its size fits its content and body. -/
theorem fits_sizedContainer
    (measured : input.IsMeasured)
    (found : input.diagram.graph.get? id = some node)
    (childrenFound : node.children.mapM (input.measure limit levels) = .ok children)
    (hasSize : outer.HasSize (input.sizedContainer node roads children).outer) :
    (BoxBounds.ofOuter node.spacing outer).Fits node.spacing
        (containerContent (input.bodyOf node roads children) (input.label? node.id)) ∧
      (input.bodyOf node roads children).IsMeasured := by
  have bodyMeasured : (input.bodyOf node roads children).IsMeasured := by
    apply measured.bodyOf
    intro child member
    obtain ⟨childId, _, childFound⟩ := Attempt.exists_of_mem_mapM childrenFound member
    exact measured.outer_of_measure childFound
  refine ⟨BoxBounds.fits_ofOuter (measured.diagram.node found).spacing ?_ hasSize, bodyMeasured⟩
  exact isMeasured_containerContent bodyMeasured fun size isLabel => measured.label isLabel

/-- A container at a place of its size has room for its roads and children. -/
theorem hasRoom_sizedContainer
    (measured : input.IsMeasured)
    (found : input.diagram.graph.get? id = some node)
    (childrenFound : node.children.mapM (input.measure limit levels) = .ok children)
    (roadsFound : input.ownRoads node = .ok roads)
    (hasSize : outer.HasSize (input.sizedContainer node roads children).outer) :
    Body.HasRoom
      ⟨(BoxBounds.ofOuter node.spacing outer).body (input.label? node.id), node.itemFrame⟩
      (roads.gaps.map (·.width input.diagram.document.laneWidth))
      (roads.startEdge.width input.diagram.document.laneWidth)
      (roads.endEdge.width input.diagram.document.laneWidth)
      (children.map (SizedBox.item node)) := by
  obtain ⟨fits, bodyMeasured⟩ :=
    measured.fits_sizedContainer found childrenFound hasSize
  refine SizedBox.hasRoom measured.diagram.document.laneWidth ?_ ?_
    (BoxBounds.along_le_extent_body fits.hasSize bodyMeasured)
  · intro child member
    obtain ⟨childId, _, childFound⟩ := Attempt.exists_of_mem_mapM childrenFound member
    exact measured.outer_of_measure childFound
  · rw [length_gaps_of_ownRoads roadsFound, Attempt.length_of_mapM childrenFound]

/-- The children of a container at a place of its size get places of their sizes. -/
theorem hasSize_items
    (measured : input.IsMeasured)
    (found : input.diagram.graph.get? id = some node)
    (childrenFound : node.children.mapM (input.measure limit levels) = .ok children)
    (roadsFound : input.ownRoads node = .ok roads)
    (hasSize : outer.HasSize (input.sizedContainer node roads children).outer) :
    List.Forall₂ (fun (area : Bounds Rat) child => area.HasSize child.outer)
      (SizedBox.arrangement input.diagram.document.laneWidth node roads children
        ((BoxBounds.ofOuter node.spacing outer).body (input.label? node.id))).items
      children := by
  have room := measured.hasRoom_sizedContainer found childrenFound roadsFound hasSize
  have enough : roads.gaps.length = children.length + 1 := by
    rw [length_gaps_of_ownRoads roadsFound, Attempt.length_of_mapM childrenFound]
  refine List.forall₂_iff_get.mpr
    ⟨SizedBox.length_items_arrangement _ node enough _, fun index isArea isChild => ?_⟩
  have isItem :
      (children.map (SizedBox.item node))[index]? =
        some (SizedBox.item node (children.get ⟨index, isChild⟩)) := by
    rw [List.getElem?_map, List.getElem?_eq_getElem isChild]
    rfl
  exact room.hasSize_item isItem (List.getElem?_eq_getElem isArea)

/-- The roads of a container at a place of its size have their lanes inside. -/
theorem keepsLanes_sizedContainer
    (measured : input.IsMeasured)
    (found : input.diagram.graph.get? id = some node)
    (isContainer : node.isContainer = true)
    (childrenFound : node.children.mapM (input.measure limit levels) = .ok children)
    (roadsFound : input.ownRoads node = .ok roads)
    (hasSize : outer.HasSize (input.sizedContainer node roads children).outer) :
    ((input.sizedContainer node roads children).place
      input.diagram.document.laneWidth outer).KeepsLanes node := by
  have room := measured.hasRoom_sizedContainer found childrenFound roadsFound hasSize
  obtain ⟨startWide, endWide⟩ := Body.extent_edges
    ⟨(BoxBounds.ofOuter node.spacing outer).body (input.label? node.id), node.itemFrame⟩
    (roads.gaps.map (·.width input.diagram.document.laneWidth))
    (roads.startEdge.width input.diagram.document.laneWidth)
    (roads.endEdge.width input.diagram.document.laneWidth)
    (children.map (SizedBox.item node))
  have kept :
      ∀ band ∈ roads.layouts input.diagram.document.laneWidth node
          (SizedBox.arrangement input.diagram.document.laneWidth node roads children
            ((BoxBounds.ofOuter node.spacing outer).body (input.label? node.id))),
        band.KeepsLanes (node.itemFrame.axisDirection band.road.axis).axis := by
    refine OwnRoads.keepsLanes_layouts measured.diagram.document.laneWidth ?_ startWide endWide
    intro avenue lanes area isLanes isArea
    have isWidth := Body.extent_gap room.enoughGaps isArea
    rw [List.getElem?_map, isLanes] at isWidth
    exact (Option.some.inj isWidth).symm
  have listed :=
    OwnRoads.roads_layouts input.diagram.document.laneWidth (length_gaps_of_ownRoads roadsFound)
      (SizedBox.length_gaps_arrangement input.diagram.document.laneWidth node roads children
        ((BoxBounds.ofOuter node.spacing outer).body (input.label? node.id)))
  intro road isRoad
  rw [Road.ofBox, if_pos isContainer, ← listed] at isRoad
  obtain ⟨band, member, rfl⟩ := List.mem_map.mp isRoad
  exact ⟨band, List.mem_append_left _ member, rfl, kept band member⟩

/-- A container at a place of its size nests its roads and children. -/
theorem nests_sizedContainer
    (measured : input.IsMeasured)
    (tree : input.diagram.graph.IsTree)
    (found : input.diagram.graph.get? id = some node)
    (isContainer : node.isContainer = true)
    (childrenFound : node.children.mapM (input.measure limit levels) = .ok children)
    (roadsFound : input.ownRoads node = .ok roads)
    (hasSize : outer.HasSize (input.sizedContainer node roads children).outer) :
    ∃ shown,
      ((input.sizedContainer node roads children).place
        input.diagram.document.laneWidth outer).Nests node (input.label? node.id) shown := by
  obtain ⟨fits, bodyMeasured⟩ := measured.fits_sizedContainer found childrenFound hasSize
  have room := measured.hasRoom_sizedContainer found childrenFound roadsFound hasSize
  have sized := measured.hasSize_items found childrenFound roadsFound hasSize
  have childIds : children.map (·.node.id) = node.children.map fun child => child := by
    apply Attempt.map_eq_of_mapM childrenFound
    intro child box succeeded
    exact tree.id_of_get? (get?_of_measure succeeded)
  have ownRoads :
      roads.layouts input.diagram.document.laneWidth node
          (SizedBox.arrangement input.diagram.document.laneWidth node roads children
            ((BoxBounds.ofOuter node.spacing outer).body (input.label? node.id))) ⊆
        ((input.sizedContainer node roads children).place
          input.diagram.document.laneWidth outer).roads :=
    List.subset_append_left _ _
  obtain ⟨gap, startEdge, endEdge⟩ :=
    OwnRoads.hasRoad_layouts _ (SizedBox.length_gaps_arrangement _ _ _ _ _) ownRoads
  have lanes :=
    measured.keepsLanes_sizedContainer found isContainer childrenFound roadsFound hasSize
  refine ⟨_, List.mem_append_left _ (List.mem_singleton_self _), rfl, fits.margin, fits.inner,
    lanes, fun _ => ⟨_, _, ?_, room.isIn_arrange, room.isInFlow_arrange, fun area isInside =>
      BoxBounds.holds_of_isInside_body fits.hasSize bodyMeasured
        (fun size isLabel => measured.label isLabel) isInside⟩⟩
  constructor
  case gap =>
    intro avenue inside
    exact gap avenue (by rwa [length_gaps_of_ownRoads roadsFound])
  case startEdge =>
    exact startEdge
  case endEdge =>
    exact endEdge
  case child =>
    intro index child listed
    have isChild := congrArg (·[index]?) childIds
    simp only [List.map_id', listed, List.getElem?_map, Option.map_eq_some_iff] at isChild
    obtain ⟨box, isBox, rfl⟩ := isChild
    obtain ⟨isInside, _⟩ := List.getElem?_eq_some_iff.mp isBox
    have isArea := List.getElem?_eq_getElem (sized.length_eq ▸ isInside)
    exact ⟨_, isArea, (Placement.isPartOf_append_right _ _).hasBox
      (SizedBox.hasBox_placeAll _ isBox isArea)⟩

end LayoutInput.IsMeasured

mutual

/-- Each box of a tree that is placed at its size nests what it holds. -/
theorem Graph.Subtree.nests_of_place
    {input : LayoutInput Rat}
    {limit : Nat}
    (tree : input.diagram.graph.IsTree)
    (measured : input.IsMeasured) :
    ∀ {id : NodeId} {nodes : List (Node Rat)},
      input.diagram.graph.Subtree id nodes →
        ∀ {levels : Nat} {box : SizedBox Rat}, input.measure limit levels id = .ok box →
          ∀ {outer : Bounds Rat}, outer.HasSize box.outer → ∀ node ∈ nodes, ∃ shown,
            (box.place input.diagram.document.laneWidth outer).Nests node
              (input.label? node.id) shown
  | _, _, .node _ _, 0, _, succeeded, _, _, _, _ => by
      cases succeeded
  | _, _, @Graph.Subtree.node _ _ _ other inner found below, levels + 1, _, succeeded, outer,
      hasSize, node, member => by
      obtain ⟨same, sameFound, cellOrContainer⟩ := LayoutInput.measure_cases succeeded
      obtain rfl := Option.some.inj (sameFound.symm.trans found)
      rcases cellOrContainer with
        ⟨isCell, rfl⟩ | ⟨isContainer, children, roads, childrenFound, roadsFound, rfl⟩
      · have none_below : inner = [] :=
          below.eq_nil_of_ids_eq_nil (tree.children_of_cell found isCell)
        subst none_below
        cases List.mem_singleton.mp member
        exact measured.nests_sizedCell found isCell hasSize _
      · rcases List.mem_cons.mp member with rfl | isBelow
        · exact measured.nests_sizedContainer tree found isContainer childrenFound roadsFound
            hasSize
        · obtain ⟨shown, nested⟩ :=
            below.nests_of_placeAll tree measured childrenFound
              (measured.hasSize_items found childrenFound roadsFound hasSize) node isBelow
          exact ⟨shown, (Placement.isPartOf_append_right _ _).nests nested⟩

/-- All boxes below a container are nested in it. -/
theorem Graph.Subtrees.nests_of_placeAll
    {input : LayoutInput Rat}
    {limit : Nat}
    (tree : input.diagram.graph.IsTree)
    (measured : input.IsMeasured) :
    ∀ {ids : List NodeId} {nodes : List (Node Rat)},
      input.diagram.graph.Subtrees ids nodes →
        ∀ {levels : Nat} {boxes : List (SizedBox Rat)},
          ids.mapM (input.measure limit levels) = .ok boxes →
            ∀ {bounds : List (Bounds Rat)},
              List.Forall₂ (fun area box => area.HasSize box.outer) bounds boxes →
                ∀ node ∈ nodes, ∃ shown,
                  (SizedBox.placeAll input.diagram.document.laneWidth boxes bounds).Nests node
                    (input.label? node.id) shown
  | _, _, .nil, _, _, _, _, _, _, member => by
      cases member
  | _, _, .cons first later, levels, boxes, succeeded, bounds, sized, node, member => by
      rw [List.mapM_cons] at succeeded
      obtain ⟨box, boxMeasured, succeeded⟩ := Attempt.bind_eq_ok_iff.mp succeeded
      obtain ⟨rest, restMeasured, same⟩ := Attempt.bind_eq_ok_iff.mp succeeded
      cases same
      cases sized with
      | cons firstSized laterSized =>
          rcases List.mem_append.mp member with isFirst | isLater
          · obtain ⟨shown, nested⟩ :=
              first.nests_of_place tree measured boxMeasured firstSized node isFirst
            exact ⟨shown, (Placement.isPartOf_append_left _ _).nests nested⟩
          · obtain ⟨shown, nested⟩ :=
              later.nests_of_placeAll tree measured restMeasured laterSized node isLater
            exact ⟨shown, (Placement.isPartOf_append_right _ _).nests nested⟩

end

namespace Layout

section Placed

variable {α : Type} {layout : Layout α} {placement : Placement α}

/-- A layout shows all boxes and roads where they were placed. -/
structure Shows (layout : Layout α) (placement : Placement α) : Prop where
  node :
    ∀ placed ∈ placement.nodes, ∃ shown, layout.node? placed.id = some shown ∧
      shown.withoutGates = placed.withoutGates
  roads_eq : layout.roads = placement.roads
  nodup : (placement.roads.map (·.road)).Nodup

/-- A box is shown that is a child of a container. -/
def HasChild (layout : Layout α) (node : Node α) (inner : NodeLayout α) : Prop :=
  ∃ child ∈ node.children, layout.node? child = some inner

/-- A box is shown that is the child of a container at a position. -/
def HasChildAt (layout : Layout α) (node : Node α) (index : Nat) (inner : NodeLayout α) : Prop :=
  ∃ child, node.children[index]? = some child ∧ layout.node? child = some inner

/-- A road of a container is shown. -/
def HasRoadOf (layout : Layout α) (node : Node α) (band : RoadLayout α) : Prop :=
  band ∈ layout.roads ∧ band.road.container = node.id

namespace Shows

/-- A box is shown at the rectangle at which it was placed. -/
theorem bounds_of_hasBox
    (shows : layout.Shows placement)
    {id : NodeId}
    {area : Bounds α}
    (has : placement.HasBox id area) :
    ∃ shown, layout.node? id = some shown ∧ shown.bounds = area := by
  obtain ⟨placed, member, rfl, rfl⟩ := has
  obtain ⟨shown, isShown, same⟩ := shows.node placed member
  exact ⟨shown, isShown, congrArg (·.bounds) same⟩

/-- A child of a container is shown where the arrangement has it. -/
theorem item_of_childAt
    (shows : layout.Shows placement)
    {node : Node α}
    {arrangement : Arrangement α}
    (followed : placement.Follows node arrangement)
    {index : Nat}
    {inner : NodeLayout α}
    (isChild : layout.HasChildAt node index inner) :
    node.children[index]? = some inner.id ∧ arrangement.items[index]? = some inner.bounds := by
  obtain ⟨child, listed, isShown⟩ := isChild
  obtain ⟨area, isArea, has⟩ := followed.child listed
  obtain ⟨shown, sameShown, rfl⟩ := shows.bounds_of_hasBox has
  obtain rfl := Option.some.inj (isShown.symm.trans sameShown)
  have sameId : inner.id = child := by
    rw [node?, Option.filter_eq_some_iff, beq_iff_eq] at isShown
    exact isShown.2
  exact ⟨sameId ▸ listed, isArea⟩

/-- A child lies where its container arranged it. -/
theorem item_of_child
    (shows : layout.Shows placement)
    {node : Node α}
    {arrangement : Arrangement α}
    (followed : placement.Follows node arrangement)
    {inner : NodeLayout α}
    (isChild : layout.HasChild node inner) :
    ∃ index : Nat, node.children[index]? = some inner.id ∧
      arrangement.items[index]? = some inner.bounds := by
  obtain ⟨child, member, isShown⟩ := isChild
  obtain ⟨index, listed⟩ := List.mem_iff_getElem?.mp member
  exact ⟨index, shows.item_of_childAt followed ⟨child, listed, isShown⟩⟩

/-- A road is shown once, at its place. -/
theorem bounds_of_hasRoad
    (shows : layout.Shows placement)
    {band : RoadLayout α}
    {area : Bounds α}
    (member : band ∈ layout.roads)
    (has : placement.HasRoad band.road area) :
    band.bounds = area := by
  obtain ⟨placed, isPlaced, sameRoad, rfl⟩ := has
  rw [shows.roads_eq] at member
  exact congrArg (·.bounds)
    (List.inj_on_of_nodup_map shows.nodup member isPlaced sameRoad.symm)

/-- A road that was placed is one of the layout. -/
theorem hasRoadOf_of_hasRoad
    (shows : layout.Shows placement)
    {node : Node α}
    {road : Road}
    {area : Bounds α}
    (ofNode : road.container = node.id)
    (has : placement.HasRoad road area) :
    ∃ band, layout.HasRoadOf node band ∧ band.road = road := by
  obtain ⟨band, member, rfl, _⟩ := has
  exact ⟨band, ⟨shows.roads_eq ▸ member, ofNode⟩, rfl⟩

/-- A road of a container is shown where the arrangement has it. -/
theorem place_of_road
    (shows : layout.Shows placement)
    {graph : Graph α}
    {node : Node α}
    {arrangement : Arrangement α}
    (followed : placement.Follows node arrangement)
    {band : RoadLayout α}
    (isBand : layout.HasRoadOf node band)
    (isRoad : graph.IsRoadOf node band.road) :
    (band.road.axis = .main ∧ arrangement.gaps[band.road.avenue]? = some band.bounds) ∨
      (band.road.axis = .cross ∧
        (band.road.avenue = 0 ∧ band.bounds = arrangement.startEdge ∨
          band.road.avenue = 1 ∧ band.bounds = arrangement.endEdge)) := by
  obtain ⟨member, ofNode⟩ := isBand
  have avenueInside := isRoad.avenue
  have is_placed : ∀ area, placement.HasRoad band.road area → band.bounds = area :=
    fun _ has => shows.bounds_of_hasRoad member has
  obtain ⟨⟨container, axis, avenue⟩, bounds, fixed, lanes⟩ := band
  obtain rfl : container = node.id := ofNode
  cases axis with
  | main =>
      obtain ⟨area, isArea, has⟩ := followed.gap avenue (Nat.lt_succ_of_le avenueInside)
      obtain rfl : bounds = area := is_placed area has
      exact .inl ⟨rfl, isArea⟩
  | cross =>
      change avenue < 2 at avenueInside
      obtain rfl | rfl : avenue = 0 ∨ avenue = 1 := by omega
      · exact .inr ⟨rfl, .inl ⟨rfl, is_placed _ followed.startEdge⟩⟩
      · exact .inr ⟨rfl, .inr ⟨rfl, is_placed _ followed.endEdge⟩⟩

/-- A road of the main axis is a gap of its container. -/
theorem gap_of_main_road
    (shows : layout.Shows placement)
    {graph : Graph α}
    {node : Node α}
    {arrangement : Arrangement α}
    (followed : placement.Follows node arrangement)
    {band : RoadLayout α}
    (isBand : layout.HasRoadOf node band)
    (isRoad : graph.IsRoadOf node band.road)
    (isMain : band.road.axis = .main) :
    arrangement.gaps[band.road.avenue]? = some band.bounds := by
  rcases shows.place_of_road followed isBand isRoad with ⟨_, isGap⟩ | ⟨isCross, _⟩
  · exact isGap
  · rw [isMain] at isCross
    cases isCross

end Shows

end Placed

/-- What a box holds lies in its content, below its label, and children overlap nothing. -/
structure Arranges
    (layout : Layout Rat)
    (node : Node Rat)
    (label : Option (Size Rat))
    (content : Bounds Rat) : Prop where
  childShown : ∀ child ∈ node.children, ∃ inner, layout.node? child = some inner
  roadShown : ∀ road ∈ Road.ofBox node, ∃ band, layout.HasRoadOf node band ∧ band.road = road
  childInside :
    ∀ {inner : NodeLayout Rat}, layout.HasChild node inner →
      BoxBounds.Holds content label inner.bounds
  roadInside :
    ∀ {band : RoadLayout Rat}, layout.HasRoadOf node band →
      BoxBounds.Holds content label band.bounds
  childrenApart :
    ∀ {first second : NodeLayout Rat}, layout.HasChild node first → layout.HasChild node second →
      first.id ≠ second.id → first.bounds.IsApart second.bounds
  mainRoadsApart :
    ∀ {first second : RoadLayout Rat}, layout.HasRoadOf node first → layout.HasRoadOf node second →
      first.road.axis = .main → second.road.axis = .main → first.road ≠ second.road →
        first.bounds.IsApart second.bounds
  roadOrChild :
    ∀ {band : RoadLayout Rat} {inner : NodeLayout Rat}, layout.HasRoadOf node band →
      layout.HasChild node inner → band.bounds.IsApart inner.bounds

/-- A box leaves its strips free and keeps what it holds inside them. -/
structure Nests
    (layout : Layout Rat)
    (node : Node Rat)
    (label : Option (Size Rat))
    (shown : NodeLayout Rat) : Prop where
  margin : Bounds.IsShrunk node.spacing.margin shown.visible shown.bounds
  inner : Bounds.IsShrunk node.spacing.inner shown.content shown.visible
  visibleInside : shown.visible.IsInside shown.bounds
  contentInside : shown.content.IsInside shown.visible
  arranges : layout.Arranges node label shown.content

end Layout

/-- Rectangles at different places of a list of rectangles apart are apart. -/
theorem Bounds.isApart_of_pairwise
    {areas : List (Bounds Rat)}
    {first second : Bounds Rat}
    {position other : Nat}
    (apart : areas.Pairwise IsApart)
    (isFirst : areas[position]? = some first)
    (isSecond : areas[other]? = some second)
    (differ : position ≠ other) :
    first.IsApart second := by
  obtain ⟨firstInside, rfl⟩ := List.getElem?_eq_some_iff.mp isFirst
  obtain ⟨secondInside, rfl⟩ := List.getElem?_eq_some_iff.mp isSecond
  have ordered := List.pairwise_iff_getElem.mp apart
  rcases Nat.lt_or_gt_of_ne differ with before | after
  · exact ordered position other firstInside secondInside before
  · exact (ordered other position secondInside firstInside after).symm

/-- Roads of one container along one axis differ by their avenues. -/
theorem Road.eq_of_avenue_eq
    {first second : Road}
    (sameContainer : first.container = second.container)
    (sameAxis : first.axis = second.axis)
    (sameAvenue : first.avenue = second.avenue) :
    first = second := by
  obtain ⟨container, axis, avenue⟩ := first
  cases sameContainer
  cases sameAxis
  cases sameAvenue
  rfl

/-- What follows an arrangement in a body is shown as the arrangement has it. -/
theorem Layout.Shows.arranges
    {layout : Layout Rat}
    {placement : Placement Rat}
    {graph : Graph Rat}
    {node : Node Rat}
    {label : Option (Size Rat)}
    {content body : Bounds Rat}
    {arrangement : Arrangement Rat}
    (shows : layout.Shows placement)
    (areRoads : ∀ {band}, layout.HasRoadOf node band → graph.IsRoadOf node band.road)
    (followed : placement.Follows node arrangement)
    (isIn : arrangement.IsIn body)
    (holds : ∀ area : Bounds Rat, area.IsInside body → BoxBounds.Holds content label area) :
    layout.Arranges node label content := by
  have place_of_road := fun {band} (isBand : layout.HasRoadOf node band) =>
    shows.place_of_road followed isBand (areRoads isBand)
  constructor
  case childShown =>
    intro child member
    obtain ⟨index, listed⟩ := List.mem_iff_getElem?.mp member
    obtain ⟨area, _, has⟩ := followed.child listed
    obtain ⟨shown, isShown, _⟩ := shows.bounds_of_hasBox has
    exact ⟨shown, isShown⟩
  case roadShown =>
    intro road member
    rw [Road.ofBox] at member
    split at member
    · rcases Road.mem_ofContainer_iff.mp member with ⟨avenue, inside, rfl⟩ | rfl | rfl
      · obtain ⟨area, _, has⟩ := followed.gap avenue inside
        exact shows.hasRoadOf_of_hasRoad rfl has
      · exact shows.hasRoadOf_of_hasRoad rfl followed.startEdge
      · exact shows.hasRoadOf_of_hasRoad rfl followed.endEdge
    · cases member
  case childInside =>
    intro inner isChild
    obtain ⟨index, _, isItem⟩ := shows.item_of_child followed isChild
    exact holds _ (isIn.itemsInside _ (List.mem_of_getElem? isItem))
  case roadInside =>
    intro band isBand
    rcases place_of_road isBand with ⟨_, isGap⟩ | ⟨_, ⟨_, isStart⟩ | ⟨_, isEnd⟩⟩
    · exact holds _ (isIn.gapsInside _ (List.mem_of_getElem? isGap))
    · exact holds _ (isStart ▸ isIn.edgesInside.1)
    · exact holds _ (isEnd ▸ isIn.edgesInside.2)
  case childrenApart =>
    intro first second isFirst isSecond differ
    obtain ⟨position, firstListed, firstItem⟩ := shows.item_of_child followed isFirst
    obtain ⟨other, secondListed, secondItem⟩ := shows.item_of_child followed isSecond
    apply Bounds.isApart_of_pairwise isIn.itemsApart firstItem secondItem
    rintro rfl
    exact differ (Option.some.inj (firstListed.symm.trans secondListed))
  case mainRoadsApart =>
    intro first second isFirst isSecond firstMain secondMain differ
    apply Bounds.isApart_of_pairwise isIn.gapsApart
      (shows.gap_of_main_road followed isFirst (areRoads isFirst) firstMain)
      (shows.gap_of_main_road followed isSecond (areRoads isSecond) secondMain)
    intro sameAvenue
    exact differ (Road.eq_of_avenue_eq (isFirst.2.trans isSecond.2.symm)
      (firstMain.trans secondMain.symm) sameAvenue)
  case roadOrChild =>
    intro band inner isBand isChild
    obtain ⟨index, _, isItem⟩ := shows.item_of_child followed isChild
    have member := List.mem_of_getElem? isItem
    rcases place_of_road isBand with ⟨_, isGap⟩ | ⟨_, ⟨_, isStart⟩ | ⟨_, isEnd⟩⟩
    · exact isIn.gapOrItem _ (List.mem_of_getElem? isGap) _ member
    · exact isStart ▸ (isIn.edgeOrItem _ member).1
    · exact isEnd ▸ (isIn.edgeOrItem _ member).2

/-- A cell holds nothing. -/
theorem Layout.arranges_of_cell
    {layout : Layout Rat}
    {graph : Graph Rat}
    {node : Node Rat}
    (childless : node.children = [])
    (isCell : node.isContainer = false)
    (areRoads : ∀ {band}, layout.HasRoadOf node band → graph.IsRoadOf node band.road)
    (label : Option (Size Rat))
    (content : Bounds Rat) :
    layout.Arranges node label content := by
  have noChild : ∀ {inner}, ¬ layout.HasChild node inner := by
    rintro inner ⟨child, member, _⟩
    rw [childless] at member
    cases member
  have noRoad : ∀ {band}, ¬ layout.HasRoadOf node band := by
    intro band isBand
    rw [(areRoads isBand).isContainer] at isCell
    cases isCell
  constructor
  case childShown =>
    intro child member
    rw [childless] at member
    cases member
  case roadShown =>
    intro road member
    rw [Road.ofBox, isCell] at member
    cases member
  case childInside =>
    exact fun isChild => absurd isChild noChild
  case childrenApart =>
    exact fun isChild => absurd isChild noChild
  all_goals exact fun isBand => absurd isBand noRoad

namespace LayoutEngine

variable {input : LayoutInput Rat} {depthLimit : Nat} {layout : Layout Rat}

/-- A layout shows what was placed. -/
theorem shows_of_nested
    (tree : input.diagram.graph.IsTree)
    (inOrder : input.diagram.graph.IsInOrder)
    (isOver : input.table.lanes.IsOver input.diagram.graph)
    (succeeded : nested depthLimit input = .ok layout) :
    ∃ root, input.measure depthLimit (depthLimit + 1) NodeId.root = .ok root ∧
      layout.Shows (place input root) := by
  obtain ⟨root, placed, measured, isPlaced, _, nodesEq, roadsEq, _⟩ :=
    of_nested tree inOrder isOver succeeded
  obtain ⟨ids, roads⟩ := place_inOrder tree inOrder isOver measured
  have isOn := Gate.isOn_of_place isPlaced
  refine ⟨root, measured, ⟨fun node member => ?_, roadsEq, ?_⟩⟩
  · obtain ⟨position, isNode⟩ := List.mem_iff_getElem?.mp member
    have atPosition := congrArg (·[position]?) isOn
    simp only [List.getElem?_map, isNode, Option.map_some, Option.map_eq_some_iff] at atPosition
    obtain ⟨shown, isShown, same⟩ := atPosition
    have placedId := NodeLayout.id_eq_of_getElem? ids isNode
    have shownId := NodeLayout.id_eq_of_getElem? (isOn.ids_eq.trans ids) isShown
    refine ⟨shown, ?_, same⟩
    rw [Layout.node?, nodesEq, placedId, isShown, Option.filter_some, shownId, beq_self_eq_true]
    rfl
  · rw [roads]
    exact RoadMap.nodup_keys _

/-- A road of a box in the layout is one of the box in the graph. -/
theorem isRoadOf_of_nested
    (tree : input.diagram.graph.IsTree)
    (inOrder : input.diagram.graph.IsInOrder)
    (isOver : input.table.lanes.IsOver input.diagram.graph)
    (succeeded : nested depthLimit input = .ok layout)
    {id : NodeId}
    {node : Node Rat}
    (found : input.diagram.graph.get? id = some node)
    {band : RoadLayout Rat}
    (isBand : layout.HasRoadOf node band) :
    input.diagram.graph.IsRoadOf node band.road := by
  obtain ⟨_, _, roads⟩ := inOrder_of_nested tree inOrder isOver succeeded
  have isKey : band.road ∈ input.table.lanes.keys := by
    rw [← roads]
    exact List.mem_map_of_mem isBand.1
  obtain ⟨⟨road, lanes⟩, listed, sameRoad⟩ := List.mem_map.mp isKey
  obtain ⟨container, isRoad⟩ :=
    isOver.exists_get?_iff.mp ⟨lanes, RoadMap.mem_toList_iff.mp listed⟩
  obtain rfl : road = band.road := sameRoad
  have sameNode := isRoad.found
  rw [isBand.2, tree.id_of_get? found, found] at sameNode
  exact Option.some.inj sameNode ▸ isRoad

/-- Each box is shown where a placement has it that nests what it holds. -/
theorem exists_nests_of_nested
    (tree : input.diagram.graph.IsTree)
    (inOrder : input.diagram.graph.IsInOrder)
    (isOver : input.table.lanes.IsOver input.diagram.graph)
    (measured : input.IsMeasured)
    (succeeded : nested depthLimit input = .ok layout)
    {id : NodeId}
    {node : Node Rat}
    (found : input.diagram.graph.get? id = some node) :
    ∃ placement placed shown, layout.Shows placement ∧
      placement.Nests node (input.label? id) placed ∧ layout.node? id = some shown ∧
        shown.withoutGates = placed.withoutGates := by
  obtain ⟨root, rootMeasured, shows⟩ := shows_of_nested tree inOrder isOver succeeded
  have listed : node ∈ input.diagram.graph.nodes.toList :=
    Array.mem_toList_iff.mpr (Array.mem_of_getElem? found)
  obtain ⟨placed, nested⟩ :=
    inOrder.subtree.nests_of_place tree measured rootMeasured
      (Bounds.hasSize_ofTopLeft .origin root.outer) node listed
  obtain ⟨shown, isShown, same⟩ := shows.node placed nested.member
  obtain rfl := tree.id_of_get? found
  rw [nested.id_eq] at isShown
  exact ⟨_, placed, shown, shows, nested, isShown, same⟩

/-- Each box of a layout nests what it holds. -/
theorem nests_of_nested
    (tree : input.diagram.graph.IsTree)
    (inOrder : input.diagram.graph.IsInOrder)
    (isOver : input.table.lanes.IsOver input.diagram.graph)
    (measured : input.IsMeasured)
    (succeeded : nested depthLimit input = .ok layout)
    {id : NodeId}
    {node : Node Rat}
    (found : input.diagram.graph.get? id = some node) :
    ∃ shown, layout.node? id = some shown ∧ layout.Nests node (input.label? id) shown := by
  have areRoads : ∀ {band}, layout.HasRoadOf node band →
      input.diagram.graph.IsRoadOf node band.road :=
    fun isBand => isRoadOf_of_nested tree inOrder isOver succeeded found isBand
  obtain ⟨placement, placed, shown, shows, nested, isShown, same⟩ :=
    exists_nests_of_nested tree inOrder isOver measured succeeded found
  -- Only the gates of a box differ from what was placed.
  have sameBounds : placed.bounds = shown.bounds := congrArg (·.bounds) same.symm
  have sameVisible : placed.visible = shown.visible := congrArg (·.visible) same.symm
  have sameContent : placed.content = shown.content := congrArg (·.content) same.symm
  have margin := sameVisible ▸ sameBounds ▸ nested.margin
  have inner := sameContent ▸ sameVisible ▸ nested.inner
  have spacing := (measured.diagram.node found).spacing
  refine ⟨shown, isShown, margin, inner, margin.isInside spacing.margin,
    inner.isInside spacing.inner, ?_⟩
  cases isContainer : node.isContainer with
  | false =>
      exact Layout.arranges_of_cell (tree.children_of_cell found isContainer) isContainer areRoads
        _ _
  | true =>
      obtain ⟨body, arrangement, followed, isIn, _, holds⟩ := nested.contents isContainer
      exact shows.arranges areRoads followed isIn (sameContent ▸ holds)

end LayoutEngine

end BoxDiagram
