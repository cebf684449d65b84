import BoxDiagram.Proofs.Graph.Numbering

namespace BoxDiagram

open Outline (Box)

/-!
# Resolved graphs are trees

The boxes of a resolved diagram stand in the order of their numbers, and what a
box says about its container agrees with what the container says about it.
`Graph.IsTree` collects these facts.  Route planning and layout use nothing else
of a resolved graph.
-/

variable {α : Type}

/-- What a container and one of its children say of each other. -/
structure Node.Holds (parent child : Node α) : Prop where
  parent_eq : child.parent = some parent.id
  ancestors_eq : child.ancestors = parent.ancestors ++ [parent.id]
  listed : parent.children[child.index]? = some child.id
  ownFrame_eq : child.ownFrame = parent.itemFrame
  boundary_eq :
    child.boundary = childBoundary parent child.index parent.children.length
  isContainer : parent.isContainer = true
  before : parent.id < child.id

/-- A box that lies in no other one. -/
structure Node.IsTop (node : Node α) : Prop where
  id_eq : node.id = NodeId.root
  parent_eq : node.parent = none
  ancestors_eq : node.ancestors = []
  boundary_eq : node.boundary = .replicate 1

/-- The boxes of a graph are those of one tree, by number. -/
structure Graph.IsTree (graph : Graph α) : Prop where
  id_of_get? :
    ∀ {id : NodeId} {node : Node α}, graph.get? id = some node → node.id = id
  root : ∃ root, graph.get? NodeId.root = some root
  parent_of_get? :
    ∀ {id : NodeId} {node : Node α}, graph.get? id = some node →
      node.IsTop ∨ ∃ parent, graph.get? parent.id = some parent ∧ parent.Holds node
  child_of_get? :
    ∀ {id : NodeId} {node : Node α}, graph.get? id = some node →
      ∀ {index : Nat} {childId : NodeId}, node.children[index]? = some childId →
        ∃ child, graph.get? childId = some child ∧ child.index = index ∧ node.Holds child
  depth_le :
    ∀ {id : NodeId} {node : Node α}, graph.get? id = some node → node.depth ≤ maxNesting
  children_of_cell :
    ∀ {id : NodeId} {node : Node α}, graph.get? id = some node →
      node.isContainer = false → node.children = []

/-- The address of a place is as long as the chain of containers around it. -/
def Place.Fits (place : Place α) : Prop :=
  place.address.length =
    match place.parent with
    | some parent => parent.depth + 1
    | none => 0

theorem Place.fits_root : (Place.root : Place α).Fits := rfl

/-- A box is as deep as its place. -/
theorem Place.depth_node
    {place : Place α}
    (fits : place.Fits)
    {document : Document α}
    {settings : BoxSettings α}
    {box : Box}
    {id : NodeId}
    {ids : List NodeId} :
    ({ place.node document settings box id with children := ids } : Node α).depth =
      place.address.length := by
  rw [fits]
  cases holder : place.parent <;> simp [Place.node, Node.depth, holder]

/-- The place of a child fits if that of its container does. -/
theorem Place.fits_child
    {place : Place α}
    (fits : place.Fits)
    {document : Document α}
    {settings : BoxSettings α}
    {box : Box}
    {id : NodeId}
    (index count : Nat)
    (name : Option String) :
    (place.child (place.node document settings box id) index count name).Fits := by
  have depth : (place.node document settings box id).depth = place.address.length :=
    Place.depth_node fits
  simp [Place.Fits, Place.child, depth]

/-- A box at the place of a child is held by its container. -/
theorem Place.holds_child
    {place : Place α}
    {document : Document α}
    {parent : Node α}
    {index count : Nat}
    {name : Option String}
    {settings : BoxSettings α}
    {box : Box}
    {id : NodeId}
    {siblings ids : List NodeId}
    (isContainer : parent.isContainer = true)
    (listed : siblings[index]? = some id)
    (counted : siblings.length = count)
    (before : parent.id < id) :
    { parent with children := siblings : Node α }.Holds
      { (place.child parent index count name).node document settings box id with
        children := ids } where
  parent_eq := rfl
  ancestors_eq := rfl
  listed := listed
  ownFrame_eq := rfl
  boundary_eq := by
    subst counted
    rfl
  isContainer := isContainer
  before := before

variable [Scalar α]

namespace Numbered

variable {document : Document α}

/-- The first box of a numbered tree stands at the place and has the first number. -/
theorem exists_head
    {place : Place α}
    {id : NodeId}
    {box : Box}
    {placed : List (Placed α)}
    (numbered : Numbered document place id box placed) :
    ∃ settings ids tail,
      BoxSettings.read box.kind box.attributes = .ok settings ∧
        placed =
          ⟨place.address, { place.node document settings box id with children := ids }⟩ ::
            tail := by
  cases numbered with
  | cell shallow read isCell =>
      exact ⟨_, [], [], read, rfl⟩
  | container shallow read isContainer held =>
      exact ⟨_, _, _, read, rfl⟩

end Numbered

mutual

/-- The boxes of a numbered tree have consecutive numbers. -/
theorem Numbered.ids_eq
    {document : Document α} :
    ∀ {place : Place α} {id : NodeId} {box : Box} {placed : List (Placed α)},
      Numbered document place id box placed →
        placed.map (·.node.id) = List.range' id placed.length
  | _, _, _, _, .cell .. => by
      rfl
  | _, _, _, _, .container _ _ _ held => by
      simp only [List.map_cons, List.length_cons, List.range'_succ, held.ids_eq]
      rfl

/-- The boxes below a container have consecutive numbers. -/
theorem NumberedChildren.ids_eq
    {document : Document α} :
    ∀ {place : Place α} {parent : Node α} {count : Nat} {earlier : List Box}
      {next : NodeId} {boxes : List Box} {ids : List NodeId} {inner : List (Placed α)},
      NumberedChildren document place parent count earlier next boxes ids inner →
        inner.map (·.node.id) = List.range' next inner.length
  | _, _, _, _, _, _, _, _, .nil => by
      rfl
  | _, _, _, _, _, _, _, _, .cons _ first later => by
      rw [List.map_append, first.ids_eq, later.ids_eq, List.length_append,
        List.range'_append_1]

end

namespace NumberedChildren

variable {document : Document α}

/-- A container lists one number for each child. -/
theorem length_ids
    {place : Place α}
    {parent : Node α}
    {count : Nat}
    {earlier : List Box}
    {next : NodeId}
    {boxes : List Box}
    {ids : List NodeId}
    {inner : List (Placed α)}
    (held : NumberedChildren document place parent count earlier next boxes ids inner) :
    ids.length = boxes.length := by
  induction boxes generalizing earlier next ids inner with
  | nil =>
      cases held
      rfl
  | cons child rest inductionHypothesis =>
      cases held with
      | cons unclaimed first later =>
          simp [inductionHypothesis later]

/-- The numbers of the children of a container lead to boxes that it holds. -/
theorem exists_child
    {place : Place α}
    {parent : Node α}
    {count : Nat}
    {boxes earlier : List Box}
    {next : NodeId}
    {siblings ids before : List NodeId}
    {inner : List (Placed α)}
    (held : NumberedChildren document place parent count earlier next boxes ids inner)
    (isContainer : parent.isContainer = true)
    (numbered : parent.id < next)
    (splits : siblings = before ++ ids)
    (passed : before.length = earlier.length)
    (counted : siblings.length = count)
    {offset : Nat}
    {id : NodeId}
    (listed : ids[offset]? = some id) :
    ∃ child ∈ inner,
      child.node.id = id ∧
        child.node.index = earlier.length + offset ∧
          child.address = place.address ++ [earlier.length + offset] ∧
            { parent with children := siblings : Node α }.Holds child.node := by
  induction boxes generalizing earlier next ids before inner offset with
  | nil =>
      cases held
      simp at listed
  | cons box rest inductionHypothesis =>
      cases held with
      | @cons _ _ _ _ _ _ _ firstInner laterIds others _ first later =>
          obtain ⟨settings, inside, tail, _, firstShape⟩ := first.exists_head
          cases offset with
          | zero =>
              obtain rfl : next = id := by simpa using listed
              have nextListed : siblings[earlier.length]? = some next := by
                rw [splits, List.getElem?_append_right (by omega)]
                simp [passed]
              exact ⟨_, List.mem_append_left others (firstShape ▸ List.mem_cons_self),
                rfl, rfl, rfl, Place.holds_child isContainer nextListed counted numbered⟩
          | succ offset =>
              have nextNumbered : parent.id < next + firstInner.length :=
                Nat.lt_add_right _ numbered
              have laterSplits : siblings = (before ++ [next]) ++ laterIds := by
                simpa using splits
              obtain ⟨child, member, idEq, indexEq, addressEq, holds⟩ :=
                inductionHypothesis later nextNumbered laterSplits
                  (by simp [passed]) (by simpa using listed)
              have shifted :
                  (box :: earlier).length + offset = earlier.length + (offset + 1) := by
                rw [List.length_cons]
                omega
              rw [shifted] at indexEq addressEq
              exact ⟨child, List.mem_append_right firstInner member, idEq, indexEq,
                addressEq, holds⟩

end NumberedChildren

mutual

/-- Every box of a numbered tree after the first one has its container in the tree. -/
theorem Numbered.exists_holder
    {document : Document α} :
    ∀ {place : Place α} {id : NodeId} {box : Box} {placed : List (Placed α)},
      Numbered document place id box placed →
        ∀ child ∈ placed.tail, ∃ parent ∈ placed, parent.node.Holds child.node
  | _, _, _, _, .cell .., child, member => by
      simp at member
  | _, _, _, _, .container _ _ isContainer held, child, member => by
      rcases held.exists_holder isContainer (Nat.lt_succ_self _) _ [] rfl rfl
          held.length_ids child member with heldHere | ⟨parent, parentMember, heldBelow⟩
      · exact ⟨_, List.mem_cons_self, heldHere⟩
      · exact ⟨parent, List.mem_cons_of_mem _ parentMember, heldBelow⟩

/-- Each box below a container is held by it, or by another box below it. -/
theorem NumberedChildren.exists_holder
    {document : Document α} :
    ∀ {place : Place α} {parent : Node α} {count : Nat} {earlier : List Box}
      {next : NodeId} {boxes : List Box} {ids : List NodeId} {inner : List (Placed α)},
      NumberedChildren document place parent count earlier next boxes ids inner →
        parent.isContainer = true → parent.id < next →
          ∀ siblings before, siblings = before ++ ids → before.length = earlier.length →
            siblings.length = count →
              ∀ child ∈ inner,
                { parent with children := siblings : Node α }.Holds child.node ∨
                  ∃ holder ∈ inner, holder.node.Holds child.node
  | _, _, _, _, _, _, _, _, .nil, _, _, _, _, _, _, _, _, member => by
      simp at member
  | _, _, _, _, _, _, _, _, .cons unclaimed first later,
      isContainer, numbered, siblings, before, splits, passed, counted, child, member => by
      rcases List.mem_append.mp member with inFirst | inLater
      · have heldInFirst := first.exists_holder child
        obtain ⟨settings, inside, tail, _, firstShape⟩ := first.exists_head
        rw [firstShape] at inFirst heldInFirst
        rcases List.mem_cons.mp inFirst with isFirst | inTail
        · subst child
          refine .inl (Place.holds_child isContainer ?_ counted numbered)
          rw [splits, List.getElem?_append_right (Nat.le_of_eq passed)]
          simp [passed]
        · obtain ⟨holder, holderMember, holds⟩ := heldInFirst inTail
          exact .inr ⟨holder,
            List.mem_append_left _ (firstShape ▸ holderMember), holds⟩
      · rcases later.exists_holder isContainer (Nat.lt_add_right _ numbered) siblings
            (before ++ [_]) (by simpa using splits) (by simp [passed]) counted
            child inLater with heldHere | ⟨holder, holderMember, holds⟩
        · exact .inl heldHere
        · exact .inr ⟨holder, List.mem_append_right _ holderMember, holds⟩

end

mutual

/-- The children of a box of a numbered tree are in the tree. -/
theorem Numbered.exists_child
    {document : Document α} :
    ∀ {place : Place α} {id : NodeId} {box : Box} {placed : List (Placed α)},
      Numbered document place id box placed →
        ∀ parent ∈ placed, ∀ index childId, parent.node.children[index]? = some childId →
          ∃ child ∈ placed,
            child.node.id = childId ∧ child.node.index = index ∧
              child.address = parent.address ++ [index] ∧ parent.node.Holds child.node
  | _, _, _, _, .cell .., parent, member, index, childId, listed => by
      obtain rfl := List.mem_singleton.mp member
      simp [Place.node] at listed
  | _, _, _, _, .container _ _ isContainer held,
      parent, member, index, childId, listed => by
      rcases List.mem_cons.mp member with isHere | isBelow
      · subst parent
        obtain ⟨child, childMember, facts⟩ :=
          NumberedChildren.exists_child held isContainer (Nat.lt_succ_self _)
            (List.nil_append _).symm rfl held.length_ids listed
        simp only [List.length_nil, Nat.zero_add] at facts
        exact ⟨child, List.mem_cons_of_mem _ childMember, facts⟩
      · obtain ⟨child, childMember, facts⟩ :=
          held.exists_child_of_mem parent isBelow index childId listed
        exact ⟨child, List.mem_cons_of_mem _ childMember, facts⟩

/-- Each number that a box below a container lists is that of a box that it holds. -/
theorem NumberedChildren.exists_child_of_mem
    {document : Document α} :
    ∀ {place : Place α} {parent : Node α} {count : Nat} {earlier : List Box}
      {next : NodeId} {boxes : List Box} {ids : List NodeId} {inner : List (Placed α)},
      NumberedChildren document place parent count earlier next boxes ids inner →
        ∀ parent ∈ inner, ∀ index childId, parent.node.children[index]? = some childId →
          ∃ child ∈ inner,
            child.node.id = childId ∧ child.node.index = index ∧
              child.address = parent.address ++ [index] ∧ parent.node.Holds child.node
  | _, _, _, _, _, _, _, _, .nil, _, member, _, _, _ => by
      simp at member
  | _, _, _, _, _, _, _, _, .cons _ first later, parent, member, index, childId, listed => by
      rcases List.mem_append.mp member with inFirst | inLater
      · obtain ⟨child, childMember, facts⟩ :=
          first.exists_child parent inFirst index childId listed
        exact ⟨child, List.mem_append_left _ childMember, facts⟩
      · obtain ⟨child, childMember, facts⟩ :=
          later.exists_child_of_mem parent inLater index childId listed
        exact ⟨child, List.mem_append_right _ childMember, facts⟩

end

/-- A numbered box was made from the settings of a box of the outline at a fitting place. -/
structure Placed.IsMade (document : Document α) (placed : Placed α) : Prop where
  made :
    ∃ (place : Place α) (settings : BoxSettings α) (box : Box) (id : NodeId)
        (ids : List NodeId),
      BoxSettings.read box.kind box.attributes = .ok settings ∧
        placed =
          ⟨place.address, { place.node document settings box id with children := ids }⟩
  depth_eq : placed.node.depth = placed.address.length
  shallow : placed.address.length ≤ maxNesting
  children_of_cell : placed.node.isContainer = false → placed.node.children = []

mutual

/-- The boxes of a numbered tree were made at fitting places. -/
theorem Numbered.isMade
    {document : Document α} :
    ∀ {place : Place α} {id : NodeId} {box : Box} {placed : List (Placed α)},
      Numbered document place id box placed → place.Fits →
        ∀ made ∈ placed, made.IsMade document
  | _, _, _, _, .cell shallow read isCell, fits, made, member => by
      obtain rfl := List.mem_singleton.mp member
      exact {
        made := ⟨_, _, _, _, [], read, rfl⟩
        depth_eq := Place.depth_node fits
        shallow := shallow
        children_of_cell := fun _ => rfl }
  | _, _, _, _, .container shallow read isContainer held, fits, made, member => by
      rcases List.mem_cons.mp member with isHere | isBelow
      · subst made
        exact {
          made := ⟨_, _, _, _, _, read, rfl⟩
          depth_eq := Place.depth_node fits
          shallow := shallow
          children_of_cell := fun isCell => by
            simp [Node.isContainer, Place.node, isContainer] at isCell }
      · exact held.isMade (fun index name => Place.fits_child fits index _ name)
          made isBelow

/-- All boxes below a container are made in the same way. -/
theorem NumberedChildren.isMade
    {document : Document α} :
    ∀ {place : Place α} {parent : Node α} {count : Nat} {earlier : List Box}
      {next : NodeId} {boxes : List Box} {ids : List NodeId} {inner : List (Placed α)},
      NumberedChildren document place parent count earlier next boxes ids inner →
        (∀ index name, (place.child parent index count name).Fits) →
          ∀ made ∈ inner, made.IsMade document
  | _, _, _, _, _, _, _, _, .nil, _, _, member => by
      simp at member
  | _, _, _, _, _, _, _, _, .cons _ first later, fits, made, member => by
      rcases List.mem_append.mp member with inFirst | inLater
      · exact first.isMade (fits _ _) made inFirst
      · exact later.isMade fits made inLater

end

namespace Numbered

variable {document : Document α} {box : Box} {placed : List (Placed α)}

/-- The box at a position of a numbered tree has this position as its number. -/
theorem id_of_getElem?
    (numbered : Numbered document .root NodeId.root box placed)
    {position : Nat}
    {found : Placed α}
    (atPosition : placed[position]? = some found) :
    found.node.id = position := by
  have ids := congrArg (·[position]?) numbered.ids_eq
  obtain ⟨inside, rfl⟩ := List.getElem?_eq_some_iff.mp atPosition
  simpa [inside, NodeId.root] using ids

/-- A numbered box stands at the place of its number. -/
theorem getElem?_id_of_mem
    (numbered : Numbered document .root NodeId.root box placed)
    {found : Placed α}
    (member : found ∈ placed) :
    placed[found.node.id]? = some found := by
  obtain ⟨position, atPosition⟩ := List.mem_iff_getElem?.mp member
  rw [numbered.id_of_getElem? atPosition]
  exact atPosition

/-- The first of the numbered boxes is the outermost one. -/
theorem exists_top
    (numbered : Numbered document .root NodeId.root box placed) :
    ∃ top tail, placed = top :: tail ∧ top.node.IsTop := by
  obtain ⟨settings, ids, tail, _, shape⟩ := numbered.exists_head
  exact ⟨_, tail, shape, ⟨rfl, rfl, rfl, rfl⟩⟩

/-- The boxes of a numbered tree form a tree. -/
theorem isTree
    (numbered : Numbered document .root NodeId.root box placed) :
    Graph.IsTree ⟨(placed.map (·.node)).toArray⟩ := by
  have exists_placed :
      ∀ {id : NodeId} {node : Node α},
        Graph.get? ⟨(placed.map (·.node)).toArray⟩ id = some node →
          ∃ found, placed[id]? = some found ∧ found.node = node := by
    intro id node found
    simpa [Graph.get?] using found
  have get?_of_mem :
      ∀ {found : Placed α}, found ∈ placed →
        Graph.get? ⟨(placed.map (·.node)).toArray⟩ found.node.id = some found.node := by
    intro found member
    simp [Graph.get?, numbered.getElem?_id_of_mem member]
  obtain ⟨top, tail, shape, isTop⟩ := numbered.exists_top
  have isMade := numbered.isMade Place.fits_root
  constructor
  case id_of_get? =>
    intro id node isNode
    obtain ⟨found, atId, rfl⟩ := exists_placed isNode
    exact numbered.id_of_getElem? atId
  case root =>
    refine ⟨top.node, ?_⟩
    rw [← isTop.id_eq]
    exact get?_of_mem (by simp [shape])
  case parent_of_get? =>
    intro id node isNode
    obtain ⟨found, atId, rfl⟩ := exists_placed isNode
    have member : found ∈ placed := List.mem_of_getElem? atId
    rw [shape] at member
    rcases List.mem_cons.mp member with isFirst | inTail
    · subst found
      exact .inl isTop
    · obtain ⟨parent, parentMember, holds⟩ :=
        numbered.exists_holder found (by simpa [shape] using inTail)
      exact .inr ⟨parent.node, get?_of_mem parentMember, holds⟩
  case child_of_get? =>
    intro id node isNode index childId listed
    obtain ⟨found, atId, rfl⟩ := exists_placed isNode
    obtain ⟨child, childMember, rfl, indexEq, _, holds⟩ :=
      numbered.exists_child found (List.mem_of_getElem? atId) index childId listed
    exact ⟨child.node, get?_of_mem childMember, indexEq, holds⟩
  case depth_le =>
    intro id node isNode
    obtain ⟨found, atId, rfl⟩ := exists_placed isNode
    have made := isMade found (List.mem_of_getElem? atId)
    exact made.depth_eq ▸ made.shallow
  case children_of_cell =>
    intro id node isNode
    obtain ⟨found, atId, rfl⟩ := exists_placed isNode
    exact (isMade found (List.mem_of_getElem? atId)).children_of_cell

end Numbered

end BoxDiagram
