import BoxDiagram.Number.Exact
import BoxDiagram.Proofs.Diagnostic.Located
import BoxDiagram.Proofs.Graph.Ancestors
import BoxDiagram.Proofs.Graph.Resolved
import Mathlib.Data.List.Nodup

namespace BoxDiagram

open Attempt (FailsOnly)
open Outline (Address Box)

/-!
# Numbers and addresses

A box of an outline is reached from the root through containers only, or it is
not numbered at all.  The list that numbering gives pairs each reached address
with a box of the graph, in the order of numbers and of addresses at once.
-/

/-- A box lies below another one at an address, and every box around it is a container. -/
inductive Outline.Box.Reaches : Box → Address → Box → Prop where
  | here
      (box : Box) :
      Reaches box [] box
  | inside
      {box child found : Box}
      {index : Nat}
      {rest : Address}
      (isContainer : box.kind.isContainer = true)
      (listed : box.children[index]? = some child)
      (reaches : Reaches child rest found) :
      Reaches box (index :: rest) found

variable {α : Type}

/-- A box of a graph has the kind and the name of a box of an outline. -/
structure Node.IsOf (node : Node α) (box : Box) : Prop where
  kind_eq : node.kind = box.kind
  name_eq : node.name = box.name.getD ""

/-- The boxes of a graph and their addresses number the boxes of an outline. -/
structure Graph.IsNumbering
    (graph : Graph α)
    (root : Box)
    (placed : List (Placed α)) : Prop where
  nodes_eq : graph.nodes.toList = placed.map (·.node)
  /-- The box at a position has that number. -/
  ids_eq : placed.map (·.node.id) = List.range graph.size
  /-- The addresses are those of the boxes that are reached through containers. -/
  recorded :
    ∀ address, (∃ found ∈ placed, found.address = address) ↔ ∃ box, root.Reaches address box
  isOf : ∀ found ∈ placed, ∃ box, root.Reaches found.address box ∧ found.node.IsOf box
  /-- Numbers and addresses are in the same order, so that neither repeats. -/
  increasing :
    ∀ first ∈ placed, ∀ second ∈ placed,
      first.node.id < second.node.id ↔ first.address < second.address
  /-- The first box is the only one without a container. -/
  parent_eq_none_iff :
    ∀ found ∈ placed, found.node.parent = none ↔ found.node.id = NodeId.root
  /-- What a container lists as a child says the same of its container. -/
  child :
    ∀ found ∈ placed, ∀ index childId, found.node.children[index]? = some childId →
      ∃ child ∈ placed,
        child.node.id = childId ∧ child.node.parent = some found.node.id ∧
          child.node.index = index ∧ child.address = found.address ++ [index] ∧
            child.node.ancestors = found.node.ancestors ++ [found.node.id] ∧
              child.node.ownFrame = found.node.itemFrame
  /-- Every other box is listed exactly once, by its container. -/
  listed :
    ∀ found ∈ placed, found.node.id ≠ NodeId.root →
      ∃ holder ∈ placed,
        found.node.parent = some holder.node.id ∧
          holder.node.children.count found.node.id = 1
  children_of_cell : ∀ found ∈ placed, found.node.kind = .cell → found.node.children = []
  depth_le : ∀ found ∈ placed, found.node.depth ≤ maxNesting

@[simp] theorem Place.address_child
    (place : Place α)
    (parent : Node α)
    (index count : Nat)
    (name : Option String) :
    (place.child parent index count name).address = place.address ++ [index] :=
  rfl

variable [Scalar α]

mutual

/-- A numbered box is a box of the outline that is reached through containers. -/
theorem Numbered.exists_reached
    {document : Document α} :
    ∀ {place : Place α} {id : NodeId} {box : Box} {placed : List (Placed α)},
      Numbered document place id box placed →
        ∀ found ∈ placed, ∃ rest inner,
          found.address = place.address ++ rest ∧ box.Reaches rest inner ∧
            found.node.IsOf inner
  | _, _, _, _, .cell .., found, member => by
      obtain rfl := List.mem_singleton.mp member
      exact ⟨[], _, by simp, .here _, rfl, rfl⟩
  | _, _, _, _, .container _ _ isContainer held, found, member => by
      rcases List.mem_cons.mp member with isHere | isBelow
      · subst found
        exact ⟨[], _, by simp, .here _, rfl, rfl⟩
      · obtain ⟨offset, child, rest, inner, listed, addressEq, reaches, isOf⟩ :=
          held.exists_reached found isBelow
        rw [List.length_nil, Nat.zero_add] at addressEq
        exact ⟨offset :: rest, inner, addressEq, .inside isContainer listed reaches, isOf⟩

/-- Each numbered box below a container is reached from one of its children. -/
theorem NumberedChildren.exists_reached
    {document : Document α} :
    ∀ {place : Place α} {parent : Node α} {count : Nat} {earlier : List Box}
      {next : NodeId} {boxes : List Box} {ids : List NodeId} {inner : List (Placed α)},
      NumberedChildren document place parent count earlier next boxes ids inner →
        ∀ found ∈ inner, ∃ offset child rest reached,
          boxes[offset]? = some child ∧
            found.address = place.address ++ (earlier.length + offset) :: rest ∧
              child.Reaches rest reached ∧ found.node.IsOf reached
  | _, _, _, _, _, _, _, _, .nil, _, member => by
      simp at member
  | _, _, _, _, _, _, _, _, .cons _ first later, found, member => by
      rcases List.mem_append.mp member with inFirst | inLater
      · obtain ⟨rest, reached, addressEq, reaches, isOf⟩ :=
          first.exists_reached found inFirst
        exact ⟨0, _, rest, reached, rfl, by simpa using addressEq, reaches, isOf⟩
      · obtain ⟨offset, child, rest, reached, listed, addressEq, reaches, isOf⟩ :=
          later.exists_reached found inLater
        refine ⟨offset + 1, child, rest, reached, by simpa using listed, ?_, reaches, isOf⟩
        rw [addressEq, List.length_cons, Nat.add_assoc, Nat.add_comm 1]

end

mutual

/-- A box of the outline that is reached through containers is numbered. -/
theorem Numbered.exists_placed
    {document : Document α} :
    ∀ {place : Place α} {id : NodeId} {box : Box} {placed : List (Placed α)},
      Numbered document place id box placed →
        ∀ {rest : Address} {inner : Box}, box.Reaches rest inner →
          ∃ found ∈ placed, found.address = place.address ++ rest
  | _, _, _, _, .cell .., _, _, .here _ => by
      exact ⟨_, List.mem_cons_self, by simp⟩
  | _, _, _, _, .cell _ _ isCell, _, _, .inside isContainer _ _ => by
      simp [isCell] at isContainer
  | _, _, _, _, .container .., _, _, .here _ => by
      exact ⟨_, List.mem_cons_self, by simp⟩
  | _, _, _, _, .container _ _ _ held, _, _, .inside _ listed reaches => by
      obtain ⟨found, member, addressEq⟩ := held.exists_placed listed reaches
      rw [List.length_nil, Nat.zero_add] at addressEq
      exact ⟨found, List.mem_cons_of_mem _ member, addressEq⟩

/-- Each box that is reached from a child of a container is numbered. -/
theorem NumberedChildren.exists_placed
    {document : Document α} :
    ∀ {place : Place α} {parent : Node α} {count : Nat} {earlier : List Box}
      {next : NodeId} {boxes : List Box} {ids : List NodeId} {inner : List (Placed α)},
      NumberedChildren document place parent count earlier next boxes ids inner →
        ∀ {offset : Nat} {child : Box}, boxes[offset]? = some child →
          ∀ {rest : Address} {reached : Box}, child.Reaches rest reached →
            ∃ found ∈ inner,
              found.address = place.address ++ (earlier.length + offset) :: rest
  | _, _, _, _, _, _, _, _, .nil, _, _, listed, _, _, _ => by
      simp at listed
  | _, _, _, _, _, _, _, _, .cons _ first _, 0, _, listed, _, _, reaches => by
      obtain rfl := Option.some.inj listed
      obtain ⟨found, member, addressEq⟩ := first.exists_placed reaches
      exact ⟨found, List.mem_append_left _ member, by simpa using addressEq⟩
  | _, _, _, _, _, _, _, _, .cons _ _ later, offset + 1, _, listed, _, _, reaches => by
      obtain ⟨found, member, addressEq⟩ := later.exists_placed listed reaches
      refine ⟨found, List.mem_append_right _ member, ?_⟩
      rw [addressEq, List.length_cons, Nat.add_assoc, Nat.add_comm 1]

end

/-- An address stands before the addresses that extend it. -/
theorem Outline.Address.lt_append_cons
    (address : Address)
    (index : Nat)
    (rest : Address) :
    address < address ++ index :: rest := by
  have extended : address ++ [] < address ++ index :: rest :=
    List.append_left_lt (List.nil_lt_cons index rest)
  rwa [List.append_nil] at extended

mutual

/-- The boxes of a numbered tree stand in the order of their addresses. -/
theorem Numbered.pairwise_address
    {document : Document α} :
    ∀ {place : Place α} {id : NodeId} {box : Box} {placed : List (Placed α)},
      Numbered document place id box placed →
        placed.Pairwise fun first second => first.address < second.address
  | _, _, _, _, .cell .. => by
      exact List.pairwise_singleton _ _
  | _, _, _, _, .container _ _ _ held => by
      apply List.Pairwise.cons
      · intro found member
        obtain ⟨offset, _, rest, _, _, addressEq, _⟩ := held.exists_reached found member
        rw [addressEq]
        exact Outline.Address.lt_append_cons _ _ _
      · exact held.pairwise_address

/-- Below a container, boxes are numbered in the order of their addresses. -/
theorem NumberedChildren.pairwise_address
    {document : Document α} :
    ∀ {place : Place α} {parent : Node α} {count : Nat} {earlier : List Box}
      {next : NodeId} {boxes : List Box} {ids : List NodeId} {inner : List (Placed α)},
      NumberedChildren document place parent count earlier next boxes ids inner →
        inner.Pairwise fun first second => first.address < second.address
  | _, _, _, _, _, _, _, _, .nil => by
      exact List.Pairwise.nil
  | _, _, _, _, _, _, _, _, .cons _ first later => by
      apply List.pairwise_append.mpr
      refine ⟨first.pairwise_address, later.pairwise_address, ?_⟩
      intro one inFirst other inLater
      obtain ⟨rest, _, oneEq, _⟩ := first.exists_reached one inFirst
      obtain ⟨offset, _, others, _, _, otherEq, _⟩ := later.exists_reached other inLater
      rw [oneEq, otherEq, Place.address_child, List.append_assoc]
      apply List.append_left_lt
      apply List.Lex.rel
      rw [List.length_cons]
      omega

end

namespace Numbered

variable {document : Document α} {box : Box} {placed : List (Placed α)}

/-- A box of the graph of a numbered tree is one of the numbered boxes. -/
theorem exists_placed_of_get?
    (numbered : Numbered document .root NodeId.root box placed)
    {id : NodeId}
    {node : Node α}
    (isNode : Graph.get? ⟨(placed.map (·.node)).toArray⟩ id = some node) :
    ∃ found ∈ placed, found.node = node ∧ found.node.id = id := by
  have atId : ∃ found, placed[id]? = some found ∧ found.node = node := by
    simpa [Graph.get?] using isNode
  obtain ⟨found, atId, nodeEq⟩ := atId
  exact ⟨found, List.mem_of_getElem? atId, nodeEq, numbered.id_of_getElem? atId⟩

/-- A numbered box is the box of the graph with its number. -/
theorem get?_of_mem
    (numbered : Numbered document .root NodeId.root box placed)
    {found : Placed α}
    (member : found ∈ placed) :
    Graph.get? ⟨(placed.map (·.node)).toArray⟩ found.node.id = some found.node := by
  simp [Graph.get?, numbered.getElem?_id_of_mem member]

/-- The boxes that a numbered box refers to are numbered, too. -/
theorem danglingReference?_eq_none
    (numbered : Numbered document .root NodeId.root box placed)
    {found : Placed α}
    (member : found ∈ placed) :
    Graph.danglingReference? placed.length found.node = none := by
  have tree := numbered.isTree
  have isFound := numbered.get?_of_mem member
  have inside :
      ∀ {id : NodeId} {node : Node α},
        Graph.get? ⟨(placed.map (·.node)).toArray⟩ id = some node → id < placed.length := by
    intro id node isNode
    simpa [Graph.size] using Graph.exists_get?_iff.mp ⟨node, isNode⟩
  have ancestorInside : ∀ id ∈ found.node.ancestors, id < placed.length := by
    intro id isAncestor
    have outward : id ∈ found.node.outward := by
      simp [Node.outward, isAncestor]
    obtain ⟨level, holder, _, rfl, isOuter⟩ := tree.exists_isOuter_of_mem isFound outward
    exact inside isOuter.found
  rw [Graph.danglingReference?, List.find?_eq_none]
  intro id related
  rw [decide_eq_true_iff, Nat.not_le]
  rcases List.mem_append.mp related with aboveOrParent | isChild
  · rcases List.mem_append.mp aboveOrParent with isParent | isAncestor
    · rcases tree.parent_of_get? isFound with isTop | ⟨parent, parentFound, holds⟩
      · simp [isTop.parent_eq] at isParent
      · obtain rfl : id = parent.id := by simpa [holds.parent_eq] using isParent
        exact inside parentFound
    · exact ancestorInside id isAncestor
  · obtain ⟨index, listed⟩ := List.mem_iff_getElem?.mp isChild
    obtain ⟨child, childFound, _⟩ := tree.child_of_get? isFound listed
    exact inside childFound

/-- The boxes of a numbered tree are accepted as a graph. -/
theorem ofNodes_eq
    (numbered : Numbered document .root NodeId.root box placed) :
    Graph.ofNodes (placed.map (·.node)) = .ok ⟨(placed.map (·.node)).toArray⟩ := by
  obtain ⟨top, tail, shape, isTop⟩ := numbered.exists_top
  have isFirst : placed.map (·.node) = top.node :: tail.map (·.node) := by
    rw [shape, List.map_cons]
  rw [isFirst, Graph.ofNodes, isTop.parent_eq, ← isFirst]
  rw [List.findSome?_eq_none_iff.mpr]
  · rfl
  · rintro ⟨node, position⟩ isEntry
    obtain ⟨found, atPosition, rfl⟩ :
        ∃ found, placed[position]? = some found ∧ found.node = node := by
      simpa using List.mem_zipIdx_iff_getElem?.mp isEntry
    simp [Graph.placementError?, numbered.id_of_getElem? atPosition,
      numbered.danglingReference?_eq_none (List.mem_of_getElem? atPosition)]

/-- Numbered boxes stand in the order of their addresses. -/
theorem id_lt_iff
    (numbered : Numbered document .root NodeId.root box placed)
    {first second : Placed α}
    (isFirst : first ∈ placed)
    (isSecond : second ∈ placed) :
    first.node.id < second.node.id ↔ first.address < second.address := by
  have ordered :
      ∀ {one other : Placed α}, one ∈ placed → other ∈ placed →
        one.node.id < other.node.id → one.address < other.address := by
    intro one other isOne isOther before
    obtain ⟨inside, oneEq⟩ :=
      List.getElem?_eq_some_iff.mp (numbered.getElem?_id_of_mem isOne)
    obtain ⟨otherInside, otherEq⟩ :=
      List.getElem?_eq_some_iff.mp (numbered.getElem?_id_of_mem isOther)
    rw [← oneEq, ← otherEq]
    exact List.pairwise_iff_getElem.mp numbered.pairwise_address _ _ inside otherInside before
  constructor
  · exact ordered isFirst isSecond
  · intro before
    rcases Nat.lt_trichotomy first.node.id second.node.id with less | same | greater
    · exact less
    · have sameEntry : some first = some second := by
        rw [← numbered.getElem?_id_of_mem isFirst, ← numbered.getElem?_id_of_mem isSecond, same]
      rw [Option.some.inj sameEntry] at before
      exact absurd before (List.lt_irrefl _)
    · exact absurd (ordered isSecond isFirst greater) (List.lt_asymm before)

/-- A container lists each of its children once. -/
theorem nodup_children
    (numbered : Numbered document .root NodeId.root box placed)
    {holder : Placed α}
    (member : holder ∈ placed) :
    holder.node.children.Nodup := by
  have holderFound := numbered.get?_of_mem member
  rw [List.nodup_iff_getElem?_ne_getElem?]
  intro first second before inside same
  obtain ⟨firstChild, firstFound, firstIndex, _⟩ :=
    numbered.isTree.child_of_get? holderFound
      (List.getElem?_eq_getElem (Nat.lt_trans before inside))
  obtain ⟨secondChild, secondFound, secondIndex, _⟩ :=
    numbered.isTree.child_of_get? holderFound (List.getElem?_eq_getElem inside)
  rw [List.getElem?_eq_getElem inside, List.getElem?_eq_getElem (Nat.lt_trans before inside),
    Option.some_inj] at same
  rw [same, secondFound] at firstFound
  have sameIndex : second = first := by
    rw [← firstIndex, ← secondIndex, Option.some.inj firstFound]
  omega

/-- A numbered box is at the top of the tree or held by another one. -/
theorem top_or_exists_holder
    (numbered : Numbered document .root NodeId.root box placed)
    {found : Placed α}
    (member : found ∈ placed) :
    found.node.IsTop ∨ ∃ holder ∈ placed, holder.node.Holds found.node := by
  refine (numbered.isTree.parent_of_get? (numbered.get?_of_mem member)).imp_right ?_
  rintro ⟨parent, parentFound, holds⟩
  obtain ⟨holder, holderMember, rfl, _⟩ := numbered.exists_placed_of_get? parentFound
  exact ⟨holder, holderMember, holds⟩

/-- The boxes of a numbered tree number the boxes of the outline. -/
theorem isNumbering
    (numbered : Numbered document .root NodeId.root box placed) :
    Graph.IsNumbering ⟨(placed.map (·.node)).toArray⟩ box placed := by
  have tree := numbered.isTree
  constructor
  case nodes_eq =>
    rfl
  case ids_eq =>
    simpa [Graph.size, List.range_eq_range', NodeId.root] using numbered.ids_eq
  case recorded =>
    intro address
    constructor
    · rintro ⟨found, member, rfl⟩
      obtain ⟨rest, inner, addressEq, reaches, _⟩ := numbered.exists_reached found member
      rw [Place.root, List.nil_append] at addressEq
      exact ⟨inner, addressEq ▸ reaches⟩
    · rintro ⟨inner, reaches⟩
      obtain ⟨found, member, addressEq⟩ := numbered.exists_placed reaches
      exact ⟨found, member, by simpa [Place.root] using addressEq⟩
  case isOf =>
    intro found member
    obtain ⟨rest, inner, addressEq, reaches, isOf⟩ := numbered.exists_reached found member
    rw [Place.root, List.nil_append] at addressEq
    exact ⟨inner, addressEq ▸ reaches, isOf⟩
  case increasing =>
    intro first isFirst second isSecond
    exact numbered.id_lt_iff isFirst isSecond
  case parent_eq_none_iff =>
    intro found member
    rcases numbered.top_or_exists_holder member with isTop | ⟨holder, _, holds⟩
    · simp [isTop.parent_eq, isTop.id_eq]
    · have notRoot : found.node.id ≠ NodeId.root := Nat.ne_zero_of_lt holds.before
      simp [holds.parent_eq, notRoot]
  case child =>
    intro found member index childId listed
    obtain ⟨child, childMember, idEq, indexEq, addressEq, holds⟩ :=
      numbered.exists_child found member index childId listed
    exact ⟨child, childMember, idEq, holds.parent_eq, indexEq, addressEq, holds.ancestors_eq,
      holds.ownFrame_eq⟩
  case listed =>
    intro found member notRoot
    rcases numbered.top_or_exists_holder member with isTop | ⟨holder, holderMember, holds⟩
    · exact absurd isTop.id_eq notRoot
    · exact ⟨holder, holderMember, holds.parent_eq,
        List.count_eq_one_of_mem (numbered.nodup_children holderMember)
          (List.mem_of_getElem? holds.listed)⟩
  case children_of_cell =>
    intro found member isCell
    apply tree.children_of_cell (numbered.get?_of_mem member)
    simp [Node.isContainer, Kind.isContainer, isCell]
  case depth_le =>
    intro found member
    exact tree.depth_le (numbered.get?_of_mem member)

end Numbered

namespace Diagram

/--
Resolving fails with errors about places of the outline, and finds a name twice only where
siblings share it.
-/
theorem ofOutline_failsOnly_about
    {known : Span → Position → Prop}
    {outline : Outline}
    (isKnown : outline.IsKnown known) :
    FailsOnly (Diagnostic.IsFair known outline.root.NamesDiffer)
      (ofOutline outline : Except Diagnostic (Diagram α)) := by
  refine .bind ?_ fun document _ => ?_
  · exact (Document.read_failsOnly isKnown.attributes).imp fun _ isOneOf =>
      isOneOf.isFair (by simp [DiagnosticCode.resolving]) (by simp)
  refine .bind (numberBox_failsOnly _ _ _ _ isKnown.boxes) fun placed numbered => ?_
  rw [(Numbered.of_numberBox numbered).ofNodes_eq]
  refine .bind (.mapM fun written member => ?_) fun _ _ => .ok _
  exact (Outline.Connection.links_failsOnly _ _ (isKnown.connections written member)).imp
    fun _ isOneOf => isOneOf.isFair (by simp [DiagnosticCode.resolving]) (by simp)

/-- Resolving fails with located errors, and finds a name twice only where siblings share it. -/
theorem ofOutline_failsOnly
    (outline : Outline) :
    FailsOnly (Diagnostic.IsFair (fun _ _ => True) outline.root.NamesDiffer)
      (ofOutline outline : Except Diagnostic (Diagram α)) := by
  apply ofOutline_failsOnly_about
  refine ⟨fun _ _ => trivial, fun _ _ _ => ⟨trivial, fun _ _ => trivial⟩, fun _ _ => ?_⟩
  exact ⟨trivial, trivial, trivial, fun _ _ => trivial⟩

/--
Resolving an outline numbers the boxes that are reached through containers in the order
of their addresses, and links them to a tree.  The boxes it numbers are always accepted
as a graph, so that the error of a graph that contradicts itself never arises.
-/
theorem isNumbering_of_ofOutline
    (outline : Outline) :
    (∀ (document : Document α) (placed : List (Placed α)),
      numberBox document .root NodeId.root outline.root = .ok placed →
        ∃ graph, Graph.ofNodes (placed.map (·.node)) = .ok graph) ∧
    (∀ error : GraphError,
      (ofOutline outline : Except Diagnostic (Diagram α)) ≠
        .error (.error .unexpectedConstruct s!"internal resolver error: {error.message}")) ∧
    ∀ diagram : Diagram α, ofOutline outline = .ok diagram →
      ∃ placed, numberBox diagram.document .root NodeId.root outline.root = .ok placed ∧
        diagram.graph.IsNumbering outline.root placed := by
  refine ⟨?accepted, ?notInternal, ?numbering⟩
  case accepted =>
    intro document placed numbered
    exact ⟨_, (Numbered.of_numberBox numbered).ofNodes_eq⟩
  case notInternal =>
    intro error failed
    have isLocated := ((ofOutline_failsOnly outline).of_eq failed).toIsLocated
    exact Diagnostic.not_isLocated_error _ _ isLocated
  case numbering =>
    intro diagram succeeded
    obtain ⟨placed, _, _, numbered, graphEq, _⟩ := exists_placed_of_ofOutline succeeded
    refine ⟨placed, numbered, ?_⟩
    rw [graphEq]
    exact (Numbered.of_numberBox numbered).isNumbering

/-- The box inside a cell, put there by hand, gets no number; the one inside a unit gets one. -/
theorem exists_isNumbering_of_ofOutline :
    ∃ (outline : Outline) (diagram : Diagram Rat) (placed : List (Placed Rat)),
      (outline.root.at? [0, 0]).isSome ∧ ofOutline outline = .ok diagram ∧
        numberBox diagram.document .root NodeId.root outline.root = .ok placed ∧
          placed.map (·.address) = [[], [0], [1], [1, 0]] ∧
            diagram.graph.IsNumbering outline.root placed := by
  let inner : Box := .leaf .cell (some "inner") .zero .origin
  let cell : Box := { Box.leaf .cell (some "cell") .zero .origin with children := [inner] }
  let unit : Box := { Box.leaf .unit (some "unit") .zero .origin with children := [inner] }
  let outline : Outline := { Outline.empty with root := { Box.root with children := [cell, unit] } }
  have numbers :
      ((ofOutline outline : Except _ (Diagram Rat)).toOption.bind fun diagram =>
          (numberBox diagram.document .root NodeId.root outline.root).toOption.map
            (·.map (·.address))) =
        some [[], [0], [1], [1, 0]] := by
    decide +kernel
  obtain ⟨diagram, resolved, numbers⟩ := Option.bind_eq_some_iff.mp numbers
  obtain ⟨found, _, addresses⟩ := Option.map_eq_some_iff.mp numbers
  have resolved := Attempt.toOption_eq_some_iff.mp resolved
  obtain ⟨placed, numbered, isNumbering⟩ :=
    (isNumbering_of_ofOutline outline).2.2 diagram resolved
  refine ⟨outline, diagram, placed, rfl, resolved, numbered, ?_, isNumbering⟩
  simp_all [Except.toOption]

end Diagram

end BoxDiagram
