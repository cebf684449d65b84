import BoxDiagram.Proofs.Graph.Selected
import BoxDiagram.Proofs.Graph.Siblings
import BoxDiagram.Proofs.Outline.AccessName
import Mathlib.Data.List.Induction

namespace BoxDiagram

open Outline (Address Box Selector)

/-!
# Paths of boxes

The path of a box is the canonical access name of the names on the way to it.  Containers
around a box are those whose address is a part of its own, so that a path is missing
exactly inside boxes without a name, and a path that is there leads back to its box.
-/

variable {α : Type}

/-- A box below the root was declared without a name. -/
def Placed.IsAnonymous (root : Box) (found : Placed α) : Prop :=
  found.node.id ≠ NodeId.root ∧ ∃ box, root.Reaches found.address box ∧ box.name = none

/-- The paths of the boxes of a graph say where in the outline they stand. -/
structure Graph.HasPaths
    (graph : Graph α)
    (root : Box)
    (placed : List (Placed α)) : Prop where
  /-- A path is missing for the boxes without a name and for all that they contain. -/
  path_eq_none_iff :
    ∀ found ∈ placed, found.node.path = none ↔
      ∃ around ∈ placed, around.IsAnonymous root ∧
        graph.AtOrAbove around.node.id found.node.id
  eq_of_path_eq :
    ∀ first ∈ placed, ∀ second ∈ placed, ∀ path,
      first.node.path = some path → second.node.path = some path → first.node = second.node
  /-- The end of a link that says a path from the root selects its box. -/
  selects :
    ∀ found ∈ placed, found.node.id ≠ NodeId.root → ∀ path, found.node.path = some path →
      ∃ segments, AccessName.toPath path = .ok segments ∧
        (Selector.path [] segments).select root placed = [found.node]

/-- The names on the way to a place below a child start with the name of the child. -/
theorem Place.bind_segments_child
    (place : Place α)
    (parent : Node α)
    (index count : Nat)
    (name : Option String)
    (names : Option (List String)) :
    ((place.child parent index count name).segments.bind fun before => names.map (before ++ ·)) =
      place.segments.bind fun before =>
        (name.bind fun name => names.map (name :: ·)).map (before ++ ·) := by
  cases segments : place.segments <;> cases name <;> cases names <;> simp [Place.child, segments]

variable [Scalar α]

mutual

/-- The path of a numbered box consists of the names on the way to it. -/
theorem Numbered.exists_path_eq
    {document : Document α} :
    ∀ {place : Place α} {id : NodeId} {box : Box} {placed : List (Placed α)},
      Numbered document place id box placed →
        ∀ found ∈ placed, ∃ rest, found.address = place.address ++ rest ∧
          found.node.path =
            (place.segments.bind fun before => (box.names? rest).map (before ++ ·)).map
              AccessName.ofPath
  | _, _, _, _, .cell .., found, member => by
      obtain rfl := List.mem_singleton.mp member
      exact ⟨[], by simp, by simp [Place.node]⟩
  | _, _, _, _, .container _ _ _ held, found, member => by
      rcases List.mem_cons.mp member with isHere | isBelow
      · subst found
        exact ⟨[], by simp, by simp [Place.node]⟩
      · obtain ⟨offset, child, rest, listed, addressEq, pathEq⟩ :=
          held.exists_path_eq found isBelow
        rw [List.length_nil, Nat.zero_add] at addressEq
        refine ⟨offset :: rest, addressEq, ?_⟩
        rw [pathEq, Box.names?, listed]
        rfl

/-- Each box below a container has the path of its names, if all boxes on the way have one. -/
theorem NumberedChildren.exists_path_eq
    {document : Document α} :
    ∀ {place : Place α} {parent : Node α} {count : Nat} {earlier : List Box}
      {next : NodeId} {boxes : List Box} {ids : List NodeId} {inner : List (Placed α)},
      NumberedChildren document place parent count earlier next boxes ids inner →
        ∀ found ∈ inner, ∃ offset child rest, boxes[offset]? = some child ∧
          found.address = place.address ++ (earlier.length + offset) :: rest ∧
            found.node.path =
              (place.segments.bind fun before =>
                (child.name.bind fun name => (child.names? rest).map (name :: ·)).map
                  (before ++ ·)).map AccessName.ofPath
  | _, _, _, _, _, _, _, _, .nil, _, member => by
      simp at member
  | _, _, _, _, _, _, _, _, .cons _ first later, found, member => by
      rcases List.mem_append.mp member with inFirst | inLater
      · obtain ⟨rest, addressEq, pathEq⟩ := first.exists_path_eq found inFirst
        refine ⟨0, _, rest, rfl, by simpa using addressEq, ?_⟩
        rw [pathEq, Place.bind_segments_child]
      · obtain ⟨offset, other, rest, listed, addressEq, pathEq⟩ :=
          later.exists_path_eq found inLater
        refine ⟨offset + 1, other, rest, by simpa using listed, ?_, pathEq⟩
        rw [addressEq, List.length_cons, Nat.add_assoc, Nat.add_comm 1]

end

namespace Numbered

variable {document : Document α} {root : Box} {placed : List (Placed α)}
variable (numbered : Numbered document .root NodeId.root root placed)
include numbered

/-- The path of a box is the access name of the names from the root to it. -/
theorem path_eq
    {found : Placed α}
    (member : found ∈ placed) :
    found.node.path = (root.names? found.address).map AccessName.ofPath := by
  obtain ⟨rest, addressEq, pathEq⟩ := numbered.exists_path_eq found member
  rw [Place.root, List.nil_append] at addressEq
  rw [pathEq, addressEq]
  simp [Place.root]

/-- The address of a box goes on from that of its container. -/
theorem exists_address_of_holds
    {holder found : Placed α}
    (isHolder : holder ∈ placed)
    (member : found ∈ placed)
    (holds : holder.node.Holds found.node) :
    ∃ index, found.address = holder.address ++ [index] := by
  obtain ⟨child, childMember, sameId, _, addressEq, _⟩ :=
    numbered.exists_child holder isHolder _ _ holds.listed
  obtain rfl := numbered.eq_of_id_eq childMember member sameId
  exact ⟨_, addressEq⟩

/-- A box other than the root stands in its container at one further position. -/
theorem root_or_exists_holder
    {found : Placed α}
    (member : found ∈ placed) :
    found.node.id = NodeId.root ∧ found.address = [] ∨
      ∃ holder ∈ placed, ∃ index, holder.node.Holds found.node ∧
        found.address = holder.address ++ [index] := by
  rcases numbered.top_or_exists_holder member with isTop | ⟨holder, holderMember, holds⟩
  · obtain ⟨settings, ids, tail, _, shape⟩ := numbered.exists_head
    have isHead : found = placed.head (List.ne_nil_of_mem member) := by
      apply numbered.eq_of_id_eq member (List.head_mem _)
      simp [isTop.id_eq, shape, Place.node]
    refine .inl ⟨isTop.id_eq, ?_⟩
    rw [isHead]
    simp [shape, Place.root]
  · obtain ⟨index, addressEq⟩ := numbered.exists_address_of_holds holderMember member holds
    exact .inr ⟨holder, holderMember, index, holds, addressEq⟩

/-- A box is the root exactly if its address is empty. -/
theorem id_eq_root_iff
    {found : Placed α}
    (member : found ∈ placed) :
    found.node.id = NodeId.root ↔ found.address = [] := by
  rcases numbered.root_or_exists_holder member with
    ⟨isRoot, isEmpty⟩ | ⟨holder, _, index, holds, eq⟩
  · simp [isRoot, isEmpty]
  · have notRoot : found.node.id ≠ NodeId.root := Nat.ne_zero_of_lt holds.before
    simp [notRoot, eq]

/-- A box lies at or above another one exactly if its address is a first part of the other's. -/
theorem atOrAbove_iff_prefix
    {outer inner : Placed α}
    (isOuter : outer ∈ placed)
    (isInner : inner ∈ placed) :
    Graph.AtOrAbove ⟨(placed.map (·.node)).toArray⟩ outer.node.id inner.node.id ↔
      outer.address <+: inner.address := by
  constructor
  · intro above
    generalize sameId : inner.node.id = id at above
    induction above generalizing inner with
    | refl =>
        obtain rfl := numbered.eq_of_id_eq isInner isOuter sameId
        exact List.prefix_rfl
    | tail _ isParent inductionHypothesis =>
        obtain ⟨holder, holderFound, rfl, holds⟩ :=
          numbered.isTree.exists_holds_of_isParent (numbered.get?_of_mem isInner)
            (sameId ▸ isParent)
        obtain ⟨found, member, rfl, _⟩ := numbered.exists_placed_of_get? holderFound
        obtain ⟨index, addressEq⟩ := numbered.exists_address_of_holds member isInner holds
        rw [addressEq]
        exact (inductionHypothesis member rfl).trans (List.prefix_append _ _)
  · rintro ⟨rest, splits⟩
    induction rest using List.reverseRecOn generalizing inner with
    | nil =>
        rw [List.append_nil] at splits
        obtain rfl := numbered.eq_of_address_eq isOuter isInner splits
        exact .refl
    | append_singleton rest last inductionHypothesis =>
        rw [← List.append_assoc] at splits
        rcases numbered.root_or_exists_holder isInner with
          ⟨_, isEmpty⟩ | ⟨holder, holderMember, index, holds, addressEq⟩
        · simp [isEmpty] at splits
        · rw [addressEq] at splits
          have aboveHolder :=
            inductionHypothesis holderMember (List.append_inj_left' splits rfl)
          exact aboveHolder.tail
            (Graph.IsTree.isParent_of_holds (numbered.get?_of_mem isInner) holds)

/-- The paths of numbered boxes say where in the outline they stand. -/
theorem hasPaths :
    Graph.HasPaths ⟨(placed.map (·.node)).toArray⟩ root placed := by
  have along {found : Placed α} (member : found ∈ placed) {path : String}
      (hasPath : found.node.path = some path) :
      ∃ names, root.names? found.address = some names ∧ AccessName.ofPath names = path := by
    rw [numbered.path_eq member] at hasPath
    exact Option.map_eq_some_iff.mp hasPath
  have namesLead {found : Placed α} (member : found ∈ placed) {names : List String}
      (isAlong : root.names? found.address = some names) :
      (Selector.path [] names).select root placed = [found.node] :=
    numbered.select_eq_singleton (by simp) member
      ⟨root, found.address, Box.at?_nil root, isAlong, rfl⟩
  refine ⟨?missing, ?differ, ?selects⟩
  case missing =>
    intro found member
    obtain ⟨box, reaches, _⟩ := numbered.exists_reaches member
    rw [numbered.path_eq member, Option.map_eq_none_iff, Box.names?_eq_none_iff reaches.at?_eq]
    constructor
    · rintro ⟨address, rest, around, nonempty, splits, isAround, nameless⟩
      obtain ⟨middle, toMiddle, _⟩ := (splits ▸ reaches).of_append
      obtain rfl := Option.some.inj (toMiddle.at?_eq.symm.trans isAround)
      obtain ⟨outer, outerMember, outerAddress⟩ := numbered.exists_placed toMiddle
      rw [Place.root, List.nil_append] at outerAddress
      refine ⟨outer, outerMember, ⟨?_, middle, outerAddress ▸ toMiddle, nameless⟩, ?_⟩
      · rwa [Ne, numbered.id_eq_root_iff outerMember, outerAddress]
      · rw [numbered.atOrAbove_iff_prefix outerMember member, outerAddress, splits]
        exact List.prefix_append _ _
    · rintro ⟨outer, outerMember, ⟨notRoot, around, toAround, nameless⟩, above⟩
      obtain ⟨rest, splits⟩ := (numbered.atOrAbove_iff_prefix outerMember member).mp above
      refine ⟨outer.address, rest, around, ?_, splits.symm, toAround.at?_eq, nameless⟩
      rwa [Ne, numbered.id_eq_root_iff outerMember] at notRoot
  case differ =>
    intro first isFirst second isSecond path firstPath secondPath
    obtain ⟨names, alongFirst, rfl⟩ := along isFirst firstPath
    obtain ⟨others, alongSecond, same⟩ := along isSecond secondPath
    have readBack := AccessName.toPath_ofPath others
    rw [same, AccessName.toPath_ofPath] at readBack
    obtain rfl := Except.ok.inj readBack
    have selectsBoth := (namesLead isFirst alongFirst).symm.trans (namesLead isSecond alongSecond)
    exact List.singleton_inj.mp selectsBoth
  case selects =>
    intro found member _ path hasPath
    obtain ⟨names, isAlong, rfl⟩ := along member hasPath
    exact ⟨names, AccessName.toPath_ofPath names, namesLead member isAlong⟩

end Numbered

namespace Diagram

/--
In a resolved diagram a box has no path exactly if it has no name or lies in a box without
a name, different boxes have different paths, and the path of a box below the root is read
back to names by which the end of a link selects this box and no other.
-/
theorem hasPaths_of_ofOutline
    {outline : Outline}
    {diagram : Diagram α}
    (succeeded : ofOutline outline = .ok diagram) :
    ∃ placed, numberBox diagram.document .root NodeId.root outline.root = .ok placed ∧
      diagram.graph.IsNumbering outline.root placed ∧
        diagram.graph.HasPaths outline.root placed := by
  obtain ⟨placed, _, _, numbered, graphEq, _⟩ := exists_placed_of_ofOutline succeeded
  have isNumbered := Numbered.of_numberBox numbered
  refine ⟨placed, numbered, ?_⟩
  rw [graphEq]
  exact ⟨isNumbered.isNumbering, isNumbered.hasPaths⟩

/-- A quoted name with a point leads to its box; a name in a box without one has no path. -/
theorem exists_hasPaths_of_ofOutline :
    ∃ (outline : Outline) (diagram : Diagram Rat) (placed : List (Placed Rat)),
      ofOutline outline = .ok diagram ∧
        placed.map (fun found => (found.address, found.node.path)) =
          [([], some ""), ([0], some "a"), ([0, 0], some "a.\"b.c\""), ([1], none), ([1, 0], none),
            ([2], some "\"\"")] ∧
          diagram.graph.HasPaths outline.root placed := by
  let unit (name : Option String) (inner : String) : Box :=
    { Box.leaf .unit name .zero .origin with
      children := [.leaf .cell (some inner) .zero .origin] }
  let children : List Box :=
    [unit (some "a") "b.c", unit none "d", .leaf .cell (some "") .zero .origin]
  let outline : Outline := { Outline.empty with root := { Box.root with children } }
  have paths :
      ((ofOutline outline : Except _ (Diagram Rat)).toOption.bind fun diagram =>
          (numberBox diagram.document .root NodeId.root outline.root).toOption.map
            (·.map fun found => (found.address, found.node.path))) =
        some [([], some ""), ([0], some "a"), ([0, 0], some "a.\"b.c\""), ([1], none),
          ([1, 0], none), ([2], some "\"\"")] := by
    decide +kernel
  obtain ⟨diagram, resolved, paths⟩ := Option.bind_eq_some_iff.mp paths
  obtain ⟨found, isFound, paths⟩ := Option.map_eq_some_iff.mp paths
  have resolved := Attempt.toOption_eq_some_iff.mp resolved
  obtain ⟨placed, numbered, _, hasPaths⟩ := hasPaths_of_ofOutline resolved
  obtain rfl : placed = found :=
    Except.ok.inj (numbered.symm.trans (Attempt.toOption_eq_some_iff.mp isFound))
  exact ⟨outline, diagram, placed, resolved, paths, hasPaths⟩

end Diagram

end BoxDiagram
