import BoxDiagram.Proofs.Graph.Addresses
import BoxDiagram.Proofs.Outline.Names

namespace BoxDiagram

open Outline (Address Box Selector)

/-!
# Selected boxes

The ends of links select among the numbered boxes.  `Selector.Names` says of one box,
from the finished tree alone, whether a selector names it, and what a selector selects
are exactly the boxes that it names, each once and in the order of their numbers.
-/

variable {α : Type}

namespace Outline.Box

/-- A box that is reached is found at its address. -/
theorem Reaches.at?_eq
    {root inner : Box}
    {address : Address}
    (reaches : root.Reaches address inner) :
    root.at? address = some inner := by
  induction reaches with
  | here box =>
      exact at?_nil box
  | inside _ listed _ inductionHypothesis =>
      rw [at?_cons, listed]
      exact inductionHypothesis

/-- A box that is reached is reached through each box on the way. -/
theorem Reaches.of_append
    {root inner : Box}
    {address rest : Address}
    (reaches : root.Reaches (address ++ rest) inner) :
    ∃ middle, root.Reaches address middle ∧ middle.Reaches rest inner := by
  induction address generalizing root with
  | nil =>
      exact ⟨root, .here root, reaches⟩
  | cons index tail inductionHypothesis =>
      cases reaches with
      | inside isContainer listed below =>
          obtain ⟨middle, toMiddle, further⟩ := inductionHypothesis below
          exact ⟨middle, .inside isContainer listed toMiddle, further⟩

/-- What is reached from a box that is reached is reached. -/
theorem Reaches.append
    {root middle inner : Box}
    {address rest : Address}
    (reaches : root.Reaches address middle)
    (further : middle.Reaches rest inner) :
    root.Reaches (address ++ rest) inner := by
  induction reaches with
  | here box =>
      exact further
  | inside isContainer listed _ inductionHypothesis =>
      exact .inside isContainer listed (inductionHypothesis further)

/-- In each container of a tree that is reached the children have different names. -/
def ReachedNamesDiffer (root : Box) : Prop :=
  ∀ address inner, root.Reaches address inner → inner.kind.isContainer = true →
    (inner.children.filterMap (·.name)).Nodup

/-- Where names differ below a box, they do so below each box in it. -/
theorem ReachedNamesDiffer.of_reaches
    {root middle : Box}
    {address : Address}
    (differ : root.ReachedNamesDiffer)
    (reaches : root.Reaches address middle) :
    middle.ReachedNamesDiffer :=
  fun _ _ further => differ _ _ (reaches.append further)

/-- Following the names on the way to a box that is reached leads to this box. -/
theorem Reaches.follow?_eq
    {root inner : Box}
    {rest : Address}
    {names : List String}
    (reaches : root.Reaches rest inner)
    (differ : root.ReachedNamesDiffer)
    (along : root.names? rest = some names)
    (address : Address) :
    root.follow? address names = some (address ++ rest) := by
  induction reaches generalizing address names with
  | here box =>
      obtain rfl : [] = names := by simpa using along
      simp [follow?]
  | @inside box child found index rest isContainer listed _ inductionHypothesis =>
      obtain ⟨other, name, others, otherListed, named, alongRest, rfl⟩ :=
        names?_cons_eq_some_iff.mp along
      obtain rfl : child = other := Option.some.inj (listed.symm.trans otherListed)
      have isIndex := childIndex?_eq_some (differ [] box (.here box) isContainer) listed named
      rw [follow?, isIndex]
      dsimp only
      rw [listed]
      dsimp only
      have differInside := differ.of_reaches (.inside isContainer listed (.here child))
      rw [inductionHypothesis differInside alongRest, List.append_assoc, List.singleton_append]

end Outline.Box

section Names

/-- A name that no earlier sibling claims is not the name of one. -/
theorem name_ne_of_claimedBy?
    {earlier : List Box}
    {child sibling : Box}
    {name : String}
    (unclaimed : claimedBy? earlier child = none)
    (named : child.name = some name)
    (member : sibling ∈ earlier) :
    sibling.name ≠ some name := by
  rw [claimedBy?, named, Option.bind_some, Option.map_eq_none_iff, List.find?_eq_none] at unclaimed
  simpa using unclaimed sibling member

variable [Scalar α]

mutual

/-- Where numbering succeeds, siblings have different names. -/
theorem Numbered.reachedNamesDiffer
    {document : Document α} :
    ∀ {place : Place α} {id : NodeId} {box : Box} {placed : List (Placed α)},
      Numbered document place id box placed → box.ReachedNamesDiffer
  | _, _, _, _, .cell _ _ isCell, _, _, .here _, isContainer => by
      simp [isCell] at isContainer
  | _, _, _, _, .cell _ _ isCell, _, _, .inside isContainer _ _, _ => by
      simp [isCell] at isContainer
  | _, _, _, _, .container _ _ _ held, _, _, .here _, _ => by
      simpa using (held.reachedNamesDiffer (by simp)).1
  | _, _, _, _, .container _ _ _ held, _, _, .inside _ listed reaches, isContainer => by
      exact (held.reachedNamesDiffer (by simp)).2 _ _ listed _ _ reaches isContainer

/-- Names differ among siblings that were numbered, and below each of them. -/
theorem NumberedChildren.reachedNamesDiffer
    {document : Document α} :
    ∀ {place : Place α} {parent : Node α} {count : Nat} {earlier : List Box}
      {next : NodeId} {boxes : List Box} {ids : List NodeId} {inner : List (Placed α)},
      NumberedChildren document place parent count earlier next boxes ids inner →
        (earlier.reverse.filterMap (·.name)).Nodup →
          ((earlier.reverse ++ boxes).filterMap (·.name)).Nodup ∧
            ∀ (offset : Nat) (child : Box), boxes[offset]? = some child →
              child.ReachedNamesDiffer
  | _, _, _, _, _, _, _, _, .nil, distinct => by
      simpa using distinct
  | _, _, _, earlier, _, child :: rest, _, _, .cons unclaimed first later, distinct => by
      have grown : ((child :: earlier).reverse.filterMap (·.name)).Nodup := by
        rw [List.reverse_cons, List.filterMap_append, List.nodup_append]
        refine ⟨distinct, ?_, ?_⟩
        · cases named : child.name <;> simp [named]
        · intro one isEarlier other isNew
          have isNew : child.name = some other := by simpa using isNew
          obtain ⟨sibling, member, named⟩ := List.mem_filterMap.mp isEarlier
          rintro rfl
          exact name_ne_of_claimedBy? unclaimed isNew member named
      obtain ⟨laterDistinct, laterDiffer⟩ := later.reachedNamesDiffer grown
      refine ⟨by simpa using laterDistinct, ?_⟩
      intro offset other listed
      cases offset with
      | zero =>
          obtain rfl : child = other := by simpa using listed
          exact first.reachedNamesDiffer
      | succ offset =>
          exact laterDiffer offset other (by simpa using listed)

end

end Names

/-- A numbered box was given a name. -/
def Placed.IsNamed (root : Box) (name : String) (found : Placed α) : Prop :=
  ∃ box, root.Reaches found.address box ∧ box.name = some name

/--
A selector names a box: by the names on the way from a container to it, as the first box
with a name, by a tag, or by its address.  The empty name is that of no box.
-/
def Outline.Selector.Names
    (selector : Selector)
    (root : Box)
    (placed : List (Placed α))
    (found : Placed α) : Prop :=
  match selector with
  | .path base segments =>
      ∃ box rest, root.at? base = some box ∧ box.names? rest = some segments ∧
        found.address = base ++ rest
  | .name wanted =>
      wanted ≠ "" ∧ found.IsNamed root wanted ∧
        ∀ other ∈ placed, other.IsNamed root wanted → found.node.id ≤ other.node.id
  | .tag wanted => wanted ∈ found.node.tags
  | .address wanted => found.address = wanted

/-- A list holds the boxes that a selector names, each once, in the order of their numbers. -/
structure Outline.Selector.IsSelection
    (selector : Selector)
    (root : Box)
    (placed : List (Placed α))
    (nodes : List (Node α)) : Prop where
  increasing : nodes.Pairwise (·.id < ·.id)
  mem_iff :
    ∀ node, node ∈ nodes ↔ ∃ found ∈ placed, found.node = node ∧ selector.Names root placed found
  /-- Only a tag names several boxes. -/
  length_le : (∀ tag, selector ≠ .tag tag) → nodes.length ≤ 1

/-- The one box that a selector names, if there is one, is a selection. -/
theorem Outline.Selector.IsSelection.of_option
    {selector : Selector}
    {root : Box}
    {placed : List (Placed α)}
    {picked : Option (Placed α)}
    (names : ∀ found, picked = some found ↔ found ∈ placed ∧ selector.Names root placed found) :
    selector.IsSelection root placed (picked.map (·.node)).toList := by
  refine ⟨?increasing, ?members, ?single⟩
  case increasing =>
    cases picked <;> simp
  case members =>
    intro node
    rw [Option.mem_toList, Option.map_eq_some_iff]
    constructor
    · rintro ⟨found, isPicked, rfl⟩
      obtain ⟨member, isNamed⟩ := (names found).mp isPicked
      exact ⟨found, member, rfl, isNamed⟩
    · rintro ⟨found, member, rfl, isNamed⟩
      exact ⟨found, (names found).mpr ⟨member, isNamed⟩, rfl⟩
  case single =>
    cases picked <;> simp

/-- Two selections of one selector are the same list. -/
theorem Outline.Selector.IsSelection.unique
    {selector : Selector}
    {root : Box}
    {placed : List (Placed α)}
    {nodes others : List (Node α)}
    (isSelection : selector.IsSelection root placed nodes)
    (isOther : selector.IsSelection root placed others) :
    nodes = others := by
  have nodup {list : List (Node α)} (increasing : list.Pairwise (·.id < ·.id)) : list.Nodup :=
    increasing.imp fun {_ _} less => ne_of_apply_ne Node.id (Nat.ne_of_lt less)
  have perm : nodes.Perm others := by
    rw [List.perm_ext_iff_of_nodup (nodup isSelection.increasing) (nodup isOther.increasing)]
    intro node
    rw [isSelection.mem_iff, isOther.mem_iff]
  refine perm.eq_of_pairwise ?_ isSelection.increasing isOther.increasing
  intro first second _ _ before after
  exact absurd before (Nat.lt_asymm after)

variable [Scalar α]

namespace Numbered

variable {document : Document α} {root : Box} {placed : List (Placed α)}
variable (numbered : Numbered document .root NodeId.root root placed)
include numbered

/-- A numbered box is the box of the outline at its address. -/
theorem exists_reaches
    {found : Placed α}
    (member : found ∈ placed) :
    ∃ box, root.Reaches found.address box ∧ found.node.IsOf box := by
  obtain ⟨rest, box, addressEq, reaches, isOf⟩ := numbered.exists_reached found member
  rw [Place.root, List.nil_append] at addressEq
  exact ⟨box, addressEq ▸ reaches, isOf⟩

/-- Boxes are listed in the order of their numbers. -/
theorem pairwise_id :
    placed.Pairwise (·.node.id < ·.node.id) := by
  have ids : (placed.map (·.node.id)).Pairwise (· < ·) := by
    rw [numbered.ids_eq]
    exact List.pairwise_lt_range'
  exact List.pairwise_map.mp ids

/-- No two boxes have the same number. -/
theorem eq_of_id_eq
    {first second : Placed α}
    (isFirst : first ∈ placed)
    (isSecond : second ∈ placed)
    (same : first.node.id = second.node.id) :
    first = second := by
  have entry := numbered.getElem?_id_of_mem isFirst
  rw [same, numbered.getElem?_id_of_mem isSecond] at entry
  exact (Option.some.inj entry).symm

/-- Different numbered boxes have different addresses. -/
theorem eq_of_address_eq
    {first second : Placed α}
    (isFirst : first ∈ placed)
    (isSecond : second ∈ placed)
    (same : first.address = second.address) :
    first = second := by
  apply numbered.eq_of_id_eq isFirst isSecond
  have notBefore := mt (numbered.id_lt_iff isFirst isSecond).mp (same ▸ List.lt_irrefl _)
  have notAfter := mt (numbered.id_lt_iff isSecond isFirst).mp (same ▸ List.lt_irrefl _)
  exact Nat.le_antisymm (Nat.le_of_not_lt notAfter) (Nat.le_of_not_lt notBefore)

/-- The first box with a property is the one of least number. -/
theorem find?_eq_some_iff
    {holds : Placed α → Bool}
    {first : Placed α} :
    placed.find? holds = some first ↔
      first ∈ placed ∧ holds first = true ∧
        ∀ other ∈ placed, holds other = true → first.node.id ≤ other.node.id := by
  have isLeast {found : Placed α} (isFound : placed.find? holds = some found) :
      found ∈ placed ∧ holds found = true ∧
        ∀ other ∈ placed, holds other = true → found.node.id ≤ other.node.id := by
    obtain ⟨holdsFound, before, after, splits, noneBefore⟩ :=
      List.find?_eq_some_iff_append.mp isFound
    refine ⟨List.mem_of_find?_eq_some isFound, holdsFound, ?_⟩
    intro other member holdsOther
    have increasing := numbered.pairwise_id
    rw [splits, List.pairwise_append, List.pairwise_cons] at increasing
    rw [splits, List.mem_append, List.mem_cons] at member
    rcases member with isBefore | rfl | isAfter
    · exact absurd holdsOther (by simpa using noneBefore other isBefore)
    · exact Nat.le_refl _
    · exact Nat.le_of_lt (increasing.2.1.1 other isAfter)
  refine ⟨isLeast, ?_⟩
  rintro ⟨member, holdsFirst, leastFirst⟩
  obtain ⟨found, isFound⟩ :=
    Option.isSome_iff_exists.mp (List.find?_isSome.mpr ⟨first, member, holdsFirst⟩)
  obtain ⟨foundMember, holdsFound, leastFound⟩ := isLeast isFound
  have sameId : found.node.id = first.node.id :=
    Nat.le_antisymm (leastFound first member holdsFirst) (leastFirst found foundMember holdsFound)
  rw [isFound, numbered.eq_of_id_eq foundMember member sameId]

/-- A search for an address finds the one box with this address. -/
theorem find?_address_eq_some_iff
    {wanted : Address}
    {found : Placed α} :
    placed.find? (·.address == wanted) = some found ↔ found ∈ placed ∧ found.address = wanted := by
  rw [numbered.find?_eq_some_iff]
  constructor
  · rintro ⟨member, isWanted, _⟩
    exact ⟨member, by simpa using isWanted⟩
  · rintro ⟨member, rfl⟩
    refine ⟨member, by simp, ?_⟩
    intro other otherMember same
    obtain rfl := numbered.eq_of_address_eq otherMember member (by simpa using same)
    exact Nat.le_refl _

/-- A name other than the empty one is that of the boxes to which it was given. -/
theorem name_eq_iff
    {found : Placed α}
    (member : found ∈ placed)
    {wanted : String}
    (nonempty : wanted ≠ "") :
    found.node.name = wanted ↔ found.IsNamed root wanted := by
  obtain ⟨box, reaches, isOf⟩ := numbered.exists_reaches member
  rw [isOf.name_eq]
  constructor
  · rintro rfl
    cases named : box.name with
    | none =>
        simp [named] at nonempty
    | some name =>
        exact ⟨box, reaches, by simp [named]⟩
  · rintro ⟨other, reachesOther, named⟩
    obtain rfl := Option.some.inj (reaches.at?_eq.symm.trans reachesOther.at?_eq)
    rw [named]
    rfl

/-- A path leads to the box along which its names stand. -/
theorem followed_eq_some_iff
    {base : Address}
    {segments : List String}
    {found : Placed α} :
    (((root.at? base).bind fun box => box.follow? base segments).bind fun wanted =>
        placed.find? (·.address == wanted)) = some found ↔
      found ∈ placed ∧ (Selector.path base segments).Names root placed found := by
  simp only [Option.bind_eq_some_iff, numbered.find?_address_eq_some_iff]
  constructor
  · rintro ⟨_, ⟨box, isBase, followed⟩, member, rfl⟩
    obtain ⟨rest, isAddress, along⟩ := Box.names?_of_follow? followed
    exact ⟨member, box, rest, isBase, along, isAddress⟩
  · rintro ⟨member, box, rest, isBase, along, isAddress⟩
    obtain ⟨inner, reaches, _⟩ := numbered.exists_reaches member
    rw [isAddress] at reaches
    obtain ⟨middle, toMiddle, further⟩ := reaches.of_append
    obtain rfl : middle = box := Option.some.inj (toMiddle.at?_eq.symm.trans isBase)
    have differ := numbered.reachedNamesDiffer.of_reaches toMiddle
    exact ⟨_, ⟨middle, isBase, further.follow?_eq differ along base⟩, member, isAddress⟩

/-- The first box that bears a name is the first one to which it was given. -/
theorem find?_name_eq_some_iff
    {wanted : String}
    (nonempty : wanted ≠ "")
    {found : Placed α} :
    placed.find? (·.node.name == wanted) = some found ↔
      found ∈ placed ∧ (Selector.name wanted).Names root placed found := by
  rw [numbered.find?_eq_some_iff]
  constructor
  · rintro ⟨member, isNamed, isLeast⟩
    refine ⟨member, nonempty, ?_, ?_⟩
    · exact (numbered.name_eq_iff member nonempty).mp (by simpa using isNamed)
    · intro other otherMember otherNamed
      refine isLeast other otherMember ?_
      simpa using (numbered.name_eq_iff otherMember nonempty).mpr otherNamed
  · rintro ⟨member, _, isNamed, isLeast⟩
    refine ⟨member, ?_, ?_⟩
    · simpa using (numbered.name_eq_iff member nonempty).mpr isNamed
    · intro other otherMember otherNamed
      exact isLeast other otherMember
        ((numbered.name_eq_iff otherMember nonempty).mp (by simpa using otherNamed))

/-- A selector selects the boxes that it names. -/
theorem isSelection_select
    (selector : Selector) :
    selector.IsSelection root placed (selector.select root placed) := by
  cases selector with
  | path base segments =>
      have isSelection : (Selector.path base segments).IsSelection root placed _ :=
        .of_option fun _ => numbered.followed_eq_some_iff
      rw [Option.map_bind] at isSelection
      exact isSelection
  | name wanted =>
      rw [Selector.select]
      split
      · rename_i isEmpty
        obtain rfl : wanted = "" := String.isEmpty_iff.mp isEmpty
        have names (found : Placed α) :
            none = some found ↔ found ∈ placed ∧ (Selector.name "").Names root placed found := by
          simp [Selector.Names]
        exact .of_option names
      · rename_i nonempty
        rw [String.isEmpty_iff] at nonempty
        exact .of_option fun _ => numbered.find?_name_eq_some_iff nonempty
  | tag wanted =>
      rw [Selector.select]
      refine ⟨?_, ?_, fun noTag => absurd rfl (noTag wanted)⟩
      · exact List.pairwise_map.mpr (numbered.pairwise_id.filter _)
      · intro node
        simp [Selector.Names, and_assoc, and_comm]
  | address wanted =>
      rw [Selector.select]
      exact .of_option fun _ => numbered.find?_address_eq_some_iff

/-- What a selector of one box names is what it selects. -/
theorem select_eq_singleton
    {selector : Selector}
    {found : Placed α}
    (noTag : ∀ tag, selector ≠ .tag tag)
    (member : found ∈ placed)
    (isNamed : selector.Names root placed found) :
    selector.select root placed = [found.node] := by
  have isSelection := numbered.isSelection_select selector
  have isMember := (isSelection.mem_iff found.node).mpr ⟨found, member, rfl, isNamed⟩
  obtain ⟨only, isOnly⟩ := List.length_eq_one_iff.mp
    (Nat.le_antisymm (isSelection.length_le noTag) (List.length_pos_of_mem isMember))
  rw [isOnly, List.mem_singleton] at isMember
  rw [isOnly, isMember]

end Numbered

namespace Outline.Selector

/--
A name that was given to a box that is reached selects one box, the one of least number
among those to which it was given, unless it is the empty name.  The empty name selects
nothing, whether it was given to a box or not.
-/
theorem select_name
    {document : Document α}
    {root : Box}
    {placed : List (Placed α)}
    (succeeded : numberBox document .root NodeId.root root = .ok placed)
    (wanted : String) :
    (wanted ≠ "" → ∀ address box, root.Reaches address box → box.name = some wanted →
      ∃ first ∈ placed, first.IsNamed root wanted ∧
        (∀ other ∈ placed, other.IsNamed root wanted → first.node.id ≤ other.node.id) ∧
          (Selector.name wanted).select root placed = [first.node]) ∧
    (wanted = "" → (Selector.name wanted).select root placed = []) := by
  have numbered := Numbered.of_numberBox succeeded
  constructor
  · intro nonempty address box reaches named
    obtain ⟨found, member, isAddress⟩ := numbered.exists_placed reaches
    have isAddress : found.address = address := by simpa [Place.root] using isAddress
    have isNamed : found.node.name = wanted :=
      (numbered.name_eq_iff member nonempty).mpr ⟨box, isAddress ▸ reaches, named⟩
    obtain ⟨first, isFirst⟩ := Option.isSome_iff_exists.mp
      (List.find?_isSome (p := fun one => one.node.name == wanted).mpr
        ⟨found, member, by simpa using isNamed⟩)
    obtain ⟨firstMember, _, firstNamed, isLeast⟩ :=
      (numbered.find?_name_eq_some_iff nonempty).mp isFirst
    exact ⟨first, firstMember, firstNamed, isLeast,
      numbered.select_eq_singleton (by simp) firstMember ⟨nonempty, firstNamed, isLeast⟩⟩
  · rintro rfl
    rfl

/-- Of two boxes with one name the first is selected, and none by the empty name of a third. -/
theorem exists_select_name :
    ∃ (root : Box) (placed : List (Placed Rat)) (first : Placed Rat),
      numberBox Document.default .root NodeId.root root = .ok placed ∧
        (root.at? [0, 0]).map (·.name) = some (some "b") ∧
        (root.at? [1]).map (·.name) = some (some "b") ∧
        (root.at? [2]).map (·.name) = some (some "") ∧
        first.node.id = 2 ∧ (Selector.name "b").select root placed = [first.node] ∧
          (Selector.name "").select root placed = [] := by
  let unit : Box :=
    { Box.leaf .unit (some "a") .zero .origin with
      children := [.leaf .cell (some "b") .zero .origin] }
  let root : Box :=
    { Box.root with
      children :=
        [unit, .leaf .cell (some "b") .zero .origin, .leaf .cell (some "") .zero .origin] }
  have numbers :
      (numberBox (Document.default : Document Rat) .root NodeId.root root).toOption.map
          (fun placed => ((Selector.name "b").select root placed).map (·.id)) =
        some [2] := by
    decide +kernel
  obtain ⟨placed, succeeded, numbers⟩ := Option.map_eq_some_iff.mp numbers
  have succeeded := Attempt.toOption_eq_some_iff.mp succeeded
  have reaches : root.Reaches [0, 0] (.leaf .cell (some "b") .zero .origin) :=
    .inside rfl rfl (.inside rfl rfl (.here _))
  obtain ⟨first, _, _, _, selects⟩ := (select_name succeeded "b").1 (by decide) _ _ reaches rfl
  have isSecond : first.node.id = 2 := by
    rw [selects] at numbers
    simpa using numbers
  exact ⟨root, placed, first, succeeded, rfl, rfl, rfl, isSecond, selects,
    (select_name succeeded "").2 rfl⟩

end Outline.Selector

end BoxDiagram
