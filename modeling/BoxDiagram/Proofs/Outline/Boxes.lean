import BoxDiagram.Outline.Basic
import Mathlib.Data.List.Nodup

namespace BoxDiagram.Outline

/-!
# Boxes at addresses

Reading a text changes its tree at one address at a time.  A change of one box
leaves the shape of all others, and a tree only ever grows: a box stays where it
is and keeps its name, and an explicit box keeps its kind.
-/

namespace Box

/-- A later form of a box has its name, and its kind once that was declared. -/
structure Keeps (box later : Box) : Prop where
  name_eq : later.name = box.name
  isContainer_eq : later.kind.isContainer = box.kind.isContainer
  explicit : box.implicit = false → later.implicit = false ∧ later.kind = box.kind

/-- A later form of a tree has a later form of each box at the address of that box. -/
def Grows (root later : Box) : Prop :=
  ∀ address box, root.at? address = some box →
    ∃ after, later.at? address = some after ∧ box.Keeps after

/--
A cell is a leaf, children have different names, and a box that was only mentioned is a
named unit around the box for which it was mentioned.
-/
structure IsWellShaped (box : Box) : Prop where
  cell : box.kind = .cell → box.children = []
  names : (box.children.filterMap (·.name)).Nodup
  mentioned :
    box.implicit = true →
      box.kind = .unit ∧ box.name.isSome ∧ box.attributes = [] ∧ box.children ≠ []

/-- Every box of a tree is well shaped. -/
def IsSound (root : Box) : Prop :=
  ∀ address box, root.at? address = some box → box.IsWellShaped

/-- No two children of one box of a tree have the same name. -/
def NamesDiffer (root : Box) : Prop :=
  ∀ address box, root.at? address = some box → (box.children.filterMap (·.name)).Nodup

theorem IsSound.namesDiffer
    {root : Box}
    (sound : root.IsSound) :
    root.NamesDiffer :=
  fun address box found => (sound address box found).names

/-- Two boxes were declared at one place with the same attributes. -/
structure HasHeaderOf (box other : Box) : Prop where
  attributes_eq : box.attributes = other.attributes
  span_eq : box.span = other.span
  position_eq : box.position = other.position

/-- Two boxes agree but for what lies in their children. -/
structure HasShapeOf (box other : Box) : Prop extends box.HasHeaderOf other where
  kind_eq : box.kind = other.kind
  name_eq : box.name = other.name
  implicit_eq : box.implicit = other.implicit
  names_eq : box.children.map (·.name) = other.children.map (·.name)

@[simp] theorem at?_nil
    (box : Box) :
    box.at? [] = some box := by
  rw [at?]

/-- An address leads through the child with its first number. -/
theorem at?_cons
    (box : Box)
    (index : Nat)
    (rest : Address) :
    box.at? (index :: rest) = box.children[index]?.bind (·.at? rest) := by
  rw [at?]
  cases box.children[index]? <;> rfl

/-- An address leads on from where its first part leads. -/
theorem at?_append
    (box : Box)
    (address rest : Address) :
    box.at? (address ++ rest) = (box.at? address).bind (·.at? rest) := by
  induction address generalizing box with
  | nil =>
      simp
  | cons index tail inductionHypothesis =>
      simp only [List.cons_append, at?_cons, inductionHypothesis, Option.bind_assoc]

/-- What holds of all boxes of a tree holds of those below a child of its root. -/
theorem forall_of_child
    {holds : Box → Prop}
    {root child : Box}
    (everywhere : ∀ address box, root.at? address = some box → holds box)
    (member : child ∈ root.children) :
    ∀ address box, child.at? address = some box → holds box := by
  obtain ⟨index, listed⟩ := List.mem_iff_getElem?.mp member
  intro address box found
  apply everywhere (index :: address)
  rw [at?_cons, listed]
  exact found

/-- Where names differ everywhere in a tree, they do so below each child. -/
theorem NamesDiffer.of_child
    {root child : Box}
    (differ : root.NamesDiffer)
    (member : child ∈ root.children) :
    child.NamesDiffer :=
  forall_of_child differ member

namespace Keeps

/-- A box keeps what it has. -/
theorem refl
    (box : Box) :
    box.Keeps box where
  name_eq := rfl
  isContainer_eq := rfl
  explicit isExplicit := ⟨isExplicit, rfl⟩

/-- What is kept twice is kept. -/
theorem trans
    {box later latest : Box}
    (first : box.Keeps later)
    (second : later.Keeps latest) :
    box.Keeps latest where
  name_eq := second.name_eq.trans first.name_eq
  isContainer_eq := second.isContainer_eq.trans first.isContainer_eq
  explicit isExplicit := by
    obtain ⟨laterExplicit, laterKind⟩ := first.explicit isExplicit
    obtain ⟨latestExplicit, latestKind⟩ := second.explicit laterExplicit
    exact ⟨latestExplicit, latestKind.trans laterKind⟩

end Keeps

namespace Grows

/-- A tree grows into itself. -/
theorem refl
    (root : Box) :
    root.Grows root := by
  intro address box found
  exact ⟨box, found, .refl box⟩

/-- A tree that grows twice has grown. -/
theorem trans
    {root later latest : Box}
    (first : root.Grows later)
    (second : later.Grows latest) :
    root.Grows latest := by
  intro address box found
  obtain ⟨middle, middleFound, keepsFirst⟩ := first address box found
  obtain ⟨last, lastFound, keepsSecond⟩ := second address middle middleFound
  exact ⟨last, lastFound, keepsFirst.trans keepsSecond⟩

/-- A tree grows if its root keeps what it must and the children of the root grow. -/
theorem of_children
    {root later : Box}
    (keeps : root.Keeps later)
    (children :
      ∀ (index : Nat) (child : Box), root.children[index]? = some child →
        ∃ after, later.children[index]? = some after ∧ child.Grows after) :
    root.Grows later := by
  intro address box found
  cases address with
  | nil =>
      obtain rfl : root = box := by simpa using found
      exact ⟨later, at?_nil later, keeps⟩
  | cons index rest =>
      rw [at?_cons] at found
      obtain ⟨child, listed, found⟩ := Option.bind_eq_some_iff.mp found
      obtain ⟨after, listedAfter, grows⟩ := children index child listed
      obtain ⟨last, lastFound, keepsLast⟩ := grows rest box found
      exact ⟨last, by rw [at?_cons, listedAfter]; exact lastFound, keepsLast⟩

end Grows

theorem HasShapeOf.refl
    (box : Box) :
    box.HasShapeOf box :=
  ⟨⟨rfl, rfl, rfl⟩, rfl, rfl, rfl, rfl⟩

/-- Whether a box is well shaped depends on its shape alone. -/
theorem IsWellShaped.of_hasShape
    {box other : Box}
    (shaped : other.IsWellShaped)
    (same : box.HasShapeOf other) :
    box.IsWellShaped where
  cell isCell := by
    have none_inside := shaped.cell (same.kind_eq ▸ isCell)
    simpa [none_inside] using same.names_eq
  names := by
    have names := congrArg (List.filterMap id) same.names_eq
    rw [List.filterMap_map, List.filterMap_map] at names
    exact (show box.children.filterMap (·.name) = other.children.filterMap (·.name) from names) ▸
      shaped.names
  mentioned isImplicit := by
    obtain ⟨isUnit, named, plain, around⟩ := shaped.mentioned (same.implicit_eq ▸ isImplicit)
    refine ⟨same.kind_eq ▸ isUnit, same.name_eq ▸ named, same.attributes_eq ▸ plain, ?_⟩
    intro none_inside
    have names := same.names_eq
    simp [none_inside] at names
    exact around names

section Change

variable {root target : Box} {address : Address} {change : Box → Box}

/-- A change that leaves the name of a box leaves the name of the root. -/
theorem name_modifyAt
    (found : root.at? address = some target)
    (named : (change target).name = target.name) :
    (root.modifyAt address change).name = root.name := by
  cases address with
  | nil =>
      obtain rfl : root = target := by simpa using found
      simpa [modifyAt] using named
  | cons index rest =>
      simp [modifyAt]

/-- A change of the box at an address is found there. -/
theorem at?_modifyAt_self
    (found : root.at? address = some target)
    (rest : Address) :
    (root.modifyAt address change).at? (address ++ rest) = (change target).at? rest := by
  induction address generalizing root with
  | nil =>
      obtain rfl : root = target := by simpa using found
      simp [modifyAt]
  | cons index tail inductionHypothesis =>
      rw [at?_cons] at found
      obtain ⟨child, listed, found⟩ := Option.bind_eq_some_iff.mp found
      have changed :
          (root.children.modify index (·.modifyAt tail change))[index]? =
            some (child.modifyAt tail change) := by
        simp [listed]
      rw [modifyAt, List.cons_append, at?_cons, changed]
      exact inductionHypothesis found

/-- A box of a changed tree lies in the changed box, or has the shape that it had before. -/
theorem inside_or_hasShape_of_modifyAt
    (found : root.at? address = some target)
    (named : (change target).name = target.name)
    {other : Address}
    {box : Box}
    (isBox : (root.modifyAt address change).at? other = some box) :
    (∃ rest, other = address ++ rest ∧ (change target).at? rest = some box) ∨
      (¬ address <+: other ∧ ∃ old, root.at? other = some old ∧ box.HasShapeOf old) := by
  induction address generalizing root other with
  | nil =>
      obtain rfl : root = target := by simpa using found
      exact .inl ⟨other, rfl, by simpa [modifyAt] using isBox⟩
  | cons index tail inductionHypothesis =>
      rw [at?_cons] at found
      obtain ⟨child, listed, found⟩ := Option.bind_eq_some_iff.mp found
      cases other with
      | nil =>
          refine .inr ⟨by simp, root, at?_nil root, ?_⟩
          obtain rfl : root.modifyAt (index :: tail) change = box := by simpa using isBox
          rw [modifyAt]
          refine ⟨⟨rfl, rfl, rfl⟩, rfl, rfl, rfl, ?_⟩
          apply List.ext_getElem?
          intro position
          by_cases same : index = position
          · subst same
            simp [listed, name_modifyAt found named]
          · simp [same]
      | cons position rest =>
          rw [modifyAt, at?_cons] at isBox
          by_cases same : index = position
          · subst same
            have changed :
                (root.children.modify index (·.modifyAt tail change))[index]? =
                  some (child.modifyAt tail change) := by
              simp [listed]
            simp only [changed] at isBox
            rcases inductionHypothesis found isBox with
              ⟨more, rfl, isInside⟩ | ⟨outside, old, isOld, shape⟩
            · exact .inl ⟨more, rfl, isInside⟩
            · refine .inr ⟨by simpa using outside, old, ?_, shape⟩
              rw [at?_cons, listed]
              exact isOld
          · simp only [List.getElem?_modify_ne _ _ same] at isBox
            refine .inr ⟨by simp [same], box, ?_, .refl box⟩
            rw [at?_cons]
            exact isBox

/-- A box of a tree with one box declared again is that one, or has the shape that it had. -/
theorem cases_of_redeclare
    {declared : Box}
    (found : root.at? address = some target)
    (named : declared.name = target.name)
    (children : declared.children = target.children)
    {other : Address}
    {box : Box}
    (isBox : (root.modifyAt address fun _ => declared).at? other = some box) :
    (other = address ∧ box = declared) ∨
      ∃ old, root.at? other = some old ∧ box.HasShapeOf old := by
  rcases inside_or_hasShape_of_modifyAt found named isBox with
    ⟨rest, rfl, isInside⟩ | ⟨_, old, isOld, shape⟩
  · cases rest with
    | nil =>
        exact .inl ⟨List.append_nil _, (Option.some.inj (by simpa using isInside)).symm⟩
    | cons index rest =>
        rw [at?_cons, children, ← at?_cons] at isInside
        refine .inr ⟨box, ?_, .refl box⟩
        rw [at?_append, found]
        exact isInside
  · exact .inr ⟨old, isOld, shape⟩

/-- A tree grows where one of its boxes grows. -/
theorem grows_modifyAt
    (found : root.at? address = some target)
    (grows : target.Grows (change target)) :
    root.Grows (root.modifyAt address change) := by
  induction address generalizing root with
  | nil =>
      obtain rfl : root = target := by simpa using found
      simpa [modifyAt] using grows
  | cons index tail inductionHypothesis =>
      rw [at?_cons] at found
      obtain ⟨child, listed, found⟩ := Option.bind_eq_some_iff.mp found
      rw [modifyAt]
      refine Grows.of_children ⟨rfl, rfl, fun isExplicit => ⟨isExplicit, rfl⟩⟩ ?_
      intro position one listedHere
      by_cases same : index = position
      · subst same
        obtain rfl : child = one := Option.some.inj (listed.symm.trans listedHere)
        refine ⟨child.modifyAt tail change, ?_, inductionHypothesis found⟩
        simp [listed]
      · refine ⟨one, ?_, .refl one⟩
        rw [← listedHere]
        exact List.getElem?_modify_ne _ _ same

/-- A tree grows when a box of it is declared again around the same children. -/
theorem grows_redeclare
    {declared : Box}
    (found : root.at? address = some target)
    (keeps : target.Keeps declared)
    (children : declared.children = target.children) :
    root.Grows (root.modifyAt address fun _ => declared) := by
  apply grows_modifyAt found
  refine .of_children keeps fun index child listed => ⟨child, ?_, .refl child⟩
  rw [children]
  exact listed

/-- A box that is declared again is found where it was. -/
theorem at?_redeclare
    {declared : Box}
    (found : root.at? address = some target) :
    (root.modifyAt address fun _ => declared).at? address = some declared := by
  have changed :
      (root.modifyAt address fun _ => declared).at? (address ++ []) = some declared := by
    rw [at?_modifyAt_self found, at?_nil]
  simpa using changed

end Change

section Append

variable {root parent child : Box} {address : Address}

/-- A child that is appended is found behind its siblings. -/
theorem at?_appendChild
    (found : root.at? address = some parent) :
    (root.appendChild address child).at? (address ++ [parent.children.length]) =
      some child := by
  rw [appendChild, at?_modifyAt_self found]
  simp [at?_cons]

/-- A tree grows by a child that is appended. -/
theorem grows_appendChild
    (found : root.at? address = some parent) :
    root.Grows (root.appendChild address child) := by
  apply grows_modifyAt found
  refine Grows.of_children ⟨rfl, rfl, fun isExplicit => ⟨isExplicit, rfl⟩⟩ ?_
  intro index one listed
  refine ⟨one, ?_, .refl one⟩
  obtain ⟨inside, _⟩ := List.getElem?_eq_some_iff.mp listed
  rw [← listed]
  exact List.getElem?_append_left inside

/--
A box of a tree with a leaf added to a container is the container, the leaf, or has the
shape that it had at its address before.
-/
theorem cases_of_appendChild
    (found : root.at? address = some parent)
    (isLeaf : child.children = [])
    {other : Address}
    {box : Box}
    (isBox : (root.appendChild address child).at? other = some box) :
    (other = address ∧ box = { parent with children := parent.children ++ [child] }) ∨
      (other = address ++ [parent.children.length] ∧ box = child) ∨
        (other ≠ address ∧ ∃ old, root.at? other = some old ∧ box.HasShapeOf old) := by
  rcases inside_or_hasShape_of_modifyAt found rfl isBox with
    ⟨rest, rfl, isInside⟩ | ⟨outside, old, isOld, shape⟩
  · cases rest with
    | nil =>
        exact .inl ⟨List.append_nil _, (Option.some.inj (by simpa using isInside)).symm⟩
    | cons index rest =>
        simp only [at?_cons] at isInside
        obtain ⟨one, listed, isInside⟩ := Option.bind_eq_some_iff.mp isInside
        by_cases before : index < parent.children.length
        · rw [List.getElem?_append_left before] at listed
          refine .inr (.inr ⟨by simp, box, ?_, .refl box⟩)
          rw [at?_append, found, Option.bind_some, at?_cons, listed]
          exact isInside
        · obtain ⟨rfl, rfl⟩ : index = parent.children.length ∧ child = one := by
            rw [List.getElem?_append_right (Nat.le_of_not_lt before),
              List.getElem?_singleton] at listed
            split at listed
            · exact ⟨by omega, Option.some.inj listed⟩
            · cases listed
          cases rest with
          | nil =>
              exact .inr (.inl ⟨rfl, (Option.some.inj (by simpa using isInside)).symm⟩)
          | cons further rest =>
              simp [at?_cons, isLeaf] at isInside
  · refine .inr (.inr ⟨?_, old, isOld, shape⟩)
    rintro rfl
    exact outside (List.prefix_refl _)

end Append

end Box

end BoxDiagram.Outline
