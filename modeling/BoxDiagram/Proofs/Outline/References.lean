import BoxDiagram.Proofs.Outline.Declare
import BoxDiagram.Proofs.Outline.Names

namespace BoxDiagram

open Attempt (bind_eq_ok_iff)

/-!
# Boxes to which headers refer

A header with a path refers to the box to which its names lead, one without a path to the
box that it adds to the open container.  Both go on doing so however the tree grows, since
only a box with a name is ever declared again.
-/

namespace Outline

/-- A tree has grown, and its boxes without names are still those of their headers. -/
structure Box.GrowsInto (root later : Box) : Prop where
  grows : root.Grows later
  header :
    ∀ address box, address ≠ [] → root.at? address = some box → box.name = none →
      ∃ after, later.at? address = some after ∧ after.HasHeaderOf box

namespace Box.GrowsInto

variable {root later latest parent child : Box} {address : Address}

/-- A tree grows into itself. -/
theorem refl
    (root : Box) :
    root.GrowsInto root where
  grows := .refl root
  header _ box _ found _ := ⟨box, found, (HasShapeOf.refl box).toHasHeaderOf⟩

/-- A tree that grows twice has grown. -/
theorem trans
    (first : root.GrowsInto later)
    (second : later.GrowsInto latest) :
    root.GrowsInto latest where
  grows := first.grows.trans second.grows
  header address box inside found nameless := by
    obtain ⟨after, foundAfter, sameFirst⟩ := first.header address box inside found nameless
    obtain ⟨same, isSame, keeps⟩ := first.grows address box found
    obtain rfl := Option.some.inj (foundAfter.symm.trans isSame)
    obtain ⟨last, foundLast, sameSecond⟩ :=
      second.header address after inside foundAfter (keeps.name_eq.trans nameless)
    exact ⟨last, foundLast, sameSecond.attributes_eq.trans sameFirst.attributes_eq,
      sameSecond.span_eq.trans sameFirst.span_eq,
      sameSecond.position_eq.trans sameFirst.position_eq⟩

/-- A tree grows into one with a leaf appended. -/
theorem appendChild
    (found : root.at? address = some parent)
    (isLeaf : child.children = []) :
    root.GrowsInto (root.appendChild address child) where
  grows := grows_appendChild found
  header other box _ isBox _ := by
    have grows : root.Grows (root.appendChild address child) := grows_appendChild found
    obtain ⟨after, isAfter, _⟩ := grows other box isBox
    refine ⟨after, isAfter, ?_⟩
    rcases cases_of_appendChild found isLeaf isAfter with
      ⟨rfl, rfl⟩ | ⟨rfl, _⟩ | ⟨_, old, isOld, shape⟩
    · obtain rfl := Option.some.inj (found.symm.trans isBox)
      exact ⟨rfl, rfl, rfl⟩
    · rw [at?_append, found, Option.bind_some, at?_singleton] at isBox
      simp at isBox
    · obtain rfl := Option.some.inj (isBox.symm.trans isOld)
      exact shape.toHasHeaderOf

/-- A box with a name may be declared again, and so may the root. -/
theorem redeclared
    {existing declared : Box}
    (found : root.at? address = some existing)
    (keeps : existing.Keeps declared)
    (children : declared.children = existing.children)
    (isRoot : existing.name = none → address = []) :
    root.GrowsInto (root.modifyAt address fun _ => declared) := by
  have grows := grows_redeclare found keeps children
  refine ⟨grows, fun other box inside isBox nameless => ?_⟩
  obtain ⟨after, isAfter, _⟩ := grows other box isBox
  refine ⟨after, isAfter, ?_⟩
  rcases cases_of_redeclare found keeps.name_eq children isAfter with
    ⟨rfl, _⟩ | ⟨old, isOld, shape⟩
  · obtain rfl := Option.some.inj (found.symm.trans isBox)
    exact absurd (isRoot nameless) inside
  · obtain rfl := Option.some.inj (isBox.symm.trans isOld)
    exact shape.toHasHeaderOf

end Box.GrowsInto

/-- The address from which a path is followed while a container is open. -/
def WrittenPath.base (path : WrittenPath) (container : Address) : Address :=
  if path.relative then container else []

/--
A header in an open container refers to the box to which the names of its path lead, or,
without a path, to the box without name in this container that it declared.
-/
def Header.RefersTo (header : Header) (root : Box) (container address : Address) : Prop :=
  match header.path with
  | some path =>
      ∃ first rest, root.at? (path.base container) = some first ∧
        first.names? rest = some path.segments ∧ address = path.base container ++ rest
  | none =>
      ∃ box index, root.at? address = some box ∧ address = container ++ [index] ∧
        box.name = none ∧ box.implicit = false ∧ box.kind = header.kind ∧
          box.HasHeaderOf (header.box none)

/-- No header refers to the root. -/
theorem Header.RefersTo.address_ne_nil
    {header : Header}
    {root : Box}
    {container address : Address}
    (refers : header.RefersTo root container address)
    (nonempty : ∀ path, header.path = some path → path.segments ≠ []) :
    address ≠ [] := by
  rw [RefersTo] at refers
  split at refers
  · rename_i path hasPath
    obtain ⟨first, rest, _, along, rfl⟩ := refers
    rintro isRoot
    obtain ⟨_, rfl⟩ := List.append_eq_nil_iff.mp isRoot
    rw [Box.names?_nil, Option.some_inj] at along
    exact nonempty path hasPath along.symm
  · obtain ⟨_, index, _, rfl, _⟩ := refers
    simp

/-- A header refers to the same box after the tree has grown. -/
theorem Header.RefersTo.of_growsInto
    {header : Header}
    {root later : Box}
    {container address : Address}
    (refers : header.RefersTo root container address)
    (growsInto : root.GrowsInto later) :
    header.RefersTo later container address := by
  rw [RefersTo] at refers ⊢
  split at refers
  · obtain ⟨first, rest, found, along, isAddress⟩ := refers
    obtain ⟨after, foundAfter, _, grows⟩ := growsInto.grows.exists_at? found
    exact ⟨after, rest, foundAfter, grows.names?_eq along, isAddress⟩
  · obtain ⟨box, index, found, isAddress, nameless, isExplicit, kind, ofHeader⟩ := refers
    have inside : address ≠ [] := by simp [isAddress]
    obtain ⟨after, foundAfter, same⟩ := growsInto.header address box inside found nameless
    obtain ⟨other, foundOther, keeps⟩ := growsInto.grows address box found
    obtain rfl := Option.some.inj (foundAfter.symm.trans foundOther)
    obtain ⟨staysExplicit, staysKind⟩ := keeps.explicit isExplicit
    exact ⟨after, index, foundAfter, isAddress, keeps.name_eq.trans nameless, staysExplicit,
      staysKind.trans kind, same.attributes_eq.trans ofHeader.attributes_eq,
      same.span_eq.trans ofHeader.span_eq, same.position_eq.trans ofHeader.position_eq⟩

section Declare

variable {header : Header} {path : WrittenPath} {root grown parent : Box}
variable {container address target : Address}

/-- Names go on from a child of a box to the names from the box. -/
theorem exists_names?_of_child
    {first child : Box}
    {index : Nat}
    {name : String}
    {names : List String}
    {rest : Address}
    (found : grown.at? address = some first)
    (childFound : grown.at? (address ++ [index]) = some child)
    (named : child.name = some name)
    (along : child.names? rest = some names) :
    first.names? (index :: rest) = some (name :: names) := by
  rw [Box.at?_append, found, Option.bind_some, Box.at?_singleton] at childFound
  exact Box.names?_cons_eq_some_iff.mpr ⟨child, name, names, childFound, named, along, rfl⟩

/-- Following a path lets the tree grow so that the names lead to the box at its end. -/
theorem followPath_leads
    {segments : List String}
    {created isNew : Bool}
    (found : root.at? address = some parent)
    (succeeded :
      followPath header path root address created segments = .ok (grown, target, isNew)) :
    root.GrowsInto grown ∧
      ∃ first rest, grown.at? address = some first ∧ first.names? rest = some segments ∧
        target = address ++ rest := by
  induction segments generalizing root address created parent with
  | nil =>
      rw [followPath] at succeeded
      cases succeeded
      exact ⟨.refl _, parent, [], found, Box.names?_nil parent, (List.append_nil _).symm⟩
  | cons name others inductionHypothesis =>
      rw [followPath, found] at succeeded
      dsimp only at succeeded
      -- Whether the child of this name was there or is added, the rest is followed from it.
      obtain ⟨middle, index, child, added, growsInto, childFound, named, followed⟩ :
          ∃ middle index child added, root.GrowsInto middle ∧
            middle.at? (address ++ [index]) = some child ∧ child.name = some name ∧
              followPath header path middle (address ++ [index]) added others =
                .ok (grown, target, isNew) := by
        split at succeeded
        · cases succeeded
        · split at succeeded
          · rename_i index isIndex
            obtain ⟨child, listed, named⟩ := Box.exists_named_child isIndex
            refine ⟨root, index, child, false, .refl root, ?_, named, succeeded⟩
            rw [Box.at?_append, found, Option.bind_some, Box.at?_singleton, listed]
          · refine ⟨_, _, header.segmentBox name others.isEmpty, true, ?_,
              Box.at?_appendChild found, ?_, succeeded⟩
            · exact .appendChild found (by cases others <;> rfl)
            · cases others <;> rfl
      obtain ⟨growsOn, after, rest, afterFound, along, isTarget⟩ :=
        inductionHypothesis childFound followed
      have growsInto := growsInto.trans growsOn
      obtain ⟨first, firstFound, _⟩ := growsInto.grows address parent found
      obtain ⟨same, sameFound, keeps⟩ := growsOn.grows _ child childFound
      obtain rfl := Option.some.inj (afterFound.symm.trans sameFound)
      refine ⟨growsInto, first, index :: rest, firstFound, ?_, by simp [isTarget]⟩
      exact exists_names?_of_child firstFound afterFound (keeps.name_eq.trans named) along

/-- A header without a path refers to the child that it makes. -/
theorem refersTo_of_declareAnonymous
    (found : root.at? container = some parent)
    (noPath : header.path = none)
    (succeeded : declareAnonymous root container header = .ok (grown, address)) :
    root.GrowsInto grown ∧ header.RefersTo grown container address := by
  rw [declareAnonymous, found] at succeeded
  cases succeeded
  refine ⟨.appendChild found rfl, ?_⟩
  rw [Header.RefersTo, noPath]
  exact ⟨_, _, Box.at?_appendChild found, rfl, rfl, rfl, rfl, rfl, rfl, rfl⟩

/-- A header with a path refers to the box at the end of the path. -/
theorem refersTo_of_declarePath
    (sound : root.IsSound)
    (found : root.at? container = some parent)
    (hasPath : header.path = some path)
    (nonempty : path.segments ≠ [])
    (succeeded : declarePath root container header path = .ok (grown, address)) :
    root.GrowsInto grown ∧ header.RefersTo grown container address := by
  obtain ⟨base, baseFound⟩ := exists_base path found
  obtain ⟨⟨followed, target, created⟩, isFollowed, succeeded⟩ := bind_eq_ok_iff.mp succeeded
  obtain ⟨growsInto, first, rest, firstFound, along, isTarget⟩ :=
    followPath_leads baseFound isFollowed
  have refers : header.RefersTo followed container target := by
    rw [Header.RefersTo, hasPath]
    exact ⟨first, rest, firstFound, along, isTarget⟩
  obtain ⟨followedSound, _, existing, existingFound, _⟩ :=
    followPath_grows baseFound (fun other box isBox => .inl (sound other box isBox))
      (by simp) isFollowed
  dsimp only at succeeded
  split at succeeded
  · cases succeeded
    exact ⟨growsInto, refers⟩
  · rw [existingFound] at succeeded
    obtain ⟨declared, isDeclared, succeeded⟩ := bind_eq_ok_iff.mp succeeded
    cases succeeded
    obtain ⟨keeps, children, _⟩ :=
      Header.keeps_of_redeclare (followedSound _ _ existingFound) isDeclared
    have named : existing.name ≠ none := by
      intro nameless
      have missing : first.names? rest = none := by
        rw [isTarget, Box.at?_append, firstFound] at existingFound
        refine (Box.names?_eq_none_iff existingFound).mpr
          ⟨rest, [], existing, ?_, (List.append_nil rest).symm, existingFound, nameless⟩
        rintro rfl
        rw [Box.names?_nil, Option.some_inj] at along
        exact nonempty along.symm
      rw [missing] at along
      cases along
    have growsOn :=
      Box.GrowsInto.redeclared existingFound keeps children fun nameless => absurd nameless named
    exact ⟨growsInto.trans growsOn, refers.of_growsInto growsOn⟩

/-- Declaring a header lets the tree grow, and gives the address to which the header refers. -/
theorem refersTo_of_declare
    (sound : root.IsSound)
    (found : root.at? container = some parent)
    (nonempty : ∀ path, header.path = some path → path.segments ≠ [])
    (succeeded : declare root container header = .ok (grown, address)) :
    root.GrowsInto grown ∧ header.RefersTo grown container address := by
  rw [declare] at succeeded
  split at succeeded
  · rename_i path hasPath
    exact refersTo_of_declarePath sound found hasPath (nonempty path hasPath) succeeded
  · rename_i noPath
    exact refersTo_of_declareAnonymous found noPath succeeded

end Declare

end Outline

end BoxDiagram
