import BoxDiagram.Outline.Reader
import BoxDiagram.Proofs.Attempt
import BoxDiagram.Proofs.Outline.Boxes

namespace BoxDiagram

open Attempt (bind_eq_ok_iff)

/-!
# Declaring boxes

A header adds its box to a container, follows a path and adds what is missing, or
declares again what is there.  Each of these keeps the tree sound and lets it grow.
-/

theorem Kind.isContainer_iff
    {kind : Kind} :
    kind.isContainer = true ↔ kind ≠ .cell := by
  cases kind <;> simp [isContainer]

namespace Outline

namespace Box

/-- A box that was mentioned for another one, before that one is added to it. -/
structure IsBud (box : Box) : Prop where
  isUnit : box.kind = .unit
  named : box.name.isSome
  plain : box.attributes = []
  mentioned : box.implicit = true
  empty : box.children = []

/-- A box without children that was declared is well shaped. -/
theorem isWellShaped_leaf
    {box : Box}
    (isLeaf : box.children = [])
    (isExplicit : box.implicit = false) :
    box.IsWellShaped where
  cell _ := isLeaf
  names := by simp [isLeaf]
  mentioned isImplicit := by simp [isExplicit] at isImplicit

/-- A well-shaped container, or one that waits for a first child, may take one of a new name. -/
theorem isWellShaped_append
    {parent child : Box}
    (shaped : parent.IsWellShaped ∨ parent.IsBud)
    (isContainer : parent.kind.isContainer = true)
    (fresh : ∀ name, child.name = some name → parent.childIndex? name = none) :
    { parent with children := parent.children ++ [child] : Box }.IsWellShaped where
  cell isCell := by
    exact absurd isCell (Kind.isContainer_iff.mp isContainer)
  names := by
    have distinct : (parent.children.filterMap (·.name)).Nodup := by
      rcases shaped with shaped | isBud
      · exact shaped.names
      · simp [isBud.empty]
    rw [List.filterMap_append, List.nodup_append]
    refine ⟨distinct, ?_, ?_⟩
    · cases named : child.name <;> simp [named]
    · intro one isEarlier other isNew
      have isNew : child.name = some other := by simpa using isNew
      obtain ⟨sibling, member, named⟩ := List.mem_filterMap.mp isEarlier
      have absent := fresh other isNew
      rw [childIndex?, List.findIdx?_eq_none_iff] at absent
      rintro rfl
      simp at absent
      exact absent sibling member named
  mentioned isImplicit := by
    rcases shaped with shaped | isBud
    · obtain ⟨isUnit, named, plain, _⟩ := shaped.mentioned isImplicit
      exact ⟨isUnit, named, plain, by simp⟩
    · exact ⟨isBud.isUnit, isBud.named, isBud.plain, by simp⟩

/-- The child of a name stands at the address of the container with its index. -/
theorem exists_child_of_childIndex?
    {root parent : Box}
    {address : Address}
    {name : String}
    {index : Nat}
    (found : root.at? address = some parent)
    (isIndex : parent.childIndex? name = some index) :
    ∃ child, parent.children[index]? = some child ∧
      root.at? (address ++ [index]) = some child := by
  obtain ⟨inside, _⟩ := List.findIdx?_eq_some_iff_getElem.mp isIndex
  have listed := List.getElem?_eq_getElem inside
  refine ⟨_, listed, ?_⟩
  rw [at?_append, found, Option.bind_some, at?_cons, listed]
  simp

end Box

section FollowPath

variable {header : Header} {path : WrittenPath}

/-- A tree is sound but for a bud at an address, if one waits there for its first child. -/
def Box.IsSoundBut (root : Box) (address : Address) (waits : Prop) : Prop :=
  ∀ other box, root.at? other = some box →
    box.IsWellShaped ∨ other = address ∧ box.IsBud ∧ waits

/-- One more name of a path adds a box to a container that has no child of that name. -/
theorem Box.IsSoundBut.appendChild
    {root parent : Box}
    {address : Address}
    {name : String}
    {rest : List String}
    (sound : root.IsSoundBut address True)
    (found : root.at? address = some parent)
    (isContainer : parent.kind.isContainer = true)
    (absent : parent.childIndex? name = none) :
    (root.appendChild address (header.segmentBox name rest.isEmpty)).IsSoundBut
      (address ++ [parent.children.length]) (rest ≠ []) := by
  have isLeaf : (header.segmentBox name rest.isEmpty).children = [] := by
    cases rest <;> rfl
  have named : (header.segmentBox name rest.isEmpty).name = some name := by
    cases rest <;> rfl
  intro other box isBox
  rcases cases_of_appendChild found isLeaf isBox with
    ⟨rfl, rfl⟩ | ⟨rfl, rfl⟩ | ⟨elsewhere, old, isOld, shape⟩
  · refine .inl (isWellShaped_append ?_ isContainer ?_)
    · exact (sound _ _ found).imp_right fun waiting => waiting.2.1
    · intro other isName
      obtain rfl : name = other := Option.some.inj (named.symm.trans isName)
      exact absent
  · cases rest with
    | nil =>
        exact .inl (isWellShaped_leaf rfl rfl)
    | cons next further =>
        exact .inr ⟨rfl, ⟨rfl, rfl, rfl, rfl, rfl⟩, List.cons_ne_nil _ _⟩
  · rcases sound _ _ isOld with shaped | ⟨isHere, _⟩
    · exact .inl (shaped.of_hasShape shape)
    · exact absurd isHere elsewhere

/--
Following a path gives a sound tree that has grown, with a box at the end of the path,
which has the kind of the header if it was added.
-/
theorem followPath_grows
    {segments : List String}
    {root grown parent : Box}
    {address target : Address}
    {created isNew : Bool}
    (found : root.at? address = some parent)
    (sound : root.IsSoundBut address (segments ≠ []))
    (ofHeader : created = true → segments = [] → parent.kind = header.kind)
    (succeeded :
      followPath header path root address created segments = .ok (grown, target, isNew)) :
    grown.IsSound ∧ root.Grows grown ∧
      ∃ box, grown.at? target = some box ∧ (isNew = true → box.kind = header.kind) := by
  induction segments generalizing root address created parent with
  | nil =>
      rw [followPath] at succeeded
      cases succeeded
      refine ⟨?_, .refl _, parent, found, fun added => ofHeader added rfl⟩
      intro other box isBox
      exact (sound other box isBox).resolve_right fun waiting => waiting.2.2 rfl
  | cons name rest inductionHypothesis =>
      rw [followPath, found] at succeeded
      dsimp only at succeeded
      split at succeeded
      · cases succeeded
      · rename_i notCell
        have isContainer := Kind.isContainer_iff.mpr notCell
        split at succeeded
        · rename_i index isIndex
          obtain ⟨child, listed, childFound⟩ := Box.exists_child_of_childIndex? found isIndex
          refine inductionHypothesis childFound ?_ (by simp) succeeded
          intro other box isBox
          rcases sound other box isBox with shaped | ⟨rfl, isBud, _⟩
          · exact .inl shaped
          · obtain rfl : parent = box := Option.some.inj (found.symm.trans isBox)
            simp [isBud.empty] at listed
        · rename_i absent
          have waits : root.IsSoundBut address True := by
            intro other box isBox
            exact (sound other box isBox).imp_right fun ⟨isHere, isBud, _⟩ =>
              ⟨isHere, isBud, trivial⟩
          obtain ⟨isSound, grows, isEnd⟩ :=
            inductionHypothesis (Box.at?_appendChild found)
              (waits.appendChild found isContainer absent)
              (fun _ isLast => by simp [Header.segmentBox, Header.box, Box.leaf, isLast])
              succeeded
          exact ⟨isSound, (Box.grows_appendChild found).trans grows, isEnd⟩

end FollowPath

section Redeclare

variable {header : Header} {path : WrittenPath} {existing declared : Box}

/-- The first half of declaring a box again: the kind of the header is given to the box. -/
def Header.claim (header : Header) (path : WrittenPath) (existing : Box) :
    Except Diagnostic Box :=
  if existing.implicit then
    if header.kind = .cell then .error (kindConflict header path existing)
    else
      .ok { existing with
        kind := header.kind
        implicit := false
        span := header.span
        position := header.position }
  else if existing.kind ≠ header.kind then .error (kindConflict header path existing)
  else .ok existing

/-- The second half of declaring a box again: the box takes the attributes of the header. -/
def Header.furnish (header : Header) (declared : Box) : Except Diagnostic Box :=
  if header.attributes.isEmpty then .ok declared
  else if !declared.attributes.isEmpty then .error (repeatedAttributes header declared)
  else
    .ok { declared with
      attributes := header.attributes
      span := header.span
      position := header.position }

/-- Declaring a box again is claiming it and then furnishing it. -/
theorem Header.redeclare_eq :
    header.redeclare path existing = header.claim path existing >>= header.furnish := by
  rw [Header.redeclare, Header.claim]
  split <;> split <;> rfl

/-- Claiming a box keeps what it has, and gives it the kind of the header. -/
theorem Header.keeps_of_claim
    (shaped : existing.IsWellShaped)
    (succeeded : header.claim path existing = .ok declared) :
    existing.Keeps declared ∧ declared.children = existing.children ∧
      declared.IsWellShaped ∧ declared.kind = header.kind ∧ declared.implicit = false := by
  rw [Header.claim] at succeeded
  split at succeeded
  · rename_i isImplicit
    split at succeeded
    · cases succeeded
    · rename_i notCell
      cases succeeded
      obtain ⟨isUnit, _⟩ := shaped.mentioned isImplicit
      refine ⟨⟨rfl, ?_, ?_⟩, rfl, ⟨fun isCell => absurd isCell notCell, shaped.names, ?_⟩, rfl, rfl⟩
      · rw [Kind.isContainer_iff.mpr notCell, isUnit]
        rfl
      · intro isExplicit
        exact absurd isImplicit (by simp [isExplicit])
      · intro impossible
        cases impossible
  · rename_i isExplicit
    split at succeeded
    · cases succeeded
    · rename_i sameKind
      cases succeeded
      exact ⟨.refl _, rfl, shaped, not_not.mp sameKind, eq_false_of_ne_true isExplicit⟩

/-- Declaring a box again keeps its children and its name, and gives it the kind of the header. -/
theorem Header.keeps_of_redeclare
    (shaped : existing.IsWellShaped)
    (succeeded : header.redeclare path existing = .ok declared) :
    existing.Keeps declared ∧ declared.children = existing.children ∧
      declared.IsWellShaped ∧ declared.kind = header.kind := by
  rw [Header.redeclare_eq] at succeeded
  obtain ⟨claimed, isClaimed, isFurnished⟩ := bind_eq_ok_iff.mp succeeded
  obtain ⟨keeps, children, claimedShaped, kind, isExplicit⟩ := keeps_of_claim shaped isClaimed
  rw [Header.furnish] at isFurnished
  split at isFurnished
  · cases isFurnished
    exact ⟨keeps, children, claimedShaped, kind⟩
  · split at isFurnished
    · cases isFurnished
    · cases isFurnished
      refine ⟨⟨keeps.name_eq, keeps.isContainer_eq, keeps.explicit⟩, children, ?_, kind⟩
      exact ⟨claimedShaped.cell, claimedShaped.names,
        fun isImplicit => absurd isImplicit (by simp [isExplicit])⟩

end Redeclare

section Declare

variable {header : Header} {root grown parent : Box} {container address : Address}

/-- A box that is declared again leaves the tree around it and inside it as it was. -/
theorem Box.IsSound.redeclared
    {existing declared : Box}
    (sound : root.IsSound)
    (found : root.at? address = some existing)
    (keeps : existing.Keeps declared)
    (children : declared.children = existing.children)
    (shaped : declared.IsWellShaped) :
    (root.modifyAt address fun _ => declared).IsSound ∧
      root.Grows (root.modifyAt address fun _ => declared) := by
  constructor
  · intro other box isBox
    rcases cases_of_redeclare found keeps.name_eq children isBox with
      ⟨_, rfl⟩ | ⟨old, isOld, shape⟩
    · exact shaped
    · exact (sound other old isOld).of_hasShape shape
  · exact grows_redeclare found keeps children

/-- The tree grows by a box without a path, of the kind of its header. -/
theorem grows_of_declareAnonymous
    (sound : root.IsSound)
    (found : root.at? container = some parent)
    (isContainer : parent.kind.isContainer = true)
    (succeeded : declareAnonymous root container header = .ok (grown, address)) :
    grown.IsSound ∧ root.Grows grown ∧
      ∃ box, grown.at? address = some box ∧ box.kind = header.kind := by
  rw [declareAnonymous, found] at succeeded
  cases succeeded
  refine ⟨?_, Box.grows_appendChild found, header.box none, Box.at?_appendChild found, rfl⟩
  intro other box isBox
  rcases Box.cases_of_appendChild found rfl isBox with
    ⟨rfl, rfl⟩ | ⟨rfl, rfl⟩ | ⟨_, old, isOld, shape⟩
  · refine Box.isWellShaped_append (.inl (sound _ _ found)) isContainer ?_
    intro name named
    cases named
  · exact Box.isWellShaped_leaf rfl rfl
  · exact (sound _ _ isOld).of_hasShape shape

/-- The container from which a path of a header is followed is in the tree. -/
theorem exists_base
    (path : WrittenPath)
    (found : root.at? container = some parent) :
    ∃ first, root.at? (if path.relative then container else []) = some first := by
  split
  · exact ⟨parent, found⟩
  · exact ⟨root, Box.at?_nil root⟩

/-- The tree grows to hold the box at the end of a path, of the kind of its header. -/
theorem grows_of_declarePath
    {path : WrittenPath}
    (sound : root.IsSound)
    (found : root.at? container = some parent)
    (succeeded : declarePath root container header path = .ok (grown, address)) :
    grown.IsSound ∧ root.Grows grown ∧
      ∃ box, grown.at? address = some box ∧ box.kind = header.kind := by
  obtain ⟨first, firstFound⟩ := exists_base path found
  obtain ⟨⟨followed, target, created⟩, isFollowed, succeeded⟩ := bind_eq_ok_iff.mp succeeded
  obtain ⟨followedSound, grows, existing, existingFound, ofHeader⟩ :=
    followPath_grows firstFound (fun other box isBox => .inl (sound other box isBox))
      (by simp) isFollowed
  dsimp only at succeeded
  split at succeeded
  · rename_i isNew
    cases succeeded
    exact ⟨followedSound, grows, existing, existingFound, ofHeader isNew⟩
  · rw [existingFound] at succeeded
    obtain ⟨declared, isDeclared, succeeded⟩ := bind_eq_ok_iff.mp succeeded
    cases succeeded
    obtain ⟨keeps, children, shaped, kind⟩ :=
      Header.keeps_of_redeclare (followedSound _ _ existingFound) isDeclared
    obtain ⟨grownSound, growsOn⟩ :=
      followedSound.redeclared existingFound keeps children shaped
    exact ⟨grownSound, grows.trans growsOn, declared, Box.at?_redeclare existingFound, kind⟩

/--
A header leaves a sound tree that has grown, in which its box stands at the address that
is given back and has the kind of the header.
-/
theorem grows_of_declare
    (sound : root.IsSound)
    (found : root.at? container = some parent)
    (isContainer : parent.kind.isContainer = true)
    (succeeded : declare root container header = .ok (grown, address)) :
    grown.IsSound ∧ root.Grows grown ∧
      ∃ box, grown.at? address = some box ∧ box.kind = header.kind := by
  rw [declare] at succeeded
  split at succeeded
  · exact grows_of_declarePath sound found succeeded
  · exact grows_of_declareAnonymous sound found isContainer succeeded

end Declare

end Outline

end BoxDiagram
