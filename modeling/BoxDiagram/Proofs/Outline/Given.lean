import BoxDiagram.Proofs.Outline.References

namespace BoxDiagram.Outline

open Attempt (bind_eq_ok_iff)

/-!
# Attributes that headers give to boxes

A header gives its attributes to the box at which it ends, whether it adds this box or
declares it again, and to no other box; a box that has attributes takes no more.  So what
stands at an address after a header is what stood there before, and what the header gives.
-/

/-- A list of attributes as one thing to be given, or as nothing if there are none in it. -/
def given (attributes : List Attribute) : List (List Attribute) :=
  if attributes.isEmpty then [] else [attributes]

@[simp] theorem given_nil :
    given [] = [] :=
  rfl

/-- Nothing is given exactly where there are no attributes. -/
theorem given_eq_nil_iff
    {attributes : List Attribute} :
    given attributes = [] ↔ attributes = [] := by
  cases attributes <;> simp [given]

/-- What was given to the box at an address of a tree. -/
def Box.givenAt (root : Box) (address : Address) : List (List Attribute) :=
  match root.at? address with
  | some box => given box.attributes
  | none => []

namespace Box

variable {root later parent child existing declared : Box} {address other : Address}

/-- What is given at an address is what the box there was given. -/
theorem givenAt_of_found
    (found : root.at? address = some child) :
    root.givenAt address = given child.attributes := by
  rw [givenAt, found]

/-- A tree that grew gained what is told of each of its boxes. -/
theorem Grows.givenAt_eq
    {more : List (List Attribute)}
    (grows : root.Grows later)
    (gains :
      ∀ box, later.at? other = some box → given box.attributes = root.givenAt other ++ more)
    (nowhere : later.at? other = none → more = []) :
    later.givenAt other = root.givenAt other ++ more := by
  cases isBox : later.at? other with
  | some box =>
      rw [givenAt_of_found isBox]
      exact gains box isBox
  | none =>
      have wasNone : root.at? other = none := by
        cases wasBox : root.at? other with
        | none =>
            rfl
        | some old =>
            obtain ⟨after, isAfter, _⟩ := grows other old wasBox
            cases isBox.symm.trans isAfter
      rw [givenAt, isBox, givenAt, wasNone, nowhere isBox, List.append_nil]

/-- A leaf that is added to a container has its own attributes, and all other boxes have theirs. -/
theorem givenAt_appendChild
    (found : root.at? address = some parent)
    (isLeaf : child.children = [])
    (other : Address) :
    (root.appendChild address child).givenAt other =
      root.givenAt other ++
        if other = address ++ [parent.children.length] then given child.attributes else [] := by
  have vacant : root.at? (address ++ [parent.children.length]) = none := by
    rw [at?_append, found, Option.bind_some, at?_cons]
    simp
  apply (grows_appendChild found).givenAt_eq
  case gains =>
    intro box isBox
    rcases cases_of_appendChild found isLeaf isBox with
      ⟨rfl, rfl⟩ | ⟨rfl, rfl⟩ | ⟨_, old, isOld, shape⟩
    · have inner : other ≠ other ++ [parent.children.length] := by simp
      rw [givenAt_of_found found, if_neg inner, List.append_nil]
    · rw [givenAt, vacant, if_pos rfl, List.nil_append]
    · have isElsewhere : other ≠ address ++ [parent.children.length] := by
        rintro rfl
        cases vacant.symm.trans isOld
      rw [givenAt_of_found isOld, shape.attributes_eq, if_neg isElsewhere, List.append_nil]
  case nowhere =>
    intro isNone
    apply if_neg
    rintro rfl
    cases isNone.symm.trans (at?_appendChild found)

/-- A box that is declared again has what it had and what it gains, and so has no other box. -/
theorem givenAt_redeclare
    {more : List (List Attribute)}
    (found : root.at? address = some existing)
    (keeps : existing.Keeps declared)
    (children : declared.children = existing.children)
    (gains : given declared.attributes = given existing.attributes ++ more)
    (other : Address) :
    (root.modifyAt address fun _ => declared).givenAt other =
      root.givenAt other ++ if other = address then more else [] := by
  apply (grows_redeclare found keeps children).givenAt_eq
  case gains =>
    intro box isBox
    by_cases isHere : other = address
    · subst isHere
      obtain rfl := Option.some.inj (isBox.symm.trans (at?_redeclare found))
      rw [gains, givenAt_of_found found, if_pos rfl]
    · rcases cases_of_redeclare found keeps.name_eq children isBox with
        ⟨isSame, _⟩ | ⟨old, isOld, shape⟩
      · exact absurd isSame isHere
      · rw [givenAt_of_found isOld, shape.attributes_eq, if_neg isHere, List.append_nil]
  case nowhere =>
    intro isNone
    apply if_neg
    rintro rfl
    cases isNone.symm.trans (at?_redeclare found)

/-- A tree in which a box is put where it stands is the same tree. -/
theorem modifyAt_eq_self
    (found : root.at? address = some existing) :
    root.modifyAt address (fun _ => existing) = root := by
  induction address generalizing root with
  | nil =>
      rw [at?_nil, Option.some_inj] at found
      rw [modifyAt, found]
  | cons index rest inductionHypothesis =>
      rw [at?_cons] at found
      obtain ⟨child, listed, found⟩ := Option.bind_eq_some_iff.mp found
      have sameChildren :
          root.children.modify index (·.modifyAt rest fun _ => existing) = root.children := by
        apply List.ext_getElem?
        intro position
        rw [List.getElem?_modify]
        by_cases isHere : index = position
        · subst isHere
          simp [listed, inductionHypothesis found]
        · simp [isHere]
      rw [modifyAt, sameChildren]
      cases root
      rfl

end Box

section Declare

variable {header : Header} {path : WrittenPath} {root grown parent existing declared : Box}
variable {container address target : Address}

/-- Following a path gives the attributes of the header to the box at its end, if it is added. -/
theorem givenAt_of_followPath
    {segments : List String}
    {created isNew : Bool}
    (found : root.at? address = some parent)
    (succeeded :
      followPath header path root address created segments = .ok (grown, target, isNew))
    (other : Address) :
    grown.givenAt other =
      root.givenAt other ++
        if isNew = true ∧ segments ≠ [] ∧ other = target then given header.attributes else [] := by
  induction segments generalizing root address created parent with
  | nil =>
      rw [followPath] at succeeded
      cases succeeded
      simp
  | cons name rest inductionHypothesis =>
      rw [followPath, found] at succeeded
      dsimp only at succeeded
      split at succeeded
      · cases succeeded
      split at succeeded
      · rename_i index isIndex
        obtain ⟨child, _, childFound⟩ := Box.exists_child_of_childIndex? found isIndex
        rw [inductionHypothesis childFound succeeded]
        cases rest with
        | nil =>
            cases succeeded
            simp
        | cons next further =>
            simp
      · have isLeaf : (header.segmentBox name rest.isEmpty).children = [] := by
          cases rest <;> rfl
        rw [inductionHypothesis (Box.at?_appendChild found) succeeded,
          Box.givenAt_appendChild found isLeaf]
        cases rest with
        | nil =>
            cases succeeded
            simp [Header.segmentBox, Header.box]
        | cons next further =>
            simp [Header.segmentBox, Box.leaf]

/-- A box that is declared again has its own attributes and those of the header, or neither. -/
theorem Header.given_of_redeclare
    (succeeded : header.redeclare path existing = .ok declared) :
    given declared.attributes = given existing.attributes ++ given header.attributes := by
  rw [Header.redeclare_eq] at succeeded
  obtain ⟨claimed, isClaimed, isFurnished⟩ := bind_eq_ok_iff.mp succeeded
  have sameAttributes : claimed.attributes = existing.attributes := by
    rw [Header.claim] at isClaimed
    split at isClaimed <;> split at isClaimed <;> cases isClaimed <;> rfl
  rw [Header.furnish] at isFurnished
  split at isFurnished
  · rename_i isPlain
    cases isFurnished
    rw [sameAttributes, List.isEmpty_iff.mp isPlain, given_nil, List.append_nil]
  · split at isFurnished
    · cases isFurnished
    · rename_i wasPlain
      cases isFurnished
      have isVacant : existing.attributes = [] := by
        simpa [sameAttributes] using wasPlain
      rw [isVacant, given_nil, List.nil_append]

/-- After a header its box has gained the attributes of the header, and no other box any. -/
theorem givenAt_of_declare
    (sound : root.IsSound)
    (found : root.at? container = some parent)
    (nonempty : ∀ path, header.path = some path → path.segments ≠ [])
    (succeeded : declare root container header = .ok (grown, address))
    (other : Address) :
    grown.givenAt other =
      root.givenAt other ++ if other = address then given header.attributes else [] := by
  rw [declare] at succeeded
  split at succeeded
  · rename_i path hasPath
    obtain ⟨base, baseFound⟩ := exists_base path found
    obtain ⟨⟨followed, target, created⟩, isFollowed, succeeded⟩ := bind_eq_ok_iff.mp succeeded
    have gained := givenAt_of_followPath baseFound isFollowed other
    obtain ⟨followedSound, _, existing, existingFound, _⟩ :=
      followPath_grows baseFound (fun other box isBox => .inl (sound other box isBox))
        (by simp) isFollowed
    dsimp only at succeeded
    split at succeeded
    · rename_i isNew
      cases succeeded
      simpa [isNew, nonempty path hasPath] using gained
    · rename_i isOld
      rw [existingFound] at succeeded
      obtain ⟨declared, isDeclared, succeeded⟩ := bind_eq_ok_iff.mp succeeded
      cases succeeded
      obtain ⟨keeps, children, _⟩ :=
        Header.keeps_of_redeclare (followedSound _ _ existingFound) isDeclared
      have unchanged : followed.givenAt other = root.givenAt other := by
        simpa [isOld] using gained
      rw [Box.givenAt_redeclare existingFound keeps children
        (Header.given_of_redeclare isDeclared), unchanged]
  · rw [declareAnonymous, found] at succeeded
    cases succeeded
    exact Box.givenAt_appendChild found rfl other

/-- Along the names of boxes that are there a path is followed without adding any. -/
theorem followPath_eq
    (sound : root.IsSound)
    {segments : List String}
    {rest : Address}
    (found : root.at? address = some parent)
    (along : parent.names? rest = some segments) :
    followPath header path root address false segments = .ok (root, address ++ rest, false) := by
  induction rest generalizing address parent segments with
  | nil =>
      rw [Box.names?_nil, Option.some_inj] at along
      rw [← along, followPath, List.append_nil]
  | cons index rest inductionHypothesis =>
      obtain ⟨child, name, others, listed, named, alongRest, rfl⟩ :=
        Box.names?_cons_eq_some_iff.mp along
      have shaped := sound address parent found
      have notCell : parent.kind ≠ .cell := by
        intro isCell
        simp [shaped.cell isCell] at listed
      have childFound : root.at? (address ++ [index]) = some child := by
        rw [Box.at?_append, found, Option.bind_some, Box.at?_singleton, listed]
      rw [followPath, found]
      dsimp only
      rw [if_neg notCell, Box.childIndex?_eq_some shaped.names listed named]
      dsimp only
      rw [inductionHypothesis childFound alongRest, List.append_assoc, List.singleton_append]

/-- A header whose path ends at a box of the tree declares this box again. -/
theorem declare_eq_of_refersTo
    (sound : root.IsSound)
    (hasPath : header.path = some path)
    (refers : header.RefersTo root container address)
    (found : root.at? address = some existing) :
    declare root container header = (do
      let declared ← header.redeclare path existing
      return (root.modifyAt address fun _ => declared, address)) := by
  rw [Header.RefersTo, hasPath] at refers
  obtain ⟨first, rest, firstFound, along, rfl⟩ := refers
  have followed :
      followPath header path root (path.base container) false path.segments =
        .ok (root, path.base container ++ rest, false) :=
    followPath_eq sound firstFound along
  rw [declare, hasPath]
  dsimp only
  rw [declarePath, ← WrittenPath.base, followed, Attempt.ok_bind]
  dsimp only
  rw [found]
  rfl

/-- A header without attributes for an explicit box of its own kind leaves the tree as it is. -/
theorem declare_eq_self
    (sound : root.IsSound)
    (hasPath : header.path = some path)
    (refers : header.RefersTo root container address)
    (found : root.at? address = some existing)
    (isExplicit : existing.implicit = false)
    (sameKind : existing.kind = header.kind)
    (isPlain : header.attributes = []) :
    declare root container header = .ok (root, address) := by
  have same : header.redeclare path existing = .ok existing := by
    simp [Header.redeclare_eq, Header.claim, Header.furnish, isExplicit, sameKind, isPlain,
      Attempt.ok_bind]
  rw [declare_eq_of_refersTo sound hasPath refers found, same, Attempt.ok_bind,
    Box.modifyAt_eq_self found]
  rfl

/-- A header with attributes for a box of its own kind that has some is refused. -/
theorem declare_eq_error
    (sound : root.IsSound)
    (hasPath : header.path = some path)
    (refers : header.RefersTo root container address)
    (found : root.at? address = some existing)
    (sameKind : existing.kind = header.kind)
    (isFurnished : existing.attributes ≠ [])
    (furnishes : header.attributes ≠ []) :
    declare root container header = .error (repeatedAttributes header existing) := by
  have isExplicit : existing.implicit = false := by
    by_contra isMentioned
    rw [Bool.not_eq_false] at isMentioned
    exact isFurnished ((sound address existing found).mentioned isMentioned).2.2.1
  have refused : header.redeclare path existing = .error (repeatedAttributes header existing) := by
    simp [Header.redeclare_eq, Header.claim, Header.furnish, isExplicit, sameKind, isFurnished,
      furnishes, Attempt.ok_bind]
  rw [declare_eq_of_refersTo sound hasPath refers found, refused, Attempt.error_bind]

end Declare

end BoxDiagram.Outline
