import BoxDiagram.Diagram.Resolve
import BoxDiagram.Proofs.Attempt

namespace BoxDiagram

open Outline (Box)

/-!
# Numbered boxes

`Numbered` says once what numbering the boxes of a tree can do: a box takes the
first number, its children take the numbers after it one subtree after the
other, and a cell ends the walk.  Every later fact about a resolved diagram is
an induction over this relation, not over the function that fills the list.
-/

variable {α : Type} [Scalar α]

mutual

/-- The boxes of a tree at a place, in the order of their numbers. -/
inductive Numbered (document : Document α) :
    Place α → NodeId → Box → List (Placed α) → Prop where
  | cell
      {place : Place α}
      {id : NodeId}
      {box : Box}
      {settings : BoxSettings α}
      (shallow : place.address.length ≤ maxNesting)
      (read : BoxSettings.read box.kind box.attributes = .ok settings)
      (isCell : box.kind.isContainer = false) :
      Numbered document place id box
        [⟨place.address, place.node document settings box id⟩]
  | container
      {place : Place α}
      {id : NodeId}
      {box : Box}
      {settings : BoxSettings α}
      {ids : List NodeId}
      {inner : List (Placed α)}
      (shallow : place.address.length ≤ maxNesting)
      (read : BoxSettings.read box.kind box.attributes = .ok settings)
      (isContainer : box.kind.isContainer = true)
      (held :
        NumberedChildren document place (place.node document settings box id)
          box.children.length [] (id + 1) box.children ids inner) :
      Numbered document place id box
        (⟨place.address, { place.node document settings box id with children := ids }⟩ :: inner)

/-- The numbers of the later children of a box, and all boxes below these. -/
inductive NumberedChildren (document : Document α) :
    Place α → Node α → Nat → List Box → NodeId → List Box →
      List NodeId → List (Placed α) → Prop where
  | nil
      {place : Place α}
      {parent : Node α}
      {count : Nat}
      {earlier : List Box}
      {next : NodeId} :
      NumberedChildren document place parent count earlier next [] [] []
  | cons
      {place : Place α}
      {parent : Node α}
      {count : Nat}
      {earlier : List Box}
      {next : NodeId}
      {child : Box}
      {rest : List Box}
      {inner : List (Placed α)}
      {ids : List NodeId}
      {others : List (Placed α)}
      (unclaimed : claimedBy? earlier.reverse child = none)
      (first :
        Numbered document (place.child parent earlier.length count child.name) next child inner)
      (later :
        NumberedChildren document place parent count (child :: earlier)
          (next + inner.length) rest ids others) :
      NumberedChildren document place parent count earlier next (child :: rest)
        (next :: ids) (inner ++ others)

end

mutual

/-- Numbering a tree gives the boxes that the relation describes. -/
theorem Numbered.of_numberBox
    {document : Document α}
    {place : Place α}
    {id : NodeId} :
    ∀ {box : Box} {placed : List (Placed α)},
      numberBox document place id box = .ok placed →
        Numbered document place id box placed
  | ⟨kind, name, attributes, children, span, position, implicit⟩, placed, succeeded => by
      rw [numberBox] at succeeded
      by_cases tooDeep : maxNesting < place.address.length
      · rw [if_pos tooDeep] at succeeded
        cases succeeded
      rw [if_neg tooDeep] at succeeded
      obtain ⟨settings, read, numbered⟩ := Attempt.bind_eq_ok_iff.mp succeeded
      cases holds : kind.isContainer with
      | false =>
          rw [holds] at numbered
          cases numbered
          exact .cell (Nat.le_of_not_lt tooDeep) read holds
      | true =>
          rw [holds] at numbered
          obtain ⟨⟨ids, inner⟩, childrenSucceed, same⟩ := Attempt.bind_eq_ok_iff.mp numbered
          cases same
          exact .container (Nat.le_of_not_lt tooDeep) read holds
            (NumberedChildren.of_numberChildren childrenSucceed)

/-- Numbering children gives the numbers and boxes that the relation describes. -/
theorem NumberedChildren.of_numberChildren
    {document : Document α}
    {place : Place α}
    {parent : Node α}
    {count : Nat} :
    ∀ {boxes earlier : List Box} {next : NodeId} {result : List NodeId × List (Placed α)},
      numberChildren document place parent count earlier next boxes = .ok result →
        NumberedChildren document place parent count earlier next boxes result.1 result.2
  | [], earlier, next, result, succeeded => by
      rw [numberChildren] at succeeded
      cases succeeded
      exact .nil
  | child :: rest, earlier, next, result, succeeded => by
      rw [numberChildren] at succeeded
      cases claimed : claimedBy? earlier.reverse child with
      | some claim =>
          rw [claimed] at succeeded
          cases succeeded
      | none =>
          rw [claimed] at succeeded
          obtain ⟨inner, childSucceeds, restSucceeds⟩ := Attempt.bind_eq_ok_iff.mp succeeded
          obtain ⟨⟨ids, others⟩, laterSucceed, same⟩ := Attempt.bind_eq_ok_iff.mp restSucceeds
          cases same
          exact .cons claimed (Numbered.of_numberBox childSucceeds)
            (NumberedChildren.of_numberChildren laterSucceed)

end

end BoxDiagram
