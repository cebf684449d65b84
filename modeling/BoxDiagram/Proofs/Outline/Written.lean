import BoxDiagram.Proofs.Outline.Declare
import BoxDiagram.Proofs.Outline.Parts

namespace BoxDiagram

open Attempt (Ends)
open Text (Locates)

/-!
# Boxes stand where their headers are written

Every box but the root has the place of a header and attributes that are written in the
text.  A further header adds boxes at its own place, or gives its place to a box that was
only mentioned or that had no attributes.
-/

namespace Outline

namespace Box

variable {text : List Char} {root later box other existing declared : Box} {address : Address}

/-- A box has the place of a header, and attributes that are written in the text. -/
structure IsDeclaredIn (text : List Char) (box : Box) : Prop where
  brackets : IsBracketedIn text box.span box.position
  attributes : ∀ one ∈ box.attributes, one.IsWrittenIn text

/--
All boxes below the root have places of headers.  The root has the place of the line that
gives it attributes, or if there is none, the empty place at the beginning of the text.
-/
structure IsWrittenIn (text : List Char) (root : Box) : Prop where
  locates : Locates text root.span root.position
  attributes : ∀ one ∈ root.attributes, one.IsWrittenIn text
  unconfigured : root.attributes = [] → root.span = .zero ∧ root.position = .origin
  below :
    ∀ address box, address ≠ [] → root.at? address = some box → box.IsDeclaredIn text

/-- A tree of the root alone is written in every text. -/
theorem isWrittenIn_root
    (text : List Char) :
    Box.root.IsWrittenIn text where
  locates := .zero_origin text
  attributes := by
    rintro one ⟨⟩
  unconfigured _ := ⟨rfl, rfl⟩
  below address box inner found := by
    cases address with
    | nil =>
        exact absurd rfl inner
    | cons index rest =>
        cases found

/-- Whether a box is declared in a text depends on its header alone. -/
theorem IsDeclaredIn.of_hasHeader
    (isDeclared : other.IsDeclaredIn text)
    (same : box.HasHeaderOf other) :
    box.IsDeclaredIn text where
  brackets := same.span_eq ▸ same.position_eq ▸ isDeclared.brackets
  attributes := same.attributes_eq ▸ isDeclared.attributes

namespace IsWrittenIn

/-- The places of all boxes of a tree and of their attributes are places of the text. -/
theorem isKnown
    (written : root.IsWrittenIn text) :
    root.IsKnown (Locates text) := by
  intro address box found
  cases address with
  | nil =>
      obtain rfl : root = box := by simpa using found
      exact ⟨written.locates, fun one member => (written.attributes one member).isKnown⟩
  | cons index rest =>
      have isDeclared := written.below _ box (List.cons_ne_nil _ _) found
      exact ⟨isDeclared.brackets.locates, fun one member =>
        (isDeclared.attributes one member).isKnown⟩

/-- Every box of a written tree spans a part of the text. -/
theorem exists_covers
    (written : root.IsWrittenIn text)
    (found : root.at? address = some box) :
    ∃ under, box.span.Covers text under :=
  (written.isKnown address box found).1.exists_covers

/-- A tree stays written if each of its boxes is declared or is where one was. -/
theorem of_boxes
    (written : root.IsWrittenIn text)
    (boxes :
      ∀ address box, later.at? address = some box →
        (address ≠ [] ∧ box.IsDeclaredIn text) ∨
          ∃ old, root.at? address = some old ∧ box.HasHeaderOf old) :
    later.IsWrittenIn text := by
  have same : later.HasHeaderOf root := by
    rcases boxes [] later (at?_nil later) with ⟨inner, _⟩ | ⟨old, isOld, same⟩
    · exact absurd rfl inner
    · obtain rfl : root = old := by simpa using isOld
      exact same
  refine ⟨?_, same.attributes_eq ▸ written.attributes, ?_, ?_⟩
  · exact same.span_eq ▸ same.position_eq ▸ written.locates
  · rw [same.attributes_eq, same.span_eq, same.position_eq]
    exact written.unconfigured
  · intro address box inner found
    rcases boxes address box found with ⟨_, isDeclared⟩ | ⟨old, isOld, sameHeader⟩
    · exact isDeclared
    · exact (written.below address old inner isOld).of_hasHeader sameHeader

/-- A written tree stays written with a leaf that is declared in the text. -/
theorem appendChild
    {parent child : Box}
    (written : root.IsWrittenIn text)
    (found : root.at? address = some parent)
    (isLeaf : child.children = [])
    (isDeclared : child.IsDeclaredIn text) :
    (root.appendChild address child).IsWrittenIn text := by
  refine written.of_boxes fun other box isBox => ?_
  rcases cases_of_appendChild found isLeaf isBox with
    ⟨rfl, rfl⟩ | ⟨rfl, rfl⟩ | ⟨_, old, isOld, shape⟩
  · exact .inr ⟨parent, found, ⟨rfl, rfl, rfl⟩⟩
  · exact .inl ⟨by simp, isDeclared⟩
  · exact .inr ⟨old, isOld, shape.toHasHeaderOf⟩

/-- A written tree stays written where a box is declared again in the text. -/
theorem redeclare
    (written : root.IsWrittenIn text)
    (found : root.at? address = some existing)
    (inner : address ≠ [])
    (named : declared.name = existing.name)
    (children : declared.children = existing.children)
    (isDeclared : declared.IsDeclaredIn text) :
    (root.modifyAt address fun _ => declared).IsWrittenIn text := by
  refine written.of_boxes fun other box isBox => ?_
  rcases cases_of_redeclare found named children isBox with ⟨rfl, rfl⟩ | ⟨old, isOld, shape⟩
  · exact .inl ⟨inner, isDeclared⟩
  · exact .inr ⟨old, isOld, shape.toHasHeaderOf⟩

end IsWrittenIn

end Box

variable {text : List Char} {header : Header} {path : WrittenPath} {root parent existing : Box}
variable {container address : Address}

/-- The boxes along the path of a header are declared by the header. -/
theorem Header.IsWrittenIn.isDeclaredIn_segmentBox
    (headerWritten : header.IsWrittenIn text)
    (name : String)
    (isLast : Bool) :
    (header.segmentBox name isLast).IsDeclaredIn text := by
  cases isLast with
  | false =>
      refine ⟨headerWritten.brackets, ?_⟩
      rintro one ⟨⟩
  | true =>
      exact ⟨headerWritten.brackets, headerWritten.attributes⟩

/-- A header whose kind does not fit is reported at its bracket, while the mistake is its path. -/
theorem isPlacedIn_conflict
    {related : Span}
    (headerWritten : header.IsWrittenIn text)
    (isPath : path.IsWrittenIn text header.span)
    (coversRelated : ∃ under, related.Covers text under)
    (message remark relatedRemark : String) :
    ((((Diagnostic.error .conflictingKind message).mark path.span remark).locate
      header.position).relate related relatedRemark).IsPlacedIn text := by
  obtain ⟨opening, sameStart, isStop, opens⟩ := isPath.opens
  refine Diagnostic.isPlacedIn_mark_locate_relate isPath.covers coversRelated ?_
  exact .header opening ⟨rfl, opens, sameStart ▸ headerWritten.brackets.locates.isAt, isStop⟩

/-- Following a path of a header leaves a written tree, with a box below the root at its end. -/
theorem followPath_ends
    {segments : List String}
    {created : Bool}
    (headerWritten : header.IsWrittenIn text)
    (isPath : path.IsWrittenIn text header.span)
    (written : root.IsWrittenIn text)
    (found : root.at? address = some parent) :
    Ends (fun (grown, target, _) =>
        grown.IsWrittenIn text ∧ (∃ box, grown.at? target = some box) ∧
          (address ≠ [] ∨ segments ≠ [] → target ≠ []))
      (Diagnostic.IsPlacedIn text) (followPath header path root address created segments) := by
  -- Each name leads below the root, so that no header takes the place of the root.
  induction segments generalizing root address created parent with
  | nil =>
      rw [followPath]
      exact .ok ⟨written, ⟨parent, found⟩, by simp⟩
  | cons name rest inductionHypothesis =>
      rw [followPath, found]
      dsimp only
      split
      · exact .error (isPlacedIn_conflict headerWritten isPath (written.exists_covers found) _ _ _)
      · split
        · rename_i index isIndex
          obtain ⟨child, _, childFound⟩ := Box.exists_child_of_childIndex? found isIndex
          refine (inductionHypothesis written childFound).imp ?_
          rintro ⟨grown, target, _⟩ ⟨grownWritten, isEnd, inner⟩
          exact ⟨grownWritten, isEnd, fun _ => inner (.inl (by simp))⟩
        · have isLeaf : (header.segmentBox name rest.isEmpty).children = [] := by
            cases rest <;> rfl
          have grownWritten := written.appendChild found isLeaf
            (headerWritten.isDeclaredIn_segmentBox name rest.isEmpty)
          refine (inductionHypothesis grownWritten (Box.at?_appendChild found)).imp ?_
          rintro ⟨grown, target, _⟩ ⟨grownWritten, isEnd, inner⟩
          exact ⟨grownWritten, isEnd, fun _ => inner (.inl (by simp))⟩

/-- A box that is declared again keeps its place or takes that of the header. -/
theorem redeclare_ends
    (headerWritten : header.IsWrittenIn text)
    (isPath : path.IsWrittenIn text header.span)
    (isDeclared : existing.IsDeclaredIn text) :
    Ends (fun declared => declared.name = existing.name ∧
        declared.children = existing.children ∧ declared.IsDeclaredIn text)
      (Diagnostic.IsPlacedIn text) (header.redeclare path existing) := by
  have conflict : (kindConflict header path existing).IsPlacedIn text :=
    isPlacedIn_conflict headerWritten isPath isDeclared.brackets.locates.exists_covers _ _ _
  rw [Header.redeclare_eq]
  refine .bind (?_ : Ends (fun claimed => claimed.name = existing.name ∧
    claimed.children = existing.children ∧ claimed.IsDeclaredIn text) _ _) ?_
  · rw [Header.claim]
    split
    · split
      · exact .error conflict
      · exact .ok ⟨rfl, rfl, headerWritten.brackets, isDeclared.attributes⟩
    · split
      · exact .error conflict
      · exact .ok ⟨rfl, rfl, isDeclared⟩
  · rintro claimed ⟨named, children, claimedDeclared⟩
    rw [Header.furnish]
    split
    · exact .ok ⟨named, children, claimedDeclared⟩
    · split
      · have about := Diagnostic.isAbout_mark_locate .attributesGivenTwice
          "box already received attributes" "attributes given again"
          headerWritten.brackets.locates
        exact .error (((about.relate _ claimedDeclared.brackets.locates).advise _).isPlacedIn
          (by rintro ⟨⟩))
      · exact .ok ⟨named, children, headerWritten.brackets, headerWritten.attributes⟩

/-- A header in an open container of the tree leaves a written tree. -/
theorem declare_ends
    (headerWritten : header.IsWrittenIn text)
    (written : root.IsWrittenIn text)
    (found : root.at? container = some parent) :
    Ends (fun (grown, _) => grown.IsWrittenIn text)
      (Diagnostic.IsPlacedIn text) (declare root container header) := by
  rw [declare]
  split
  · rename_i path isSome
    have isPath := headerWritten.path path isSome
    obtain ⟨first, firstFound⟩ := exists_base path found
    refine .bind (followPath_ends headerWritten isPath written firstFound) ?_
    rintro ⟨grown, target, created⟩ ⟨grownWritten, ⟨box, boxFound⟩, inner⟩
    have inner := inner (.inr isPath.segments_ne_nil)
    dsimp only
    split
    · exact .ok grownWritten
    · rw [boxFound]
      have isDeclared := grownWritten.below target box inner boxFound
      refine .bind (redeclare_ends headerWritten isPath isDeclared) ?_
      rintro declared ⟨named, children, isDeclared⟩
      exact .ok (grownWritten.redeclare boxFound inner named children isDeclared)
  · rw [declareAnonymous, found]
    exact .ok (written.appendChild found rfl ⟨headerWritten.brackets, headerWritten.attributes⟩)

end Outline

end BoxDiagram
