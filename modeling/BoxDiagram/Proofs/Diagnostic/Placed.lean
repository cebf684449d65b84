import BoxDiagram.Proofs.Diagnostic.Located
import BoxDiagram.Proofs.Text.Span

namespace BoxDiagram

/-!
# Where errors about a text point

An error marks whole characters of the text, and its position is the one at which the
span of the mistake starts.  There are two exceptions: a side that ends an arrow is
reported where the arrow starts, and a path whose boxes have other kinds is reported
where the header around it starts.
-/

namespace Diagnostic

/-- The mistake is the digit at the end of an arrow, and the position is that of the arrow. -/
structure PointsAtArrow
    (text : List Char)
    (diagnostic : Diagnostic)
    (span : Span)
    (position : Position)
    (arrow : Span) : Prop where
  code : diagnostic.code = some .invalidArrow
  digit : ∃ digit, span.Covers text [digit] ∧ digit.isDigit = true
  related : ∃ label ∈ diagnostic.labels, label.isPrimary = false ∧ label.span = arrow
  isAt : position.IsAt text arrow.start
  start_lt : arrow.start < span.start
  stop_eq : arrow.stop = span.stop

/-- The text starts with a bracket that opens a header. -/
def IsOpening (text : List Char) : Prop :=
  text.head? = some '[' ∨ text.head? = some '('

/-- The mistake is the path of a header, and the position is that of the opening bracket. -/
structure PointsAtHeader
    (text : List Char)
    (diagnostic : Diagnostic)
    (span : Span)
    (position : Position)
    (opening : Span) : Prop where
  code : diagnostic.code = some .conflictingKind
  opens : ∃ under, opening.Covers text under ∧ IsOpening under
  isAt : position.IsAt text opening.start
  stop_eq : opening.stop = span.start

/-- Where the position of a message points, given the span of the mistake. -/
inductive PointsAt
    (text : List Char)
    (diagnostic : Diagnostic)
    (span : Span)
    (position : Position) : Prop where
  | mistake
      (isAt : position.IsAt text span.start)
      (code_ne : diagnostic.code ≠ some .conflictingKind)
  | arrow
      (arrow : Span)
      (points : diagnostic.PointsAtArrow text span position arrow)
  | header
      (opening : Span)
      (points : diagnostic.PointsAtHeader text span position opening)

/-- The message marks whole characters of a text and points at its mistake, with two exceptions. -/
structure IsPlacedIn (text : List Char) (diagnostic : Diagnostic) : Prop
    extends diagnostic.IsLocated where
  labels : ∀ label ∈ diagnostic.labels, ∃ under, label.span.Covers text under
  points :
    ∀ span position, diagnostic.primarySpan? = some span →
      diagnostic.position = some position → diagnostic.PointsAt text span position

variable {text : List Char} {diagnostic : Diagnostic} {span related : Span} {position : Position}

/-- A diagnostic about places of a text is placed in it. -/
theorem IsAbout.isPlacedIn
    (about : diagnostic.IsAbout (Text.Locates text))
    (code_ne : diagnostic.code ≠ some .conflictingKind) :
    diagnostic.IsPlacedIn text where
  toIsLocated := about.toIsLocated
  labels label member := by
    obtain ⟨position, locates⟩ := about.labels label member
    exact locates.exists_covers
  points span position isSpan isPosition :=
    .mistake (about.mistake span position isSpan isPosition).isAt code_ne

/-- An error that is related to a second span is placed if both spans are and it points well. -/
theorem isPlacedIn_mark_locate_relate
    {code : DiagnosticCode}
    {message remark relatedRemark : String}
    (covers : ∃ under, span.Covers text under)
    (coversRelated : ∃ under, related.Covers text under)
    (points :
      ((((error code message).mark span remark).locate position).relate related
        relatedRemark).PointsAt text span position) :
    ((((error code message).mark span remark).locate position).relate related
      relatedRemark).IsPlacedIn text where
  code := rfl
  position := rfl
  primarySpan := rfl
  labels label member := by
    rcases List.mem_append.mp member with isFirst | isSecond
    · obtain rfl := List.mem_singleton.mp isFirst
      exact covers
    · obtain rfl := List.mem_singleton.mp isSecond
      exact coversRelated
  points := by
    rintro _ _ ⟨⟩ ⟨⟩
    exact points

/-- A position before the mistake is not the position of the mistake. -/
theorem PointsAtArrow.not_isAt
    {arrow : Span}
    (points : diagnostic.PointsAtArrow text span position arrow) :
    ¬ position.IsAt text span.start := by
  intro isAt
  have sameOffset := points.isAt.offset_eq isAt
  have before := points.start_lt
  omega

/-- A diagnostic that points at a header has not the position of its span. -/
theorem PointsAtHeader.not_isAt
    {opening : Span}
    (points : diagnostic.PointsAtHeader text span position opening) :
    ¬ position.IsAt text span.start := by
  intro isAt
  have sameOffset := points.isAt.offset_eq isAt
  obtain ⟨under, ⟨before, after, _, starts, stops⟩, opens⟩ := points.opens
  have nothing_under : under = [] := by
    rw [← Text.byteLength_eq_zero_iff]
    rw [Text.byteLength_append] at stops
    have sameEnds := points.stop_eq
    omega
  subst nothing_under
  simp [IsOpening] at opens

end Diagnostic

end BoxDiagram
