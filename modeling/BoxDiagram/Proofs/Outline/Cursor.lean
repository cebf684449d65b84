import BoxDiagram.Outline.Cursor
import BoxDiagram.Proofs.Text.Span

namespace BoxDiagram

/-!
# Moving a cursor over a text

Every move of a cursor is over some characters of its text: the offset grows by
their bytes, and the position counts their lines and columns.  So the span from one
place to a later one covers exactly the characters between them.
-/

namespace Cursor

/-- The next place comes after some characters that stand at the first one. -/
structure Passes (start : Cursor) (passed : List Char) (next : Cursor) : Prop where
  rest_eq : start.rest = passed ++ next.rest
  offset_eq : next.offset = start.offset + Text.byteLength passed
  position_eq : next.position = start.position.afterText passed

/-- The next place is the first one or comes after it in the same text. -/
def LeadsTo (start next : Cursor) : Prop :=
  ∃ passed, start.Passes passed next

namespace Passes

/-- A cursor passes nothing where it stays. -/
theorem refl
    (cursor : Cursor) :
    cursor.Passes [] cursor :=
  ⟨rfl, rfl, rfl⟩

variable {first middle last : Cursor} {passed more : List Char}

/-- What is passed in two steps is passed in their order. -/
theorem trans
    (passes : first.Passes passed middle)
    (passesOn : middle.Passes more last) :
    first.Passes (passed ++ more) last where
  rest_eq := by
    rw [passes.rest_eq, passesOn.rest_eq, List.append_assoc]
  offset_eq := by
    rw [passesOn.offset_eq, passes.offset_eq, Text.byteLength_append, Nat.add_assoc]
  position_eq := by
    rw [passesOn.position_eq, passes.position_eq, Position.afterText_append]

/-- Where a cursor passed a text, it came. -/
theorem leadsTo
    (passes : first.Passes passed middle) :
    first.LeadsTo middle :=
  ⟨passed, passes⟩

end Passes

namespace LeadsTo

/-- A cursor leads to itself. -/
theorem refl
    (cursor : Cursor) :
    cursor.LeadsTo cursor :=
  ⟨[], .refl cursor⟩

variable {first middle last : Cursor}

/-- Where a cursor leads, it leads on. -/
theorem trans
    (leads : first.LeadsTo middle)
    (leadsOn : middle.LeadsTo last) :
    first.LeadsTo last := by
  obtain ⟨passed, passes⟩ := leads
  obtain ⟨more, passesOn⟩ := leadsOn
  exact ⟨passed ++ more, passes.trans passesOn⟩

/-- A cursor never goes back. -/
theorem offset_le
    (leads : first.LeadsTo last) :
    first.offset ≤ last.offset := by
  obtain ⟨passed, passes⟩ := leads
  rw [passes.offset_eq]
  omega

end LeadsTo

variable {cursor : Cursor}

/-- The character that is next is passed by one step. -/
theorem passes_past
    {char : Char}
    {rest : List Char}
    (stands : cursor.rest = char :: rest) :
    cursor.Passes [char] (cursor.past char rest) :=
  ⟨stands, rfl, rfl⟩

/-- Advancing passes over as many characters as there are. -/
theorem passes_advance
    (count : Nat) :
    cursor.Passes (cursor.rest.take count) (cursor.advance count) := by
  induction count generalizing cursor with
  | zero =>
      exact .refl cursor
  | succ count inductionHypothesis =>
      rw [advance]
      split
      · rename_i atEnd
        rw [atEnd]
        exact .refl cursor
      · rename_i char rest stands
        rw [stands, List.take_succ_cons]
        exact (passes_past stands).trans inductionHypothesis

/-- Steps add up. -/
theorem advance_add
    (first second : Nat) :
    cursor.advance (first + second) = (cursor.advance first).advance second := by
  induction first generalizing cursor with
  | zero =>
      rw [Nat.zero_add, advance]
  | succ first inductionHypothesis =>
      rw [Nat.succ_add, advance, advance]
      cases atEnd : cursor.rest with
      | nil =>
          cases second <;> simp [advance, atEnd]
      | cons char rest =>
          exact inductionHypothesis

theorem leadsTo_advance
    (count : Nat) :
    cursor.LeadsTo (cursor.advance count) :=
  (passes_advance count).leadsTo

/-- Advancing over what stands at a place passes exactly over that. -/
theorem passes_advance_length
    {passed : List Char}
    (stands : passed <+: cursor.rest) :
    cursor.Passes passed (cursor.advance passed.length) := by
  have passes := cursor.passes_advance passed.length
  rwa [← List.prefix_iff_eq_take.mp stands] at passes

/-- One step passes the next character. -/
theorem passes_advance_one
    {char : Char}
    (stands : cursor.peek? = some char) :
    cursor.Passes [char] (cursor.advance 1) := by
  obtain ⟨rest, isRest⟩ := List.head?_eq_some_iff.mp stands
  exact passes_advance_length ⟨rest, isRest.symm⟩

/-- The characters that are taken are those passed over. -/
theorem passes_takeWhile
    (accept : Char → Bool) :
    cursor.Passes (cursor.takeWhile accept).1 (cursor.takeWhile accept).2 :=
  passes_advance_length (List.takeWhile_prefix accept)

theorem leadsTo_skipWhile
    (accept : Char → Bool) :
    cursor.LeadsTo (cursor.skipWhile accept) :=
  (passes_takeWhile accept).leadsTo

theorem leadsTo_skipGaps :
    cursor.LeadsTo cursor.skipGaps :=
  leadsTo_skipWhile isGap

theorem leadsTo_skipComment :
    cursor.LeadsTo cursor.skipComment :=
  leadsTo_skipWhile (· != '\n')

theorem leadsTo_skipRuns
    (count : Nat) :
    cursor.LeadsTo (cursor.skipRuns count) := by
  induction count generalizing cursor with
  | zero =>
      exact .refl cursor
  | succ count inductionHypothesis =>
      rw [skipRuns]
      split
      · exact (leadsTo_skipWhile _).trans (leadsTo_skipComment.trans inductionHypothesis)
      · exact leadsTo_skipWhile _

/-- Skipping gaps, comments and blank lines leads on. -/
theorem leadsTo_skipTrivia :
    cursor.LeadsTo cursor.skipTrivia :=
  leadsTo_skipRuns _

/-- The cursor was moved there from the start of a text. -/
def StandsIn (cursor : Cursor) (text : List Char) : Prop :=
  (start text).LeadsTo cursor

variable {text under : List Char} {first next : Cursor}

/-- A cursor before the first character stands in its text. -/
theorem standsIn_start
    (text : List Char) :
    (start text).StandsIn text :=
  .refl _

/-- A cursor stays in the text that it stands in. -/
theorem StandsIn.of_leadsTo
    (stands : first.StandsIn text)
    (leads : first.LeadsTo next) :
    next.StandsIn text :=
  LeadsTo.trans stands leads

/-- A place of a text is where its offset and its position say, counted in the text before. -/
theorem StandsIn.exists_before
    (stands : first.StandsIn text) :
    ∃ before, text = before ++ first.rest ∧ first.offset = Text.byteLength before ∧
      first.position = .following before := by
  obtain ⟨before, passes⟩ := stands
  refine ⟨before, passes.rest_eq, ?_, ?_⟩
  · rw [passes.offset_eq, start, Nat.zero_add]
  · rw [passes.position_eq, start, Position.afterText_origin]

/-- The position of a place of a text is the one at its offset. -/
theorem StandsIn.isAt
    (stands : first.StandsIn text) :
    first.position.IsAt text first.offset := by
  obtain ⟨before, isText, isOffset, isPosition⟩ := stands.exists_before
  exact ⟨before, first.rest, isText, isOffset, isPosition⟩

@[simp] theorem spanTo_start :
    (first.spanTo next).start = first.offset :=
  rfl

theorem spanTo_stop
    (leads : first.LeadsTo next) :
    (first.spanTo next).stop = next.offset :=
  Nat.max_eq_left leads.offset_le

/-- The span between two places of a text covers what stands between them. -/
theorem covers_spanTo
    (stands : first.StandsIn text)
    (passes : first.Passes under next) :
    (first.spanTo next).Covers text under := by
  obtain ⟨before, passesBefore⟩ := stands
  have offset_eq : first.offset = Text.byteLength before := by
    rw [passesBefore.offset_eq, start, Nat.zero_add]
  refine ⟨before, next.rest, ?_, offset_eq, ?_⟩
  · rw [List.append_assoc, ← passes.rest_eq]
    exact passesBefore.rest_eq
  · rw [Text.byteLength_append, ← offset_eq, ← passes.offset_eq, spanTo_stop passes.leadsTo]

/-- A span between two places marks what was passed between them. -/
theorem marks_spanTo
    (stands : first.StandsIn text)
    (passes : first.Passes under next) :
    Text.Marks text (first.spanTo next) first.position under :=
  ⟨covers_spanTo stands passes, stands.isAt⟩

/-- A span from a place of the text is located in it. -/
theorem locates_spanTo
    (stands : first.StandsIn text)
    (leads : first.LeadsTo next) :
    Text.Locates text (first.spanTo next) first.position := by
  obtain ⟨under, passes⟩ := leads
  exact ⟨under, marks_spanTo stands passes⟩

section Taken

variable {cursor : Cursor} {accept : Char → Bool}

theorem rest_advance_length
    {passed rest : List Char}
    (stands : cursor.rest = passed ++ rest) :
    (cursor.advance passed.length).rest = rest := by
  have passes := passes_advance_length ⟨rest, stands.symm⟩
  exact List.append_cancel_left (passes.rest_eq.symm.trans stands)

/-- Taking characters of a class stops at the first one of another class. -/
theorem eq_false_of_peek?_takeWhile
    {char : Char}
    (stands : (cursor.takeWhile accept).2.peek? = some char) :
    accept char = false := by
  have splits :
      cursor.rest.takeWhile accept ++ cursor.rest.dropWhile accept =
        cursor.rest.takeWhile accept ++ (cursor.takeWhile accept).2.rest :=
    List.takeWhile_append_dropWhile.trans (cursor.passes_takeWhile accept).rest_eq
  have stops := List.head?_dropWhile_not accept cursor.rest
  rw [List.append_cancel_left splits, ← peek?, stands] at stops
  exact stops

/-- Exactly a run of characters of a class is taken if none follows it. -/
theorem takeWhile_eq
    {taken rest : List Char}
    (stands : cursor.rest = taken ++ rest)
    (accepted : ∀ char ∈ taken, accept char = true)
    (stops : ∀ char, rest.head? = some char → accept char = false) :
    cursor.takeWhile accept = (taken, cursor.advance taken.length) := by
  have noneFollows : rest.takeWhile accept = [] := by
    cases rest with
    | nil => rfl
    | cons char later => simp [stops char rfl]
  have isTaken : cursor.rest.takeWhile accept = taken := by
    rw [stands, List.takeWhile_append_of_pos accepted, noneFollows, List.append_nil]
  rw [takeWhile, isTaken]

end Taken

end Cursor

end BoxDiagram
