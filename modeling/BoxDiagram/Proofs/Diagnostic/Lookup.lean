import BoxDiagram.Diagnostic.Report
import BoxDiagram.Proofs.Outline.Cursor

namespace BoxDiagram

open Text (IsBoundary byteLength normalizeNewlines spanAt?)

/-!
# Looking up a position in a text

A reader counts lines and columns forward, one character after the other.  A report finds
the way back: it skips whole lines, then characters of the line that is shown.  On a text
with uniform line ends it arrives where the reader stood, and on any text it stays inside.
-/

namespace Text

/-- The text is empty or ends with a line end. -/
def IsWholeLines (text : List Char) : Prop :=
  text = [] ∨ text.getLast? = some '\n'

/-- Whole lines without their first character are whole lines. -/
theorem IsWholeLines.of_cons
    {char : Char}
    {rest : List Char}
    (whole : IsWholeLines (char :: rest)) :
    IsWholeLines rest := by
  cases rest with
  | nil =>
      exact .inl rfl
  | cons next more =>
      refine .inr ?_
      rcases whole with isEmpty | isLast
      · cases isEmpty
      · rwa [List.getLast?_cons_cons] at isLast

/-- Whole lines that are not empty hold a line end. -/
theorem IsWholeLines.count_pos
    {char : Char}
    {rest : List Char}
    (whole : IsWholeLines (char :: rest)) :
    0 < (char :: rest).count '\n' := by
  rcases whole with isEmpty | isLast
  · cases isEmpty
  · exact List.count_pos_iff.mpr (List.mem_of_getLast? isLast)

/-- As many lines are skipped as there are line ends. -/
theorem dropLines_of_isWholeLines
    {lines : List Char}
    (whole : IsWholeLines lines)
    (rest : List Char) :
    dropLines (lines.count '\n') (lines ++ rest) = (byteLength lines, rest) := by
  induction lines with
  | nil =>
      simp [dropLines]
  | cons char later inductionHypothesis =>
      have skipped := inductionHypothesis whole.of_cons
      by_cases lineEnd : char = '\n'
      · subst lineEnd
        rw [List.count_cons_self, List.cons_append, dropLines]
        simp [skipped, Nat.add_comm]
      · -- Some line end follows, so that a line is still to be skipped.
        have later_pos := whole.count_pos
        rw [List.count_cons_of_ne lineEnd] at later_pos ⊢
        obtain ⟨count, isCount⟩ :=
          Nat.exists_eq_add_one_of_ne_zero (Nat.pos_iff_ne_zero.mp later_pos)
        rw [isCount] at skipped ⊢
        rw [List.cons_append, dropLines]
        simp [lineEnd, skipped, Nat.add_comm]

/-- What is skipped and what is left make up the text. -/
theorem exists_dropped
    (count : Nat)
    (text : List Char) :
    ∃ before, text = before ++ (dropLines count text).2 ∧
      (dropLines count text).1 = byteLength before := by
  fun_induction dropLines count text with
  | case1 text =>
      exact ⟨[], rfl, rfl⟩
  | case2 count =>
      exact ⟨[], rfl, rfl⟩
  | case3 count char rest skipped remaining isDropped inductionHypothesis =>
      rw [isDropped] at inductionHypothesis
      obtain ⟨before, isRest, isLength⟩ := inductionHypothesis
      refine ⟨char :: before, congrArg (char :: ·) isRest, ?_⟩
      rw [byteLength_cons, ← isLength, Nat.add_comm]

/-- The first line is the start of the text. -/
theorem firstLine_prefix
    (text : List Char) :
    firstLine text <+: text := by
  fun_induction firstLine text with
  | case1 => exact List.nil_prefix
  | case2 => exact List.nil_prefix
  | case3 => exact List.nil_prefix
  | case4 char rest _ _ inductionHypothesis =>
      exact List.cons_prefix_cons.mpr ⟨rfl, inductionHypothesis⟩

/-- A character that ends no line belongs to the first line. -/
theorem firstLine_cons
    {char : Char}
    (rest : List Char)
    (noLineEnd : char ≠ '\n')
    (noReturn : char ≠ '\r') :
    firstLine (char :: rest) = char :: firstLine rest := by
  rw [firstLine]
  · exact noLineEnd
  · intro more isReturn
    exact absurd isReturn noReturn

/-- The shown line has all characters up to a line end. -/
theorem firstLine_append
    {line : List Char}
    (rest : List Char)
    (noLineEnd : '\n' ∉ line)
    (noReturn : '\r' ∉ line) :
    firstLine (line ++ rest) = line ++ firstLine rest := by
  induction line with
  | nil =>
      rfl
  | cons char more inductionHypothesis =>
      simp only [List.mem_cons, not_or] at noLineEnd noReturn
      rw [List.cons_append, firstLine_cons _ (Ne.symm noLineEnd.1) (Ne.symm noReturn.1),
        inductionHypothesis noLineEnd.2 noReturn.2, List.cons_append]

/-- The characters before a place are whole lines and the start of the line of that place. -/
theorem exists_line
    (before : List Char) :
    ∃ lines line, before = lines ++ line ∧ IsWholeLines lines ∧ '\n' ∉ line ∧
      Position.following before = ⟨lines.count '\n' + 1, line.length + 1⟩ := by
  induction before using List.reverseRecOn with
  | nil =>
      exact ⟨[], [], rfl, .inl rfl, by simp, rfl⟩
  | append_singleton before char inductionHypothesis =>
      obtain ⟨lines, line, rfl, whole, noLineEnd, isAt⟩ := inductionHypothesis
      rw [Position.following_append_singleton, isAt, Position.after]
      by_cases lineEnd : char = '\n'
      · subst lineEnd
        refine ⟨lines ++ line ++ ['\n'], [], by simp, .inr (by simp), by simp, ?_⟩
        simp [List.count_eq_zero.mpr noLineEnd]
      · refine ⟨lines, line ++ [char], by simp, whole, ?_, ?_⟩
        · simp only [List.mem_append, List.mem_singleton, not_or]
          exact ⟨noLineEnd, Ne.symm lineEnd⟩
        · simp [lineEnd]

/-- The span of the first character of a text from an offset on, empty before a line end. -/
def firstSpan (offset : Nat) (text : List Char) : Span :=
  match (firstLine text).head? with
  | some char => .between offset (offset + char.utf8Size)
  | none => .between offset offset

/-- At the position after some characters, the span of the next one is found. -/
theorem spanAt?_following
    (before after : List Char)
    (noReturn : '\r' ∉ before) :
    spanAt? (before ++ after) (.following before) =
      some (firstSpan (byteLength before) after) := by
  obtain ⟨lines, line, rfl, whole, noLineEnd, isAt⟩ := exists_line before
  have noReturn : '\r' ∉ line := fun member => noReturn (List.mem_append_right _ member)
  have shown : firstLine (line ++ after) = line ++ firstLine after :=
    firstLine_append after noLineEnd noReturn
  rw [isAt, spanAt?, if_neg (by simp), List.append_assoc]
  simp only [Nat.add_sub_cancel, dropLines_of_isWholeLines whole, shown, List.take_left,
    ← byteLength_append, firstSpan]
  rw [List.getElem?_append_right (Nat.le_refl _), Nat.sub_self, ← List.head?_eq_getElem?]
  cases (firstLine after).head? <;> rfl

/-- For a line and a column counted from one a span is found, which covers whole characters. -/
theorem exists_spanAt?
    (text : List Char)
    {position : Position}
    (line_pos : 1 ≤ position.line)
    (column_pos : 1 ≤ position.column) :
    ∃ span under, spanAt? text position = some span ∧ span.Covers text under := by
  obtain ⟨before, isText, isLength⟩ := exists_dropped (position.line - 1) text
  generalize isDropped : dropLines (position.line - 1) text = dropped at isText isLength
  obtain ⟨skipped, rest⟩ := dropped
  obtain ⟨more, isRest⟩ := firstLine_prefix rest
  rw [spanAt?, if_neg (by omega), isDropped]
  dsimp only at isText isLength ⊢
  -- The characters before the column, what stands at it, and the rest of the line.
  generalize firstLine rest = shown at isRest
  generalize position.column - 1 = column
  have covers (under : List Char) (isUnder : under <+: shown.drop column) :
      (Span.between (skipped + byteLength (shown.take column))
        (skipped + byteLength (shown.take column) + byteLength under)).Covers text under := by
    obtain ⟨tail, isTail⟩ := isUnder
    refine ⟨before ++ shown.take column, tail ++ more, ?_, ?_, ?_⟩
    · rw [List.append_assoc, List.append_assoc, ← List.append_assoc under, isTail,
        ← List.append_assoc (shown.take column), List.take_append_drop, isRest, isText]
    · rw [byteLength_append, ← isLength]
      rfl
    · rw [byteLength_append, byteLength_append, ← isLength, Span.between]
      exact Nat.max_eq_left (Nat.le_add_right _ _)
  cases stands : shown[column]? with
  | none =>
      exact ⟨_, [], rfl, covers [] List.nil_prefix⟩
  | some char =>
      obtain ⟨inside, isChar⟩ := List.getElem?_eq_some_iff.mp stands
      refine ⟨_, [char], rfl, ?_⟩
      have isHead : [char] <+: shown.drop column :=
        ⟨shown.drop (column + 1), by rw [← isChar]; exact List.getElem_cons_drop inside⟩
      simpa using covers [char] isHead

/-- The first line spans its first character. -/
theorem firstSpan_cons
    {char : Char}
    (offset : Nat)
    (rest : List Char)
    (noLineEnd : char ≠ '\n')
    (noReturn : char ≠ '\r') :
    firstSpan offset (char :: rest) = .between offset (offset + char.utf8Size) := by
  rw [firstSpan, firstLine_cons rest noLineEnd noReturn]
  rfl

/-- At the end of a line the span is empty. -/
theorem firstSpan_of_lineEnd
    {text : List Char}
    (offset : Nat)
    (atEnd : text.head? = some '\n' ∨ text.head? = none) :
    firstSpan offset text = .between offset offset := by
  rcases atEnd with isLineEnd | isNone
  · obtain ⟨rest, rfl⟩ := List.head?_eq_some_iff.mp isLineEnd
    rfl
  · rw [List.head?_eq_none_iff.mp isNone]
    rfl

end Text

namespace Cursor

/-- A cursor comes to every offset between two characters of a text. -/
theorem exists_advance_of_isBoundary
    {text : List Char}
    {offset : Nat}
    (isBoundary : IsBoundary text offset) :
    ∃ count, ((start text).advance count).offset = offset := by
  obtain ⟨before, after, rfl, rfl⟩ := isBoundary
  refine ⟨before.length, ?_⟩
  have passes : (start (before ++ after)).Passes before _ :=
    passes_advance_length (List.prefix_append before after)
  rw [passes.offset_eq, start, Nat.zero_add]

/--
Of a text with uniform line ends, a cursor comes to every offset between two characters.
At the line and column that it has there a report finds the span of the next character, or
the empty span at this offset where a line or the text ends.  For any text and any line and
column counted from one a report finds a span inside the text that covers whole characters.
-/
theorem positions_are_found
    (source : List Char) :
    (∀ offset, IsBoundary (normalizeNewlines source) offset →
      ∃ count, ((start (normalizeNewlines source)).advance count).offset = offset) ∧
    (∀ count cursor, (start (normalizeNewlines source)).advance count = cursor →
      (∀ char, cursor.peek? = some char → char ≠ '\n' →
        spanAt? (normalizeNewlines source) cursor.position =
          some (.between cursor.offset (cursor.offset + char.utf8Size))) ∧
      (cursor.peek? = some '\n' ∨ cursor.peek? = none →
        spanAt? (normalizeNewlines source) cursor.position =
          some (.between cursor.offset cursor.offset))) ∧
    ∀ text position, 1 ≤ position.line → 1 ≤ position.column →
      ∃ span under, spanAt? text position = some span ∧ span.Covers text under := by
  refine ⟨fun offset => exists_advance_of_isBoundary, ?places, fun text position =>
    Text.exists_spanAt? text⟩
  rintro count cursor rfl
  obtain ⟨before, isText, isOffset, isPosition⟩ :=
    (standsIn_start (normalizeNewlines source)).of_leadsTo (leadsTo_advance count)
      |>.exists_before
  generalize (start (normalizeNewlines source)).advance count = cursor at *
  have noReturn := Text.return_notMem_normalizeNewlines source
  generalize normalizeNewlines source = text at *
  subst isText
  rw [isPosition, isOffset]
  have found := Text.spanAt?_following before cursor.rest
    fun member => noReturn (List.mem_append_left _ member)
  rw [found]
  constructor
  · intro char stands noLineEnd
    obtain ⟨rest, isRest⟩ := List.head?_eq_some_iff.mp stands
    rw [isRest] at noReturn ⊢
    rw [Text.firstSpan_cons _ _ noLineEnd]
    rintro rfl
    simp at noReturn
  · intro atEnd
    rw [Text.firstSpan_of_lineEnd _ atEnd]

/-- Behind an empty line a character of two bytes, at the end of the text and past it. -/
theorem exists_position_is_found :
    normalizeNewlines ['a', '\r', '\n', '\r', 'é'] = ['a', '\n', '\n', 'é'] ∧
      (∃ count, ((start ['a', '\n', '\n', 'é']).advance count).offset = 3) ∧
      ((start ['a', '\n', '\n', 'é']).advance 3).position = ⟨3, 1⟩ ∧
      spanAt? ['a', '\n', '\n', 'é'] ⟨3, 1⟩ = some (.between 3 5) ∧
      spanAt? ['a', '\n', '\n', 'é'] ⟨2, 1⟩ = some (.between 2 2) ∧
      spanAt? ['a', '\n', '\n', 'é'] ⟨3, 2⟩ = some (.between 5 5) ∧
      ∃ span under, spanAt? ['a', '\r', '\n', 'é'] ⟨7, 2⟩ = some span ∧
        span.Covers ['a', '\r', '\n', 'é'] under := by
  obtain ⟨comes, finds, stays⟩ := positions_are_found ['a', '\r', '\n', '\r', 'é']
  have uniform : normalizeNewlines ['a', '\r', '\n', '\r', 'é'] = ['a', '\n', '\n', 'é'] := by
    decide
  rw [uniform] at comes finds
  refine ⟨uniform, comes 3 ⟨['a', '\n', '\n'], ['é'], rfl, rfl⟩, rfl, ?_, ?_, ?_, ?_⟩
  · exact (finds 3 _ rfl).1 'é' rfl (by decide)
  · exact (finds 2 _ rfl).2 (.inl rfl)
  · exact (finds 4 _ rfl).2 (.inr rfl)
  · exact stays _ ⟨7, 2⟩ (by decide) (by decide)

end Cursor

end BoxDiagram
