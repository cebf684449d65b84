import BoxDiagram.Text.Newline
import BoxDiagram.Text.Span
import Mathlib.Data.List.Induction

namespace BoxDiagram

/-!
# Spans and positions of a text

A span covers whole characters of a text if both its ends lie between characters, and
a position counts the lines and the characters of the last line before an offset.  No
two places of a text have the same position.
-/

namespace Text

@[simp] theorem byteLength_nil :
    byteLength [] = 0 :=
  rfl

@[simp] theorem byteLength_cons
    (char : Char)
    (rest : List Char) :
    byteLength (char :: rest) = char.utf8Size + byteLength rest :=
  rfl

@[simp] theorem byteLength_append
    (first second : List Char) :
    byteLength (first ++ second) = byteLength first + byteLength second := by
  induction first with
  | nil =>
      simp
  | cons char rest inductionHypothesis =>
      simp [inductionHypothesis, Nat.add_assoc]

/-- The length of a text is that of the string of its characters. -/
theorem utf8ByteSize_ofList
    (text : List Char) :
    (String.ofList text).utf8ByteSize = byteLength text := by
  induction text with
  | nil =>
      simp
  | cons char rest inductionHypothesis =>
      rw [← List.singleton_append, String.ofList_append, String.utf8ByteSize_append,
        inductionHypothesis, byteLength_append]
      simp

@[simp] theorem byteLength_eq_zero_iff
    {text : List Char} :
    byteLength text = 0 ↔ text = [] := by
  cases text with
  | nil =>
      simp
  | cons char rest =>
      have positive := char.utf8Size_pos
      simp
      omega

end Text

open Text (byteLength)

namespace Position

/-- A position moves on behind one text and then the other. -/
theorem afterText_append
    (position : Position)
    (first second : List Char) :
    position.afterText (first ++ second) = (position.afterText first).afterText second :=
  List.foldl_append

/-- The line and the column after some characters of a text, both counted from one. -/
def following (before : List Char) : Position where
  line := before.count '\n' + 1
  column := (before.reverse.takeWhile (· != '\n')).length + 1

/-- A text with one more character ends behind that character. -/
theorem following_append_singleton
    (before : List Char)
    (char : Char) :
    following (before ++ [char]) = (following before).after char := by
  by_cases lineEnd : char = '\n'
  · simp [following, after, lineEnd]
  · simp [following, after, lineEnd]

/-- Moving over characters one by one counts the lines and the characters of the last one. -/
theorem afterText_origin
    (before : List Char) :
    origin.afterText before = following before := by
  induction before using List.reverseRecOn with
  | nil =>
      rfl
  | append_singleton before char inductionHypothesis =>
      rw [afterText_append, inductionHypothesis, following_append_singleton]
      rfl

/-- No two beginnings of a text end at the same position. -/
theorem eq_of_following_eq
    {before after other rest : List Char}
    (same : before ++ after = other ++ rest)
    (samePosition : following before = following other) :
    before = other := by
  have nothing_between
      {first more : List Char}
      (unmoved : following first = following (first ++ more)) :
      more = [] := by
    obtain ⟨sameLine, sameColumn⟩ := Position.mk.inj unmoved
    have noLineEnd : '\n' ∉ more := by
      rw [← List.count_eq_zero]
      simpa using sameLine
    have allCounted : ∀ char ∈ more.reverse, (char != '\n') = true := by
      intro char member
      simp only [bne_iff_ne]
      rintro rfl
      exact noLineEnd (List.mem_reverse.mp member)
    rw [List.reverse_append, List.takeWhile_append_of_pos allCounted] at sameColumn
    simpa using sameColumn
  rcases List.append_eq_append_iff.mp same with ⟨more, rfl, _⟩ | ⟨more, rfl, _⟩
  · simp [nothing_between samePosition]
  · simp [nothing_between samePosition.symm]

/-- The position is the line and column at an offset between two characters of a text. -/
def IsAt (position : Position) (text : List Char) (offset : Nat) : Prop :=
  ∃ before after, text = before ++ after ∧ offset = byteLength before ∧
    position = following before

/-- A position of a text is that of a single offset. -/
theorem IsAt.offset_eq
    {position : Position}
    {text : List Char}
    {offset other : Nat}
    (isAt : position.IsAt text offset)
    (isAtOther : position.IsAt text other) :
    offset = other := by
  obtain ⟨before, after, rfl, rfl, rfl⟩ := isAt
  obtain ⟨otherBefore, otherAfter, same, rfl, samePosition⟩ := isAtOther
  rw [eq_of_following_eq same samePosition]

end Position

/-- The offset lies between two characters of a text, or at one of its ends. -/
def Text.IsBoundary (text : List Char) (offset : Nat) : Prop :=
  ∃ before after, text = before ++ after ∧ offset = byteLength before

/-- A position is never within a character. -/
theorem Position.IsAt.isBoundary
    {position : Position}
    {text : List Char}
    {offset : Nat}
    (isAt : position.IsAt text offset) :
    Text.IsBoundary text offset := by
  obtain ⟨before, after, isText, isOffset, _⟩ := isAt
  exact ⟨before, after, isText, isOffset⟩

/-- A boundary is not behind the end of the text. -/
theorem Text.IsBoundary.le
    {text : List Char}
    {offset : Nat}
    (isBoundary : IsBoundary text offset) :
    offset ≤ byteLength text := by
  obtain ⟨before, after, rfl, rfl⟩ := isBoundary
  simp

/-- The span covers some characters of a text. -/
def Span.Covers (span : Span) (text under : List Char) : Prop :=
  ∃ before after, text = before ++ under ++ after ∧ span.start = byteLength before ∧
    span.stop = byteLength (before ++ under)

namespace Span

variable {span : Span} {text under : List Char}

/-- A span covers whole characters exactly if both its ends lie between characters. -/
theorem exists_covers_iff :
    (∃ under, span.Covers text under) ↔
      Text.IsBoundary text span.start ∧ Text.IsBoundary text span.stop := by
  constructor
  · rintro ⟨under, before, after, isText, starts, stops⟩
    exact ⟨⟨before, under ++ after, by simpa using isText, starts⟩, ⟨before ++ under, after,
      isText, stops⟩⟩
  · rintro ⟨⟨before, rest, rfl, starts⟩, ⟨whole, after, same, stops⟩⟩
    have ordered := span.start_le_stop
    rcases List.append_eq_append_iff.mp same with ⟨under, rfl, rfl⟩ | ⟨more, rfl, rfl⟩
    · exact ⟨under, before, after, by simp, starts, stops⟩
    · have none_between : more = [] := by
        rw [← Text.byteLength_eq_zero_iff]
        rw [Text.byteLength_append] at starts
        omega
      subst none_between
      exact ⟨[], whole, rest, by simp, by simpa using starts, by simpa using stops⟩

end Span

namespace Text

variable {text : List Char} {span : Span} {position : Position}

/-- A span covers some characters of a text and a position is that of the first of them. -/
structure Marks
    (text : List Char)
    (span : Span)
    (position : Position)
    (under : List Char) : Prop where
  covers : span.Covers text under
  isAt : position.IsAt text span.start

/-- A span covers whole characters of a text and a position is that of the first of them. -/
def Locates (text : List Char) (span : Span) (position : Position) : Prop :=
  ∃ under, Marks text span position under

/-- A span is located if both its ends lie between characters and the position is its start. -/
theorem locates_iff :
    Locates text span position ↔
      IsBoundary text span.stop ∧ position.IsAt text span.start := by
  constructor
  · rintro ⟨under, covers, isAt⟩
    exact ⟨(Span.exists_covers_iff.mp ⟨under, covers⟩).2, isAt⟩
  · rintro ⟨stops, isAt⟩
    obtain ⟨under, covers⟩ := Span.exists_covers_iff.mpr ⟨isAt.isBoundary, stops⟩
    exact ⟨under, covers, isAt⟩

namespace Locates

/-- A place of the text has the position of its start. -/
theorem isAt
    (locates : Locates text span position) :
    position.IsAt text span.start := by
  obtain ⟨under, marks⟩ := locates
  exact marks.isAt

/-- A place of the text spans a part of it. -/
theorem exists_covers
    (locates : Locates text span position) :
    ∃ under, span.Covers text under := by
  obtain ⟨under, marks⟩ := locates
  exact ⟨under, marks.covers⟩

/-- A span that reaches over a later one is located where it was. -/
theorem union
    {later : Span}
    (locates : Locates text span position)
    (coversLater : ∃ under, later.Covers text under)
    (inOrder : span.start ≤ later.start) :
    Locates text (span.union later) position := by
  obtain ⟨stops, isAt⟩ := locates_iff.mp locates
  obtain ⟨_, stopsLater⟩ := Span.exists_covers_iff.mp coversLater
  have sameStart : (span.union later).start = span.start := Nat.min_eq_left inOrder
  have stopsEither : IsBoundary text (max span.stop later.stop) := by
    rcases Nat.le_total span.stop later.stop with laterLast | laterFirst
    · rwa [Nat.max_eq_right laterLast]
    · rwa [Nat.max_eq_left laterFirst]
  exact locates_iff.mpr ⟨stopsEither, sameStart ▸ isAt⟩

/-- The empty span at the beginning of a text is at the first line and column. -/
theorem zero_origin
    (text : List Char) :
    Locates text .zero .origin :=
  ⟨[], ⟨[], text, rfl, rfl, rfl⟩, ⟨[], text, rfl, rfl, rfl⟩⟩

end Locates

end Text

end BoxDiagram
