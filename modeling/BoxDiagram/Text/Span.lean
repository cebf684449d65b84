namespace BoxDiagram

/-!
# Places in a text

A span is a range of bytes of a text in UTF-8. A position is the line and the
column of its first byte, counted in characters from one.
-/

/-- A range of bytes, never of negative length. -/
structure Span where
  start : Nat
  stop : Nat
  start_le_stop : start ≤ stop := by omega
  deriving Repr, DecidableEq

namespace Span

/-- The span between two offsets; empty if the second lies before the first. -/
def between (start stop : Nat) : Span where
  start := start
  stop := max stop start
  start_le_stop := Nat.le_max_right stop start

/-- The empty span at the beginning of a text. -/
def zero : Span := ⟨0, 0, Nat.le_refl 0⟩

instance : Inhabited Span := ⟨zero⟩

/-- The number of bytes of a span. -/
def length (span : Span) : Nat :=
  span.stop - span.start

/-- The span covers nothing. -/
def isEmpty (span : Span) : Bool :=
  span.start == span.stop

/-- The least span around two others. -/
def union (first second : Span) : Span where
  start := min first.start second.start
  stop := max first.stop second.stop
  start_le_stop := Nat.le_trans (Nat.min_le_left _ _)
    (Nat.le_trans first.start_le_stop (Nat.le_max_left _ _))

end Span

/-- A line and a column, both counted from one. -/
structure Position where
  line : Nat
  column : Nat
  deriving Repr, DecidableEq

namespace Position

/-- The place of the first character of a text. -/
def origin : Position := ⟨1, 1⟩

instance : Inhabited Position := ⟨origin⟩

/-- Line and column, separated by a colon. -/
def display (position : Position) : String :=
  s!"{position.line}:{position.column}"

/-- The position behind a character. -/
def after (position : Position) (char : Char) : Position :=
  if char = '\n' then ⟨position.line + 1, 1⟩ else ⟨position.line, position.column + 1⟩

/-- The position behind a text. -/
def afterText (position : Position) (text : List Char) : Position :=
  text.foldl after position

end Position

end BoxDiagram
