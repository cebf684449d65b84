import BoxDiagram.Diagram.Document
import BoxDiagram.Number.Decimal
import BoxDiagram.Outline.Basic
import BoxDiagram.Text.Char

namespace BoxDiagram

/-!
# Values of attributes

Each reader below accepts the values of one form and otherwise says what form was
expected.
-/

namespace Outline.Attribute

/-- The error that an attribute has no value, or one of the wrong form. -/
def invalid (written : Attribute) (expected : String) : Diagnostic :=
  let message := match written.value with
    | some value => s!"invalid value `{value}` for `{written.key}`"
    | none => s!"attribute `{written.key}` needs a value"
  ((Diagnostic.error .invalidValue message).mark written.span s!"expected {expected}").locate
    written.position

/-- The value that a reader of texts finds in an attribute. -/
def valueAs {β : Type} (written : Attribute) (expected : String) (read? : String → Option β) :
    Except Diagnostic β :=
  match written.value.bind read? with
  | some value => .ok value
  | none => .error (written.invalid expected)

/-- The coordinate of a text, finite and not below zero. -/
def measure? {α : Type} [Scalar α] (text : List Char) : Option α :=
  ((Decimal.read? text).map Decimal.value).filter Scalar.isMeasure

/-- The insets of a text: one, two or four numbers between commas. -/
def insets? {α : Type} [Scalar α] (text : List Char) : Option (Insets α) :=
  ((Text.splitOn ',' text).mapM measure?).bind Insets.ofShorthand?

/-- The largest number that a count may have. -/
def maxCount : Nat := Nat.pow 2 64 - 1

/-- The count that a text spells, if it is not too large. -/
def count? (text : List Char) : Option Nat :=
  (Decimal.unsigned? text).filter (· ≤ maxCount)

/-- The tags of a text, without the blanks around them. -/
def tags (text : List Char) : List String :=
  (((Text.splitOn ',' text).map Text.trim).filter (!·.isEmpty)).map String.ofList

/-- The attribute as a number that is not negative. -/
def asMeasure {α : Type} [Scalar α] (written : Attribute) : Except Diagnostic α :=
  written.valueAs "a non-negative number" fun text => measure? text.toList

/-- The attribute as a count. -/
def asCount (written : Attribute) : Except Diagnostic Nat :=
  written.valueAs "a whole number" fun text => count? text.toList

/-- The attribute as the strips of all sides. -/
def asInsets {α : Type} [Scalar α] (written : Attribute) : Except Diagnostic (Insets α) :=
  written.valueAs "1, 2 or 4 non-negative numbers separated by `,`" fun text =>
    insets? text.toList

/-- The attribute as a flow. -/
def asFlow (written : Attribute) : Except Diagnostic Flow :=
  written.valueAs "row, column, row_reverse, column_reverse, main or cross" Flow.ofName?

/-- The attribute as an alignment. -/
def asAlignment (written : Attribute) : Except Diagnostic Alignment :=
  written.valueAs "start, center or end" Alignment.ofName?

/-- The attribute as it is. -/
def asText (written : Attribute) : Except Diagnostic String :=
  written.valueAs "text" some

/-- The attribute as a list of tags with at least one of them. -/
def asTags (written : Attribute) : Except Diagnostic (List String) := do
  let text ← written.valueAs "a comma separated list of tags" some
  match tags text.toList with
  | [] => throw (written.invalid "at least one tag")
  | found => return found

end Outline.Attribute

end BoxDiagram
