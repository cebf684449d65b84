import BoxDiagram.Outline.AccessName
import BoxDiagram.Outline.Basic
import BoxDiagram.Outline.Cursor

namespace BoxDiagram.Outline

/-!
# Reading what a header refers to

A path may start with a point: then it is followed from the container that is
open, otherwise from the root. The end of a link is a path, a name after an
ampersand, or a tag after a dollar sign.
-/

/-- A path as written. -/
structure WrittenPath where
  /-- The path is followed from the open container. -/
  relative : Bool
  segments : List String
  span : Span
  deriving Repr, DecidableEq

/-- A path may start with the character. -/
def startsPath (char : Char) : Bool :=
  char == '.' || char == '"' || Text.isWordChar char

/-- A path can stand at a place. -/
def pathAhead (cursor : Cursor) : Bool :=
  cursor.peek?.any startsPath

/-- The place at which a text of the given rest starts, further on from a cursor. -/
def advanceTo (cursor : Cursor) (rest : List Char) : Cursor :=
  cursor.advance (cursor.rest.length - rest.length)

/-- The path at a place, and the place after it. -/
def readPath (start : Cursor) : Except Diagnostic (WrittenPath × Cursor) :=
  let relative := start.peek? = some '.'
  let first := if relative then start.advance 1 else start
  match AccessName.segments first.rest with
  | .ok (segments, rest) =>
      let after := advanceTo first rest
      .ok (⟨relative, segments, start.spanTo after⟩, after)
  | .error failure =>
      let broken := first.skipWhile (!Text.isBlank ·)
      .error (start.fail failure.code failure.message (start.spanTo broken) "in this path")

/-- The segment after a selector character at a place, and the place after the segment. -/
def readSelected (start : Cursor) : Except Diagnostic (String × Cursor) :=
  let first := start.advance 1
  match AccessName.segment first.rest with
  | .ok (segment, rest) => .ok (String.ofList segment, advanceTo first rest)
  | .error failure =>
      .error
        (start.fail failure.code failure.message (start.spanTo first) "after this selector")

/-- The end of a link at a place, while a container is open, and the place after it. -/
def readEnd (container : Address) (start : Cursor) : Except Diagnostic (End × Cursor) := do
  match start.peek? with
  | some '&' =>
      let (name, after) ← readSelected start
      return (⟨.name name, start.spanTo after, start.position⟩, after)
  | some '$' =>
      let (tag, after) ← readSelected start
      return (⟨.tag tag, start.spanTo after, start.position⟩, after)
  | _ =>
      if pathAhead start then
        let (path, after) ← readPath start
        let base := if path.relative then container else []
        return (⟨.path base path.segments, start.spanTo after, start.position⟩, after)
      else
        throw (start.unexpected "where a link endpoint was expected")

end BoxDiagram.Outline
