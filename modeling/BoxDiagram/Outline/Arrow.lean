import BoxDiagram.Outline.Basic
import BoxDiagram.Outline.Cursor

namespace BoxDiagram.Outline

/-!
# Reading arrows

An arrow is a run of arrow characters, perhaps between two digits that number the
sides at which the link leaves and arrives. A run that starts with the left angle
or ends with the right angle has a head there; what remains without the angles is
the kind of the link.
-/

/-- A character of which arrows are made. -/
def isArrowChar (char : Char) : Bool :=
  ['-', '=', '.', '~', '<', '>'].contains char

/-- An arrow can stand at a place. -/
def arrowAhead (cursor : Cursor) : Bool :=
  match cursor.peek? with
  | some char =>
      isArrowChar char || (char.isDigit && cursor.second?.any isArrowChar)
  | none => false

/-- The kind of a link whose arrow is a run of characters. -/
def arrowKind (body : List Char) : List Char :=
  let bare := ((body.dropWhile (· == '<')).reverse.dropWhile (· == '>')).reverse
  if bare.isEmpty then ['-'] else bare

/-- The arrow of a run of characters between two optional sides. -/
def Arrow.ofBody (body : List Char) (sourceEdge targetEdge : Option Direction) : Arrow where
  kind := String.ofList (arrowKind body)
  startHead := body.head? == some '<'
  endHead := body.getLast? == some '>'
  sourceEdge := sourceEdge
  targetEdge := targetEdge

/-- How an arrow is written: the run of characters between its sides. -/
def Arrow.write (arrow : Arrow) : List Char :=
  edge arrow.sourceEdge ++ (if arrow.startHead then ['<'] else []) ++ arrow.kind.toList ++
    (if arrow.endHead then ['>'] else []) ++ edge arrow.targetEdge
where
  /-- The digit of a side. -/
  edge : Option Direction → List Char
    | some direction => [Nat.digitChar direction.index]
    | none => []

/-- The side numbered by the digit at a place of an arrow, and the place after it. -/
def readEdge (start cursor : Cursor) : Except Diagnostic (Direction × Cursor) :=
  let after := cursor.advance 1
  match cursor.peek?.bind fun digit => Direction.ofIndex? (digit.toNat - '0'.toNat) with
  | some direction => .ok (direction, after)
  | none =>
      .error <| (start.fail .invalidArrow "link edge must be 0, 1, 2 or 3"
        (cursor.spanTo after) "invalid edge").relate (start.spanTo after) "in this link-type token"

/-- The next character is a digit. -/
def digitAhead (cursor : Cursor) : Bool :=
  cursor.peek?.any Char.isDigit

/-- The digit at a place ends there, so that it belongs to an arrow before it. -/
def edgeAhead (cursor : Cursor) : Bool :=
  digitAhead cursor && !cursor.second?.any Text.isWordChar

/-- The side at a place, if its digit belongs to the arrow, and the place after it. -/
def readEdge? (start cursor : Cursor) (present : Bool) :
    Except Diagnostic (Option Direction × Cursor) :=
  if present then (readEdge start cursor).map fun (direction, after) => (some direction, after)
  else .ok (none, cursor)

/-- The arrow at a place, and the place after it. -/
def readArrow (start : Cursor) : Except Diagnostic (Arrow × Cursor) := do
  let (sourceEdge, beforeBody) ← readEdge? start start (digitAhead start)
  let (body, afterBody) := beforeBody.takeWhile isArrowChar
  if body.isEmpty then
    throw (start.fail .invalidArrow "link-type token needs a body such as `->`"
      (start.spanTo afterBody) "missing body")
  let (targetEdge, after) ← readEdge? start afterBody (edgeAhead afterBody)
  return (.ofBody body sourceEdge targetEdge, after)

end BoxDiagram.Outline
