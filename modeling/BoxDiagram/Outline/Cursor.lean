import BoxDiagram.Text.Char
import BoxDiagram.Diagnostic.Basic

namespace BoxDiagram

/-!
# A place in the text that is being read

A cursor holds the text that is still to be read, with the byte offset and the
line and column at which it starts.
-/

/-- A place in a text. -/
structure Cursor where
  /-- The text from here on. -/
  rest : List Char
  /-- The number of bytes before. -/
  offset : Nat
  position : Position
  /-- Only spaces and tabs stand before on the same line. -/
  lineBlank : Bool
  deriving Repr, DecidableEq

namespace Cursor

/-- Before the first character of a text. -/
def start (text : List Char) : Cursor where
  rest := text
  offset := 0
  position := .origin
  lineBlank := true

/-- The characters that separate parts of a line. -/
def isGap (char : Char) : Bool :=
  char == ' ' || char == '\t'

/-- The place after a character that stands here, with the text that follows it. -/
def past (cursor : Cursor) (char : Char) (rest : List Char) : Cursor where
  rest := rest
  offset := cursor.offset + char.utf8Size
  position := cursor.position.after char
  lineBlank := char == '\n' || (cursor.lineBlank && isGap char)

/-- The place a number of characters further, at most the end of the text. -/
def advance (cursor : Cursor) : Nat → Cursor
  | 0 => cursor
  | count + 1 =>
      match cursor.rest with
      | [] => cursor
      | char :: rest => (cursor.past char rest).advance count

/-- The next character. -/
def peek? (cursor : Cursor) : Option Char :=
  cursor.rest.head?

/-- The character after the next one. -/
def second? (cursor : Cursor) : Option Char :=
  cursor.rest[1]?

/-- The characters of a class that stand here, and the place after them. -/
def takeWhile (cursor : Cursor) (accept : Char → Bool) : List Char × Cursor :=
  let taken := cursor.rest.takeWhile accept
  (taken, cursor.advance taken.length)

/-- The place after the characters of a class that stand here. -/
def skipWhile (cursor : Cursor) (accept : Char → Bool) : Cursor :=
  (cursor.takeWhile accept).2

/-- Behind the gaps that are next. -/
def skipGaps (cursor : Cursor) : Cursor :=
  cursor.skipWhile isGap

/-- The end of the line, reached over a comment. -/
def skipComment (cursor : Cursor) : Cursor :=
  cursor.skipWhile (· != '\n')

/-- The place after at most a number of runs of blanks, each followed by a comment or not. -/
def skipRuns (cursor : Cursor) : Nat → Cursor
  | 0 => cursor
  | count + 1 =>
      let next := cursor.skipWhile Text.isBlank
      if next.peek? = some '#' then next.skipComment.skipRuns count else next

/-- The place after blanks, line ends and comments. -/
def skipTrivia (cursor : Cursor) : Cursor :=
  cursor.skipRuns (cursor.rest.length + 1)

/-- The span from one place to a later one. -/
def spanTo (cursor next : Cursor) : Span :=
  .between cursor.offset next.offset

/-- An error at a place, about a span. -/
def fail
    (cursor : Cursor)
    (code : DiagnosticCode)
    (message : String)
    (span : Span)
    (remark : String) : Diagnostic :=
  ((Diagnostic.error code message).mark span remark).locate cursor.position

/-- The error that the next character has no meaning here. -/
def unexpected (cursor : Cursor) (context : String) : Diagnostic :=
  let message := match cursor.peek? with
    | some char => s!"unexpected character `{char}` {context}"
    | none => s!"unexpected end of input {context}"
  cursor.fail .unexpectedCharacter message (cursor.spanTo (cursor.advance 1)) "not valid here"

end Cursor

end BoxDiagram
