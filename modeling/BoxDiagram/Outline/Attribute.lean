import BoxDiagram.Outline.Basic
import BoxDiagram.Outline.Cursor

namespace BoxDiagram.Outline

/-!
# Reading attributes

An attribute is a key, or a key and a value with an equals sign and no blank
between them. A value is a run of plain characters or a quoted text.
-/

/-- A character that may stand in a value without quotes. -/
def isValueChar (char : Char) : Bool :=
  Text.isAlphanumeric char || ['_', ',', '.', '+', '-'].contains char

/-- The error of a quoted text that opens at a place and reaches the end of the text. -/
def unterminatedString (opening finish : Cursor) : Diagnostic :=
  (opening.fail .unterminatedString "unterminated quoted string" (opening.spanTo finish)
    "string starts here").advise "add a closing `\"`"

/-- The error of a backslash at a place that does not stand before a quote or a backslash. -/
def unknownEscape (backslash finish : Cursor) : Diagnostic :=
  (backslash.fail .invalidEscape "invalid escape sequence" (backslash.spanTo finish)
    "unknown escape").advise "only `\\\"` and `\\\\` are escapes"

/--
The characters of a quoted text from a place inside it, decoded, and the place
after the closing quote. The first argument bounds the number of characters.
-/
def quotedText (opening : Cursor) : Nat → Cursor → Except Diagnostic (List Char × Cursor)
  | 0, cursor => .error (unterminatedString opening cursor)
  | limit + 1, cursor =>
      match cursor.rest with
      | [] => .error (unterminatedString opening cursor)
      | '"' :: _ => .ok ([], cursor.advance 1)
      | '\\' :: following =>
          match following with
          | '"' :: _ =>
              (quotedText opening limit (cursor.advance 2)).map fun (text, after) =>
                ('"' :: text, after)
          | '\\' :: _ =>
              (quotedText opening limit (cursor.advance 2)).map fun (text, after) =>
                ('\\' :: text, after)
          | _ => .error (unknownEscape cursor (cursor.advance 2))
      | char :: _ =>
          (quotedText opening limit (cursor.advance 1)).map fun (text, after) =>
            (char :: text, after)

/-- The quoted text whose opening quote stands at a place, and the place after it. -/
def quotedString (opening : Cursor) : Except Diagnostic (String × Cursor) :=
  (quotedText opening opening.rest.length (opening.advance 1)).map fun (text, after) =>
    (String.ofList text, after)

/-- The value at a place after an equals sign; the arguments say where the attribute starts. -/
def attributeValue (start : Cursor) (key : String) (cursor : Cursor) :
    Except Diagnostic (String × Cursor) :=
  let missing : Diagnostic :=
    start.fail .unexpectedConstruct s!"expected a value after `{key}=`" (start.spanTo cursor)
      "missing value"
  match cursor.peek? with
  | some '"' => quotedString cursor
  | some char =>
      if isValueChar char then
        let (value, after) := cursor.takeWhile isValueChar
        .ok (String.ofList value, after)
      else .error missing
  | none => .error missing

/-- The attribute at a place, and the place after it. -/
def readAttribute (start : Cursor) : Except Diagnostic (Attribute × Cursor) := do
  let (letters, afterKey) := start.takeWhile Text.isWordChar
  let key := String.ofList letters
  if afterKey.peek? = some '=' then
    let (value, after) ← attributeValue start key (afterKey.advance 1)
    return (⟨key, some value, start.spanTo after, start.position⟩, after)
  else
    return (⟨key, none, start.spanTo afterKey, start.position⟩, afterKey)

/-- The error of a header that opens at a place and reaches the end of the text. -/
def unterminatedHeader (header finish : Cursor) (closer : Char) : Diagnostic :=
  (header.fail .unterminatedHeader "unterminated header" (header.spanTo finish)
    "header starts here").advise s!"close the header with `{closer}`"

/--
The attributes up to the closing character of a header, and the place of that
character. The first argument bounds their number.
-/
def attributesWithin (header : Cursor) (closer : Char) :
    Nat → Cursor → Except Diagnostic (List Attribute × Cursor)
  | 0, cursor => .error (unterminatedHeader header cursor closer)
  | limit + 1, cursor =>
      let next := cursor.skipTrivia
      match next.peek? with
      | none => .error (unterminatedHeader header next closer)
      | some char =>
          if char = closer then .ok ([], next)
          else if Text.isWordChar char then
            match readAttribute next with
            | .error diagnostic => .error diagnostic
            | .ok (first, after) =>
                (attributesWithin header closer limit after).map fun (others, finish) =>
                  (first :: others, finish)
          else .error (next.unexpected "inside a header")

/-- The attributes up to the closing character of a header, and the place of that character. -/
def attributesUntil (header : Cursor) (closer : Char) (cursor : Cursor) :
    Except Diagnostic (List Attribute × Cursor) :=
  attributesWithin header closer (cursor.rest.length + 1) cursor

/--
The attributes up to the end of a line, and the place of the line end. The first
argument bounds the number of attributes and comments.
-/
def attributesOnLine : Nat → Cursor → Except Diagnostic (List Attribute × Cursor)
  | 0, cursor => .ok ([], cursor)
  | limit + 1, cursor =>
      let next := cursor.skipGaps
      match next.peek? with
      | none => .ok ([], next)
      | some '\n' => .ok ([], next)
      | some '#' => attributesOnLine limit next.skipComment
      | some char =>
          if Text.isWordChar char then
            match readAttribute next with
            | .error diagnostic => .error diagnostic
            | .ok (first, after) =>
                (attributesOnLine limit after).map fun (others, finish) =>
                  (first :: others, finish)
          else .error (next.unexpected "in a root separator line")

/-- The attributes up to the end of a line, and the place of the line end. -/
def attributesUntilLineEnd (cursor : Cursor) : Except Diagnostic (List Attribute × Cursor) :=
  attributesOnLine (cursor.rest.length + 1) cursor

end BoxDiagram.Outline
