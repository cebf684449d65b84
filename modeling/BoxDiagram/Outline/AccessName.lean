import BoxDiagram.Diagnostic.Basic
import BoxDiagram.Text.Char
import BoxDiagram.Text.Newline

namespace BoxDiagram.AccessName

/-!
# Access names

An access name is a sequence of segments separated by points. A segment is bare,
one or more word characters, or quoted; inside quotes a backslash stands before a
quote or a backslash and nowhere else. The canonical form quotes exactly the
segments that cannot be bare.
-/

/-- Why a text does not start with a segment. -/
inductive Failure where
  | unterminatedQuote
  | invalidEscape
  | missingSegment
  deriving Repr, DecidableEq

namespace Failure

/-- The code under which a failure is reported. -/
def code : Failure → DiagnosticCode
  | .unterminatedQuote => .unterminatedString
  | .invalidEscape => .invalidEscape
  | .missingSegment => .invalidAccessName

/-- The reason as it is told. -/
def message : Failure → String
  | .unterminatedQuote => "unterminated quoted segment"
  | .invalidEscape => "invalid escape sequence in quoted segment"
  | .missingSegment => "expected a bare or quoted segment"

end Failure

/-- The text up to the closing quote, decoded, and what follows the quote. -/
def quoted : List Char → Except Failure (List Char × List Char)
  | [] => .error .unterminatedQuote
  | '"' :: rest => .ok ([], rest)
  | '\\' :: '"' :: rest => (quoted rest).map fun (text, after) => ('"' :: text, after)
  | '\\' :: '\\' :: rest => (quoted rest).map fun (text, after) => ('\\' :: text, after)
  | char :: rest =>
      if char = '\\' then .error .invalidEscape
      else (quoted rest).map fun (text, after) => (char :: text, after)

/-- The segment at the start of a text, and what follows it. -/
def segment (text : List Char) : Except Failure (List Char × List Char) :=
  match text with
  | '"' :: rest => quoted rest
  | _ =>
      match text.takeWhile Text.isWordChar with
      | [] => .error .missingSegment
      | bare => .ok (bare, text.dropWhile Text.isWordChar)

/--
The segments that follow at points, and the rest of the text. A point that no
segment follows is left in the rest; a broken quoted segment is a failure. The
first argument bounds the number of segments.
-/
def moreSegments : Nat → List Char → Except Failure (List String × List Char)
  | limit + 1, '.' :: rest =>
      match segment rest with
      | .ok (first, after) =>
          (moreSegments limit after).map fun (segments, remaining) =>
            (String.ofList first :: segments, remaining)
      | .error .missingSegment => .ok ([], '.' :: rest)
      | .error failure => .error failure
  | _, text => .ok ([], text)

/-- The longest sequence of segments at the start of a text, and what follows it. -/
def segments (text : List Char) : Except Failure (List String × List Char) := do
  let (first, after) ← segment text
  let (others, rest) ← moreSegments after.length after
  return (String.ofList first :: others, rest)

/-- The segments of an access name; the empty name has none. -/
def toPath (name : String) : Except Diagnostic (List String) :=
  let text := name.toList
  if text.isEmpty then .ok []
  else
    match segments text with
    | .error failure =>
        .error <| (Diagnostic.error failure.code failure.message).mark
          (.between 0 (Text.byteLength text)) "in this access name"
    | .ok (path, []) => .ok path
    | .ok (_, rest) =>
        let message := s!"unexpected `{String.ofList rest}` in access name"
        .error <| (Diagnostic.error .invalidAccessName message).mark
          (.between (Text.byteLength text - Text.byteLength rest) (Text.byteLength text))
          "not part of a path"

/-- The text with a backslash before each quote and each backslash. -/
def escape : List Char → List Char
  | [] => []
  | char :: rest =>
      if char = '"' ∨ char = '\\' then '\\' :: char :: escape rest else char :: escape rest

/-- The segment can be written without quotes. -/
def isBare (text : List Char) : Bool :=
  !text.isEmpty && text.all Text.isWordChar

/-- A segment as it is written: bare where that can be read back, else quoted. -/
def writeSegment (segment : String) : List Char :=
  let text := segment.toList
  if isBare text then text else '"' :: escape text ++ ['"']

/-- The canonical form of the given segments. -/
def write : List String → List Char
  | [] => []
  | [segment] => writeSegment segment
  | segment :: rest => writeSegment segment ++ '.' :: write rest

/-- The canonical access name of a path. -/
def ofPath (path : List String) : String :=
  String.ofList (write path)

end BoxDiagram.AccessName
