import BoxDiagram.Diagnostic.Failure
import BoxDiagram.Text.Newline

namespace BoxDiagram

/-!
# Reports

A report shows a failure to whoever wrote the diagram. Each message about a text
becomes a report of its own, with the text and the marked ranges in it; any other
failure becomes one report.
-/

namespace Text

/-- The text after a number of lines, and the number of bytes before it. -/
def dropLines : Nat → List Char → Nat × List Char
  | 0, text => (0, text)
  | _ + 1, [] => (0, [])
  | count + 1, char :: rest =>
      let (skipped, remaining) := dropLines (if char = '\n' then count else count + 1) rest
      (skipped + char.utf8Size, remaining)

/-- The first line of a text, without the line feed or carriage return and line feed that end it. -/
def firstLine : List Char → List Char
  | [] => []
  | '\n' :: _ => []
  | '\r' :: '\n' :: _ => []
  | char :: rest => char :: firstLine rest

/--
The span of the character at a position, or the empty span at the end of the line
when the line is shorter. There is none before the first line or column.
-/
def spanAt? (text : List Char) (position : Position) : Option Span :=
  if position.line = 0 ∨ position.column = 0 then none
  else
    let (before, rest) := dropLines (position.line - 1) text
    let shown := firstLine rest
    let start := before + byteLength (shown.take (position.column - 1))
    match shown[position.column - 1]? with
    | some char => some (.between start (start + char.utf8Size))
    | none => some (.between start start)

end Text

/-- A failure as it is shown. -/
structure Report where
  display : String
  code : Option String
  help : Option String
  /-- The report shows the text of the diagram. -/
  hasSource : Bool
  /-- What made the failure happen. -/
  cause : Option String
  /-- The marked ranges of the text, if any can be shown. -/
  labels : Option (List SpanLabel)
  deriving Repr, DecidableEq

namespace Report

/-- What is said about failures that no diagram should cause. -/
def internalHelp : String :=
  "this is an internal error of tessera, not a problem with the diagram; please report it"

/-- The marked ranges for a message: its own, or the character at its position. -/
def labelsFor (source : String) (diagnostic : Diagnostic) : Option (List SpanLabel) :=
  if diagnostic.labels.isEmpty then do
    let position ← diagnostic.position
    let span ← Text.spanAt? source.toList position
    return [⟨span, s!"line {position.line}, column {position.column}", true⟩]
  else some diagnostic.labels

/-- The report of a message about a text. -/
def ofDiagnostic (source : String) (diagnostic : Diagnostic) : Report where
  display := diagnostic.message
  code := diagnostic.code.map (·.name)
  help := diagnostic.help
  hasSource := true
  cause := none
  labels := labelsFor source diagnostic

/-- The report of a failure as a whole. -/
def ofFailure (failure : Failure) : Report where
  display := failure.display
  code := match failure with
    | .io _ => some "tessera::io"
    | .stage code _ => some code.name
    | .parse .. | .fault _ => none
  help := if failure.isInternal then some internalHelp else none
  hasSource := false
  cause := match failure with
    | .io message => some message
    | _ => none
  labels := none

/-- The reports of a failure: one for each diagnostic, else one for all of it. -/
def list : Failure → List Report
  | .parse error source => error.diagnostics.map (ofDiagnostic source)
  | failure => [ofFailure failure]

end Report

end BoxDiagram
