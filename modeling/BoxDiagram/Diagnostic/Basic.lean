import BoxDiagram.Diagnostic.Code
import BoxDiagram.Text.Span

namespace BoxDiagram

/-!
# Messages about a diagram's text
-/

/-- How serious a message is. -/
inductive Severity where
  | error
  | warning
  deriving Repr, DecidableEq

/-- The severity as it is shown. -/
def Severity.name : Severity → String
  | .error => "error"
  | .warning => "warning"

/-- A remark on a span of the text. -/
structure SpanLabel where
  span : Span
  message : String
  /-- The span is where the mistake is, not only related to it. -/
  isPrimary : Bool
  deriving Repr, DecidableEq

/-- A message with the places in the text that it is about. -/
structure Diagnostic where
  severity : Severity
  code : Option DiagnosticCode
  message : String
  labels : List SpanLabel
  position : Option Position
  help : Option String
  deriving Repr, DecidableEq

namespace Diagnostic

/-- An error of a known kind, without places. -/
def error (code : DiagnosticCode) (message : String) : Diagnostic where
  severity := .error
  code := some code
  message := message
  labels := []
  position := none
  help := none

/-- The message with a remark on the span of the mistake. -/
def mark (diagnostic : Diagnostic) (span : Span) (remark : String) : Diagnostic :=
  { diagnostic with labels := diagnostic.labels ++ [⟨span, remark, true⟩] }

/-- The message with a remark on a related span. -/
def relate (diagnostic : Diagnostic) (span : Span) (remark : String) : Diagnostic :=
  { diagnostic with labels := diagnostic.labels ++ [⟨span, remark, false⟩] }

/-- The message with the line and column of the mistake. -/
def locate (diagnostic : Diagnostic) (position : Position) : Diagnostic :=
  { diagnostic with position := some position }

/-- The diagnostic with a word of help. -/
def advise (diagnostic : Diagnostic) (help : String) : Diagnostic :=
  { diagnostic with help := some help }

/-- The span of the mistake: the first one that is not merely related. -/
def primarySpan? (diagnostic : Diagnostic) : Option Span :=
  (diagnostic.labels.find? (·.isPrimary)).map (·.span)

/-- The diagnostic on one line, with its code and its place. -/
def display (diagnostic : Diagnostic) : String :=
  let code := match diagnostic.code with
    | some code => s!"[{code.name}]"
    | none => ""
  let place := match diagnostic.position with
    | some position => s!" (at {position.display})"
    | none => ""
  s!"{diagnostic.severity.name}{code}: {diagnostic.message}{place}"

end Diagnostic

/-- Why a text is no diagram: its messages in the order in which they arose. -/
structure ParseError where
  diagnostics : List Diagnostic
  deriving Repr, DecidableEq

namespace ParseError

/-- The error that consists of one message. -/
def ofDiagnostic (diagnostic : Diagnostic) : ParseError := ⟨[diagnostic]⟩

/-- The first message and the number of the others. -/
def display (error : ParseError) : String :=
  match error.diagnostics with
  | [] => ""
  | [single] => single.display
  | first :: others => s!"{first.display} (+{others.length} more)"

end ParseError

end BoxDiagram
