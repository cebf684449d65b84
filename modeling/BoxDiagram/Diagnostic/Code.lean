namespace BoxDiagram

/-!
# Kinds of mistakes in a diagram's text

The first digit of a code tells what goes wrong: the characters (0), the
structure (1), or the values and references (2).
-/

/-- What is wrong with a text. -/
inductive DiagnosticCode where
  | unterminatedString
  | unexpectedCharacter
  | invalidEscape
  | unterminatedHeader
  | invalidArrow
  | unexpectedConstruct
  | rootConfiguredTwice
  | danglingArrow
  | invalidAccessName
  | misplacedDocumentAttribute
  | invalidValue
  | misplacedAttribute
  | unknownEndpoint
  | duplicateName
  | attributesGivenTwice
  | relatedEndpoints
  | conflictingKind
  deriving Repr, DecidableEq

namespace DiagnosticCode

/-- Every code, in the order of its name. -/
def all : List DiagnosticCode := [
  .unterminatedString, .unexpectedCharacter, .invalidEscape, .unterminatedHeader, .invalidArrow,
  .unexpectedConstruct, .rootConfiguredTwice, .danglingArrow, .invalidAccessName,
  .misplacedDocumentAttribute, .invalidValue, .misplacedAttribute, .unknownEndpoint,
  .duplicateName, .attributesGivenTwice, .relatedEndpoints, .conflictingKind]

/-- The name under which a code is documented. -/
def name : DiagnosticCode → String
  | .unterminatedString => "E001"
  | .unexpectedCharacter => "E002"
  | .invalidEscape => "E003"
  | .unterminatedHeader => "E004"
  | .invalidArrow => "E005"
  | .unexpectedConstruct => "E100"
  | .rootConfiguredTwice => "E101"
  | .danglingArrow => "E102"
  | .invalidAccessName => "E103"
  | .misplacedDocumentAttribute => "E104"
  | .invalidValue => "E200"
  | .misplacedAttribute => "E201"
  | .unknownEndpoint => "E202"
  | .duplicateName => "E203"
  | .attributesGivenTwice => "E204"
  | .relatedEndpoints => "E205"
  | .conflictingKind => "E206"

/-- The code of a name. -/
def ofName? (name : String) : Option DiagnosticCode :=
  all.find? (·.name == name)

/-- What goes wrong where the code is given. -/
def description : DiagnosticCode → String
  | .unterminatedString => "unterminated quoted string"
  | .unexpectedCharacter => "unexpected character"
  | .invalidEscape => "invalid escape sequence"
  | .unterminatedHeader => "unterminated header"
  | .invalidArrow => "invalid link-type token"
  | .unexpectedConstruct => "unexpected construct"
  | .rootConfiguredTwice => "root configured twice"
  | .danglingArrow => "dangling short link"
  | .invalidAccessName => "invalid access name"
  | .misplacedDocumentAttribute => "document attribute out of place"
  | .invalidValue => "invalid attribute value"
  | .misplacedAttribute => "attribute not allowed here"
  | .unknownEndpoint => "link endpoint matches no node"
  | .duplicateName => "duplicate name in scope"
  | .attributesGivenTwice => "attributes given twice"
  | .relatedEndpoints => "link between related nodes"
  | .conflictingKind => "conflicting box kind"

/-- No code is missing in the list of all codes. -/
theorem mem_all (code : DiagnosticCode) : code ∈ all := by
  cases code <;> simp [all]

end DiagnosticCode

end BoxDiagram
