namespace BoxDiagram

/-!
# JSON texts

Values with the fields of objects in the order in which they are written, and
their two written forms: on one line without blanks, and indented.
-/

/-- A JSON value. A number is kept as its text. -/
inductive Json where
  | null
  | bool (value : Bool)
  | number (text : String)
  | string (value : String)
  | array (items : List Json)
  | object (fields : List (String × Json))
  deriving Repr

namespace Json

/-- A whole number. -/
def ofNat (value : Nat) : Json := .number (toString value)

/-- The value, or null where there is none. -/
def ofOption {β : Type} (encode : β → Json) : Option β → Json
  | some value => encode value
  | none => .null

/-- The list of the values of a list. -/
def ofList {β : Type} (encode : β → Json) (values : List β) : Json :=
  .array (values.map encode)

/-- The digit of a value below 16. -/
def hexDigit (value : Nat) : Char :=
  if value < 10 then Char.ofNat ('0'.toNat + value) else Char.ofNat ('a'.toNat + value - 10)

/-- A character as it is written between quotes. -/
def escape (char : Char) : List Char :=
  match char with
  | '"' => ['\\', '"']
  | '\\' => ['\\', '\\']
  | '\n' => ['\\', 'n']
  | '\r' => ['\\', 'r']
  | '\t' => ['\\', 't']
  | '\x08' => ['\\', 'b']
  | '\x0c' => ['\\', 'f']
  | _ =>
      if char.toNat < 32 then
        ['\\', 'u', '0', '0', hexDigit (char.toNat / 16), hexDigit (char.toNat % 16)]
      else [char]

/-- A text in quotes, with all escapes. -/
def quote (text : String) : String :=
  String.ofList ('"' :: text.toList.flatMap escape ++ ['"'])

/-- A line end with the indentation of a level. -/
def lineEnd (level : Nat) : String :=
  String.ofList ('\n' :: List.replicate (2 * level) ' ')

/-- Parts between brackets, each on a line of its own. -/
def indented (left right : String) (level : Nat) (parts : List String) : String :=
  if parts.isEmpty then left ++ right
  else
    let separator := "," ++ lineEnd (level + 1)
    left ++ lineEnd (level + 1) ++ separator.intercalate parts ++ lineEnd level ++ right

/-- The brace that opens an object. -/
def openBrace : String := "\x7b"

/-- The brace that closes an object. -/
def closeBrace : String := "\x7d"

mutual

/-- The text of a value on one line without blanks. -/
def compact : Json → String
  | .null => "null"
  | .bool value => if value then "true" else "false"
  | .number text => text
  | .string value => quote value
  | .array items => "[" ++ ",".intercalate (compactItems items) ++ "]"
  | .object fields => openBrace ++ ",".intercalate (compactFields fields) ++ closeBrace

/-- The texts of the items of an array. -/
def compactItems : List Json → List String
  | [] => []
  | item :: rest => compact item :: compactItems rest

/-- The texts of the fields of an object. -/
def compactFields : List (String × Json) → List String
  | [] => []
  | (name, value) :: rest => (quote name ++ ":" ++ compact value) :: compactFields rest

end

mutual

/-- The indented text of a value at a level of nesting. -/
def pretty (level : Nat) : Json → String
  | .null => "null"
  | .bool value => if value then "true" else "false"
  | .number text => text
  | .string value => quote value
  | .array items => indented "[" "]" level (prettyItems (level + 1) items)
  | .object fields => indented openBrace closeBrace level (prettyFields (level + 1) fields)

/-- The indented texts of the items of an array. -/
def prettyItems (level : Nat) : List Json → List String
  | [] => []
  | item :: rest => pretty level item :: prettyItems level rest

/-- The indented texts of the fields of an object. -/
def prettyFields (level : Nat) : List (String × Json) → List String
  | [] => []
  | (name, value) :: rest => (quote name ++ ": " ++ pretty level value) :: prettyFields level rest

end

end Json

end BoxDiagram
