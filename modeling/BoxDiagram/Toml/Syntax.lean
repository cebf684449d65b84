import BoxDiagram.Toml.Table
import BoxDiagram.Toml.Text

namespace BoxDiagram.Toml

/-!
# Statements of TOML

A document is a list of statements: a value is given to a key, or a table is
opened under a key.
-/

/-- A statement of a document. -/
inductive Statement where
  | assign (key : Key) (value : ConfigValue)
  | openTable (key : Key)
  | openItem (key : Key)
  deriving Repr

/-- The character may stand in a name without quotes. -/
def isBare (char : Char) : Bool :=
  char.isAlphanum || char == '_' || char == '-'

/-- A part of a key, quoted or bare, and the text behind it. -/
def name (text : List Char) : Option (String × List Char) :=
  match text with
  | '"' :: rest => (quoted '"' rest).map fun (chars, rest) => (String.ofList chars, rest)
  | '\'' :: rest => (quoted '\'' rest).map fun (chars, rest) => (String.ofList chars, rest)
  | _ =>
      let chars := text.takeWhile isBare
      if chars.isEmpty then none else some (String.ofList chars, text.dropWhile isBare)

/-- The greatest number of names of a key, and of brackets around a value in a value. -/
def depthLimit : Nat := 80

/-- Names with points between them, of at most a given number. -/
def names : Nat → List Char → Option (Key × List Char)
  | 0, _ => none
  | count + 1, text => do
      let (first, rest) ← name (skipSpaces text)
      match skipSpaces rest with
      | '.' :: rest =>
          let (others, rest) ← names count rest
          return (first :: others, rest)
      | rest => return ([first], rest)

/-- A key: names with points between them. -/
def key (text : List Char) : Option (Key × List Char) := names depthLimit text

/-- The characters that end a word that is not quoted. -/
def endsWord (char : Char) : Bool :=
  char == '\n' || char == '\r' || char == '#' || char == ',' || char == '=' ||
    char == '[' || char == ']' || char == '{' || char == '}'

/--
The characters of a word. Blanks stand only between others, and a quote after a
blank belongs to a text and not to the word.
-/
def wordChars : List Char → List Char
  | [] => []
  | char :: rest =>
      if endsWord char then []
      else
        match isSpace char, wordChars rest with
        | true, [] | true, '"' :: _ | true, '\'' :: _ => []
        | _, others => char :: others

/-- A value that is a single word, and the text behind it. -/
def word (text : List Char) : Option (ConfigValue × List Char) :=
  let chars := wordChars text
  (word? chars).map fun value => (value, text.drop chars.length)

mutual

/--
A value; the first argument bounds its length, and the second one the number of
brackets around a value in it.
-/
def value : Nat → Nat → List Char → Option (ConfigValue × List Char)
  | 0, _, _ => none
  | bound + 1, depth, text =>
      match text, depth with
      | '"' :: rest, _ =>
          (anyText '"' rest).map fun (chars, rest) => (.text (String.ofList chars), rest)
      | '\'' :: rest, _ =>
          (anyText '\'' rest).map fun (chars, rest) => (.text (String.ofList chars), rest)
      | '[' :: rest, depth + 1 =>
          (listItems bound depth rest).map fun (items, rest) => (.list items, rest)
      | '{' :: rest, depth + 1 => do
          let (entries, rest) ← tableItems bound depth [] rest
          return (.table (entriesValue entries), rest)
      | _, _ => word text

/-- The items of a list up to its closing bracket. -/
def listItems : Nat → Nat → List Char → Option (List ConfigValue × List Char)
  | 0, _, _ => none
  | bound + 1, depth, text => do
      match ← skipLines text.length text with
      | ']' :: rest => return ([], rest)
      | start => do
          let (first, rest) ← value bound depth start
          match ← skipLines rest.length rest with
          | ',' :: rest => do
              let (others, rest) ← listItems bound depth rest
              return (first :: others, rest)
          | ']' :: rest => return ([first], rest)
          | _ => none

/-- The entries of a table between braces up to the closing one. -/
def tableItems : Nat → Nat → Entries → List Char → Option (Entries × List Char)
  | 0, _, _, _ => none
  | bound + 1, depth, entries, text => do
      match ← skipLines text.length text with
      | '}' :: rest => return (entries, rest)
      | start => do
          let (path, rest) ← key start
          match ← skipLines rest.length rest with
          | '=' :: rest => do
              let (found, rest) ← value bound depth (← skipLines rest.length rest)
              let entries ← assign found path entries
              match ← skipLines rest.length rest with
              | ',' :: rest => tableItems bound depth entries rest
              | '}' :: rest => return (entries, rest)
              | _ => none
          | _ => none

end

/-- A key after a bracket, and the rest after the given closing brackets. -/
def header (brackets : List Char) (text : List Char) : Option (Key × List Char) := do
  let (path, rest) ← key text
  if brackets.isPrefixOf rest then return (path, rest.drop brackets.length) else none

/-- One statement, and the text behind it. -/
def statement (text : List Char) : Option (Statement × List Char) :=
  match text with
  | '[' :: '[' :: rest => (header [']', ']'] rest).map fun (path, rest) => (.openItem path, rest)
  | '[' :: rest => (header [']'] rest).map fun (path, rest) => (.openTable path, rest)
  | _ => do
      let (path, rest) ← key text
      match rest with
      | '=' :: rest => do
          let (found, rest) ← value (2 * rest.length + 2) depthLimit (skipSpaces rest)
          return (.assign path found, rest)
      | _ => none

/-- The statements of a text, of at most a given number. -/
def statements : Nat → List Char → Option (List Statement)
  | 0, _ => some []
  | count + 1, text => do
      match ← skipLines (text.length + 1) text with
      | [] => return []
      | start => do
          let (first, rest) ← statement start
          let rest ← skipComment (skipSpaces rest)
          if rest.isEmpty then return [first]
          let next ← lineEnd? rest
          return first :: (← statements count next)

end BoxDiagram.Toml
