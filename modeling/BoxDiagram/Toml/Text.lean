import BoxDiagram.Toml.Word

namespace BoxDiagram.Toml

/-!
# Blanks, comments and quoted texts of TOML

Each reader takes a text to what it reads from its start and the rest of the text.
A text stands between single or triple quotes of either kind; between double ones
a backslash starts an escape.
-/

/-- The characters that may stand between words of a line. -/
def isSpace (char : Char) : Bool := char == ' ' || char == '\t'

/-- A text without the blanks at its start. -/
def skipSpaces (text : List Char) : List Char := text.dropWhile isSpace

/-- The character may stand in a comment or between quotes. -/
def isPlain (char : Char) : Bool :=
  char == '\t' || (32 ≤ char.toNat && char.toNat ≠ 127)

/-- The rest of a text after a line end, if the text starts with one. -/
def lineEnd? : List Char → Option (List Char)
  | '\n' :: rest => some rest
  | '\r' :: '\n' :: rest => some rest
  | _ => none

/-- The rest of a text after a comment, if it starts with one; none for a wrong comment. -/
def skipComment (text : List Char) : Option (List Char) :=
  match text with
  | '#' :: rest =>
      let after := rest.dropWhile isPlain
      if after.isEmpty || (lineEnd? after).isSome then some after else none
  | _ => some text

/-- The rest of a text after blanks, comments and line ends, of at most a given number. -/
def skipLines : Nat → List Char → Option (List Char)
  | 0, text => some text
  | count + 1, text => do
      let rest ← skipComment (skipSpaces text)
      match lineEnd? rest with
      | some next => skipLines count next
      | none => some rest

/-- The character with a given number, if there is one. -/
def char? (value : Nat) : Option Char :=
  if value.isValidChar then some (Char.ofNat value) else none

/-- The character of some hexadecimal digits at the start of a text. -/
def hexChar? (count : Nat) (text : List Char) : Option (Char × List Char) := do
  let digits := text.take count
  if digits.length = count ∧ digits.all isHexDigit then
    return (← char? (baseValue 16 digits), text.drop count)
  else none

/-- The character of an escape, after its backslash. -/
def escape? : List Char → Option (Char × List Char)
  | 'b' :: rest => some ('\x08', rest)
  | 't' :: rest => some ('\t', rest)
  | 'n' :: rest => some ('\n', rest)
  | 'f' :: rest => some ('\x0c', rest)
  | 'r' :: rest => some ('\r', rest)
  | 'e' :: rest => some ('\x1b', rest)
  | '"' :: rest => some ('"', rest)
  | '\\' :: rest => some ('\\', rest)
  | 'x' :: rest => hexChar? 2 rest
  | 'u' :: rest => hexChar? 4 rest
  | 'U' :: rest => hexChar? 8 rest
  | _ => none

/-- The characters up to the closing quote of a text with escapes, on one line. -/
def basicText : Nat → List Char → Option (List Char × List Char)
  | 0, _ => none
  | count + 1, text =>
      match text with
      | '"' :: rest => some ([], rest)
      | '\\' :: rest => do
          let (char, rest) ← escape? rest
          let (chars, rest) ← basicText count rest
          return (char :: chars, rest)
      | char :: rest =>
          if isPlain char then do
            let (chars, rest) ← basicText count rest
            return (char :: chars, rest)
          else none
      | [] => none

/-- The characters up to the closing quote of a text without escapes, on one line. -/
def literalText (text : List Char) : Option (List Char × List Char) :=
  let inside (char : Char) : Bool := isPlain char && char != '\''
  match text.dropWhile inside with
  | '\'' :: rest => some (text.takeWhile inside, rest)
  | _ => none

/-- The end of a text of several lines: three quotes, of up to five the last three. -/
def closing? (quote : Char) (text : List Char) : Option (List Char × List Char) :=
  let quotes := (text.takeWhile (· == quote)).length
  if quotes < 3 then none
  else
    let extra := min (quotes - 3) 2
    some (List.replicate extra quote, text.drop (extra + 3))

/-- The rest of a text after blanks and line ends, of at most a given number. -/
def skipEmptyLines : Nat → List Char → List Char
  | 0, text => text
  | count + 1, text =>
      let rest := skipSpaces text
      match lineEnd? rest with
      | some next => skipEmptyLines count next
      | none => rest

/-- The rest of a text after a line end and all blanks and line ends that follow. -/
def joinLines (text : List Char) : Option (List Char) :=
  (lineEnd? (skipSpaces text)).map fun rest => skipEmptyLines (rest.length + 1) rest

/-- The characters of a text of several lines up to its closing quotes. -/
def longText (quote : Char) : Nat → List Char → Option (List Char × List Char)
  | 0, _ => none
  | count + 1, text =>
      match closing? quote text with
      | some found => some found
      | none =>
          let keep (char : Char) (rest : List Char) : Option (List Char × List Char) := do
            let (chars, rest) ← longText quote count rest
            return (char :: chars, rest)
          match text with
          | '\\' :: rest =>
              if quote = '"' then
                match joinLines rest with
                | some next => longText quote count next
                | none => do
                    let (char, rest) ← escape? rest
                    keep char rest
              else keep '\\' rest
          | '\r' :: '\n' :: rest => keep '\n' rest
          | '\n' :: rest => keep '\n' rest
          | char :: rest => if isPlain char then keep char rest else none
          | [] => none

/-- A text between quotes, after the opening quote. -/
def quoted (quote : Char) (text : List Char) : Option (List Char × List Char) :=
  if quote = '"' then basicText (text.length + 1) text else literalText text

/-- A text between single or triple quotes, after the first quote. -/
def anyText (quote : Char) (text : List Char) : Option (List Char × List Char) :=
  match text with
  | second :: third :: rest =>
      if second = quote ∧ third = quote then
        let start := (lineEnd? rest).getD rest
        longText quote (start.length + 1) start
      else quoted quote text
  | _ => quoted quote text

end BoxDiagram.Toml
