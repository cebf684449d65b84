import BoxDiagram.Config.Read
import BoxDiagram.Number.Decimal
import BoxDiagram.Text.Char

namespace BoxDiagram.Toml

/-!
# Words of TOML

A word is a value without quotes and brackets: a truth value, a number, or a date
or time. A word that only looks like a whole number may stand in a document, but
it has no value.
-/

/-- The digits of a number with single underscores between them. -/
def digits? (isDigit : Char → Bool) (text : List Char) : Option (List Char) :=
  let groups := Text.splitOn '_' text
  if groups.all fun group => !group.isEmpty && group.all isDigit then some groups.flatten
  else none

/-- The digits of a decimal number: no zero stands before another digit. -/
def decimalDigits? (text : List Char) : Option (List Char) :=
  match digits? Char.isDigit text with
  | some ('0' :: _ :: _) => none
  | found => found

/-- The value of a digit in a base up to sixteen. -/
def digitValue (char : Char) : Nat :=
  if char.isDigit then char.toNat - '0'.toNat
  else if char.isLower then char.toNat - 'a'.toNat + 10
  else char.toNat - 'A'.toNat + 10

/-- The digits of hexadecimal numbers, in either case. -/
def isHexDigit (char : Char) : Bool :=
  char.isDigit || ('a' ≤ char && char ≤ 'f') || ('A' ≤ char && char ≤ 'F')

/-- The value of digits in a base. -/
def baseValue (base : Nat) (digits : List Char) : Nat :=
  digits.foldl (fun value digit => base * value + digitValue digit) 0

/-- A text after an optional sign, true for minus. -/
def signed : List Char → Bool × List Char
  | '-' :: rest => (true, rest)
  | '+' :: rest => (false, rest)
  | text => (false, text)

/-- The whole number that a word spells, in base 16, 8, 2 or 10. -/
def integer? (text : List Char) : Option Int :=
  match text with
  | '0' :: 'x' :: rest => (digits? isHexDigit rest).map fun digits => baseValue 16 digits
  | '0' :: 'o' :: rest =>
      (digits? (fun char => '0' ≤ char && char ≤ '7') rest).map fun digits => baseValue 8 digits
  | '0' :: 'b' :: rest =>
      (digits? (fun char => char == '0' || char == '1') rest).map fun digits => baseValue 2 digits
  | _ =>
      let (negative, magnitude) := signed text
      (decimalDigits? magnitude).map fun digits =>
        let value : Int := baseValue 10 digits
        if negative then -value else value

/-- The text ends a number that is not whole: a fraction, a power of ten, or both. -/
def isFractionTail (text : List Char) : Bool :=
  match text with
  | '.' :: rest =>
      let places := rest.takeWhile fun char => char.isDigit || char == '_'
      let power := rest.dropWhile fun char => char.isDigit || char == '_'
      (digits? Char.isDigit places).isSome && (power.isEmpty || isPower power)
  | _ => isPower text
where
  /-- The text is a power of ten. -/
  isPower : List Char → Bool
    | letter :: rest =>
        (letter == 'e' || letter == 'E') && (digits? Char.isDigit (signed rest).2).isSome
    | [] => false

/-- The text is a number that is not whole, or one of the numbers that have a name. -/
def isFraction (text : List Char) : Bool :=
  let magnitude := (signed text).2
  if magnitude == ['i', 'n', 'f'] || magnitude == ['n', 'a', 'n'] then true
  else
    let whole := magnitude.takeWhile fun char => char.isDigit || char == '_'
    let rest := magnitude.dropWhile fun char => char.isDigit || char == '_'
    (decimalDigits? whole).isSome && isFractionTail rest

/-- A whole number, if 128 bits hold it with or without a sign. -/
def integerValue (value : Int) : ConfigValue :=
  if -(Nat.pow 2 127 : Int) ≤ value ∧ value < (Nat.pow 2 128 : Int) then .integer value
  else .unreadable

/-- The text is the mark of a base, with no digits after it. -/
def isBaseMark (text : List Char) : Bool :=
  text == ['0', 'x'] || text == ['0', 'o'] || text == ['0', 'b']

/--
The text looks like a whole number in groups: a first group of decimal digits, and
a digit of some base on both sides of every underscore. What else the later groups
hold does not matter, tabs included, unless it is a space or makes a fraction of the
number.
-/
def isGrouped (text : List Char) : Bool :=
  match Text.splitOn '_' (signed text).2 with
  | [] | [_] => false
  | first :: others =>
      !first.isEmpty && first.all Char.isDigit && first.head? != some '0' &&
        others.all (fun group => group.head?.any isHexDigit && !group.any isForeign) &&
        others.dropLast.all (fun group => group.getLast?.any isHexDigit)
where
  /-- The character stands in no word that looks like a whole number. -/
  isForeign (char : Char) : Bool :=
    char == ' ' || char == '.' || char == 'e' || char == 'E'

/-- A number that is not whole, given by its digits, or one that has a name. -/
def fractionValue (text : List Char) : ConfigValue :=
  match Decimal.read? (text.filter (· != '_')) with
  | some decimal => if decimal.exceedsDouble then .unreadable else .fraction
  | none => .fraction

/-- The number of a text with a fixed number of digits. -/
def fixedDigits? (count : Nat) (text : List Char) : Option Nat :=
  if text.length = count then Decimal.wholeNumber? text else none

/-- The number of days of a month. -/
def daysOf (year month : Nat) : Nat :=
  if month = 2 then
    if (year % 4 = 0 ∧ year % 100 ≠ 0) ∨ year % 400 = 0 then 29 else 28
  else if month = 4 ∨ month = 6 ∨ month = 9 ∨ month = 11 then 30
  else 31

/-- The word is a day of the calendar. -/
def isDate (text : List Char) : Bool :=
  match Text.splitOn '-' text with
  | [year, month, day] =>
      match fixedDigits? 4 year, fixedDigits? 2 month, fixedDigits? 2 day with
      | some year, some month, some day =>
          1 ≤ month && month ≤ 12 && 1 ≤ day && day ≤ daysOf year month
      | _, _, _ => false
  | _ => false

/-- The text is a number of two digits not above a greatest one. -/
def isPair (greatest : Nat) (text : List Char) : Bool :=
  match fixedDigits? 2 text with
  | some value => value ≤ greatest
  | none => false

/-- The text is a number of seconds, perhaps with a fraction. -/
def isSeconds (text : List Char) : Bool :=
  match Text.splitOn '.' text with
  | [seconds] => isPair 60 seconds
  | [seconds, fraction] => isPair 60 seconds && (Decimal.wholeNumber? fraction).isSome
  | _ => false

/-- The text is a time of day; the seconds may be left out. -/
def isTime (text : List Char) : Bool :=
  match Text.splitOn ':' text with
  | [hour, minute] => isPair 23 hour && isPair 59 minute
  | [hour, minute, seconds] => isPair 23 hour && isPair 59 minute && isSeconds seconds
  | _ => false

/-- The text is a distance from universal time. -/
def isOffset (text : List Char) : Bool :=
  match text with
  | ['Z'] | ['z'] => true
  | '+' :: rest | '-' :: rest =>
      match Text.splitOn ':' rest with
      | [hour, minute] => isPair 23 hour && isPair 59 minute
      | _ => false
  | _ => false

/-- The text is a time of day, perhaps with a distance from universal time. -/
def isOffsetTime (text : List Char) : Bool :=
  let isTimeChar (char : Char) : Bool := char.isDigit || char == ':' || char == '.'
  let offset := text.dropWhile isTimeChar
  isTime (text.takeWhile isTimeChar) && (offset.isEmpty || isOffset offset)

/-- The text is a date with a time. -/
def isMoment (text : List Char) : Bool :=
  match text.drop 10 with
  | separator :: time =>
      (separator == 'T' || separator == 't' || separator == ' ') &&
        isDate (text.take 10) && isOffsetTime time
  | [] => false

/-- The value of a date or time: a table with one entry that no section has. -/
def moment (text : List Char) : ConfigValue :=
  .table [("$date", .text (String.ofList text))]

/-- The value that a word spells: a truth value, a moment or a number. -/
def word? (text : List Char) : Option ConfigValue :=
  if text == "true".toList then some (.truth true)
  else if text == "false".toList then some (.truth false)
  else if isDate text || isTime text || isMoment text then some (moment text)
  else
    match integer? text with
    | some value => some (integerValue value)
    | none =>
        if isFraction text then some (fractionValue text)
        else if isBaseMark text || isGrouped text then some .unreadable
        else none

end BoxDiagram.Toml
