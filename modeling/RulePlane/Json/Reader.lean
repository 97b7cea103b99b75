import RulePlane.Document

/-!
# Reading JSON

Documents are written as JSON. An integer without point and exponent that fits 64 bits, with or
without sign, is an integer; every other number is the binary64 number nearest to it. Of a repeated
field the last value counts, in the place of the first.

Each reader gives what it read from the front of a text, with the text behind it. Those that go on
until they find an end take a bound on the number of steps, for which the length of the text is
enough.
-/

namespace RulePlane.Json

/-- Skip what separates the parts of a document. -/
def skipBlanks (text : List Char) : List Char :=
  text.dropWhile fun character =>
    character = ' ' || character = '\n' || character = '\t' || character = '\r'

/-- The value of a hexadecimal digit. -/
def hexDigit? (character : Char) : Option Nat :=
  if '0' ≤ character ∧ character ≤ '9' then some (character.toNat - '0'.toNat)
  else if 'a' ≤ character ∧ character ≤ 'f' then some (character.toNat - 'a'.toNat + 10)
  else if 'A' ≤ character ∧ character ≤ 'F' then some (character.toNat - 'A'.toNat + 10)
  else none

/-- Read the four digits of an escaped code unit. -/
def readUnit : List Char → Option (Nat × List Char)
  | first :: second :: third :: fourth :: rest => do
      let high := (← hexDigit? first) * 16 + (← hexDigit? second)
      let low := (← hexDigit? third) * 16 + (← hexDigit? fourth)
      return (high * 256 + low, rest)
  | _ => none

/-- Read an escaped character by its number: a code unit, or two that belong together. -/
def readNumbered (text : List Char) : Option (Char × List Char) := do
  let (unit, rest) ← readUnit text
  if 0xd800 ≤ unit ∧ unit < 0xe000 then
    match rest with
    | '\\' :: 'u' :: rest =>
        let (low, rest) ← readUnit rest
        if unit < 0xdc00 ∧ 0xdc00 ≤ low ∧ low < 0xe000 then
          some (Char.ofNat (0x10000 + (unit - 0xd800) * 0x400 + (low - 0xdc00)), rest)
        else none
    | _ => none
  else some (Char.ofNat unit, rest)

/-- Read what follows a backslash. -/
def readEscape : List Char → Option (Char × List Char)
  | 'u' :: rest => readNumbered rest
  | '"' :: rest => some ('"', rest)
  | '\\' :: rest => some ('\\', rest)
  | '/' :: rest => some ('/', rest)
  | 'b' :: rest => some (Char.ofNat 8, rest)
  | 'f' :: rest => some (Char.ofNat 12, rest)
  | 'n' :: rest => some ('\n', rest)
  | 'r' :: rest => some ('\r', rest)
  | 't' :: rest => some ('\t', rest)
  | _ => none

/-- Read the characters of a text up to its closing quote. -/
def readCharacters : Nat → List Char → Option (List Char × List Char)
  | 0, _ => none
  | bound + 1, text =>
      match text with
      | [] => none
      | '"' :: rest => some ([], rest)
      | '\\' :: rest => do
          let (character, rest) ← readEscape rest
          let (others, rest) ← readCharacters bound rest
          return (character :: others, rest)
      | character :: rest => do
          let (others, rest) ← readCharacters bound rest
          return (character :: others, rest)

/-- Read a text behind its opening quote. -/
def readText (text : List Char) : Option (String × List Char) := do
  let (characters, rest) ← readCharacters (text.length + 1) text
  return (String.ofList characters, rest)

/-- Whether a character can stand in a number. -/
def inNumber (character : Char) : Bool :=
  Number.isDigit character || character = '-' || character = '+' || character = '.' ||
    character = 'e' || character = 'E'

/-- The number that characters write. -/
def number? (text : List Char) : Option Document :=
  let (negative, digits) := Number.splitSign text
  let value := Number.digitsValue digits
  let fits :=
    if negative then 0 < value ∧ value ≤ 0x8000000000000000 else value < 0x10000000000000000
  if !digits.isEmpty && digits.all Number.isDigit && fits then
    some (.integer (if negative then -(value : Int) else value))
  else
    match Number.Binary64.parse text with
    | .ok number => some (.real number)
    | .error _ => none

/-- Put a field behind others, or in the place of the one with its name. -/
def putField (name : String) (value : Document) :
    List (String × Document) → List (String × Document)
  | [] => [(name, value)]
  | (present, old) :: rest =>
      if present = name then (name, value) :: rest else (present, old) :: putField name value rest

mutual

/-- Read a document. -/
def readDocument : Nat → List Char → Option (Document × List Char)
  | 0, _ => none
  | bound + 1, text =>
      match skipBlanks text with
      | 'n' :: 'u' :: 'l' :: 'l' :: rest => some (.null, rest)
      | 't' :: 'r' :: 'u' :: 'e' :: rest => some (.boolean true, rest)
      | 'f' :: 'a' :: 'l' :: 's' :: 'e' :: rest => some (.boolean false, rest)
      | '"' :: rest => do
          let (value, rest) ← readText rest
          return (.text value, rest)
      | '[' :: rest =>
          match skipBlanks rest with
          | ']' :: rest => some (.sequence [], rest)
          | rest => do
              let (items, rest) ← readItems bound rest
              return (.sequence items, rest)
      | '\x7b' :: rest =>
          match skipBlanks rest with
          | '\x7d' :: rest => some (.record [], rest)
          | rest => do
              let (fields, rest) ← readFields bound [] rest
              return (.record fields, rest)
      | text => do
          let value ← number? (text.takeWhile inNumber)
          return (value, text.dropWhile inNumber)

/-- Read the items of a sequence up to its closing bracket. -/
def readItems : Nat → List Char → Option (List Document × List Char)
  | 0, _ => none
  | bound + 1, text => do
      let (item, rest) ← readDocument bound text
      match skipBlanks rest with
      | ',' :: rest =>
          let (others, rest) ← readItems bound rest
          return (item :: others, rest)
      | ']' :: rest => return ([item], rest)
      | _ => none

/-- Read the fields of a record, behind those that were read already, up to its closing brace. -/
def readFields :
    Nat → List (String × Document) → List Char → Option (List (String × Document) × List Char)
  | 0, _, _ => none
  | bound + 1, before, text =>
      match skipBlanks text with
      | '"' :: rest => do
          let (name, rest) ← readText rest
          match skipBlanks rest with
          | ':' :: rest =>
              let (value, rest) ← readDocument bound rest
              let fields := putField name value before
              match skipBlanks rest with
              | ',' :: rest => readFields bound fields rest
              | '\x7d' :: rest => return (fields, rest)
              | _ => none
          | _ => none
      | _ => none

end

/-- Read a text that is one document. -/
def read? (text : String) : Option Document := do
  let characters := text.toList
  let (document, rest) ← readDocument (characters.length + 1) characters
  if (skipBlanks rest).isEmpty then some document else none

end RulePlane.Json
