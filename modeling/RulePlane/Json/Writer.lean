import RulePlane.Document
import RulePlane.Text.Quoted

/-!
# Writing JSON

A document is written on one line and without blanks. Control characters, the quote and the
backslash are escaped; all other characters stand for themselves. A finite number is written
exactly, as an integer times a power of ten; the others have no written form and become null.
-/

namespace RulePlane.Json

-- A power of a number is core's own, also beside libraries that have another instance for it.
attribute [local instance (2000)] instPowNat

/-- The four digits of a code unit. -/
def unitDigits (unit : Nat) : List Char :=
  let digits := Text.hexDigits unit
  List.replicate (4 - digits.length) '0' ++ digits

/-- How a character is written in a text. -/
def writeCharacter (character : Char) : List Char :=
  if character = '"' ∨ character = '\\' then ['\\', character]
  else if character.toNat < 32 then '\\' :: 'u' :: unitDigits character.toNat
  else [character]

/-- A text between quotes. -/
def writeText (text : String) : String :=
  String.ofList ('"' :: text.toList.flatMap writeCharacter ++ ['"'])

/-- The exact value of a finite number. -/
def writeNumber : Number.Binary64 → String
  | .finite negative mantissa exponent =>
      let sign := if negative then "-" else ""
      if exponent < 0 then
        let places := exponent.natAbs
        sign ++ toString (mantissa * 5 ^ places) ++ "e-" ++ toString places
      else sign ++ toString (mantissa * 2 ^ exponent.natAbs) ++ "e0"
  | .infinite _ => "null"
  | .nan _ => "null"

mutual

/-- A document on one line. -/
def write : Document → String
  | .null => "null"
  | .boolean value => if value then "true" else "false"
  | .integer value => toString value
  | .real value => writeNumber value
  | .text value => writeText value
  | .sequence items => "[" ++ String.intercalate "," (writeItems items) ++ "]"
  | .record entries =>
      String.singleton '\x7b' ++ String.intercalate "," (writeEntries entries) ++
        String.singleton '\x7d'

/-- The items of a sequence. -/
def writeItems : List Document → List String
  | [] => []
  | item :: rest => write item :: writeItems rest

/-- The fields of a record. -/
def writeEntries : List (String × Document) → List String
  | [] => []
  | (name, value) :: rest => (writeText name ++ ":" ++ write value) :: writeEntries rest

end

end RulePlane.Json
