import RulePlane.Text.Mark
import RulePlane.Text.Unprintable

/-!
# Quoted texts

Messages and diagnostics show a foreign text between double quotes, on one line and with every
character visible. The quote and the backslash are escaped by a backslash, line breaks, tabs and
NUL have letters, and extending marks and unprintable characters are written by their number.
-/

namespace RulePlane.Text

/-- The lower-case hexadecimal digits of a number, without leading zeros. -/
def hexDigits (number : Nat) : List Char := Nat.toDigits 16 number

/-- How a character is written between double quotes. -/
def escape (character : Char) : List Char :=
  if character = '"' then ['\\', '"']
  else if character = '\\' then ['\\', '\\']
  else if character = '\n' then ['\\', 'n']
  else if character = '\r' then ['\\', 'r']
  else if character = '\t' then ['\\', 't']
  else if character = Char.ofNat 0 then ['\\', '0']
  else if isMark character || isUnprintable character then
    ['\\', 'u', '\x7b'] ++ hexDigits character.toNat ++ ['\x7d']
  else [character]

/-- A text between double quotes, each character escaped where it has to be. -/
def quote (text : String) : String :=
  String.ofList ('"' :: text.toList.flatMap escape ++ ['"'])

end RulePlane.Text
