import RulePlane.Number.Binary64
import RulePlane.Quantity.Error
import RulePlane.Text.Blank

/-!
# Ratios

A ratio is a number, or a percentage whose sign may stand apart from its number.
-/

namespace RulePlane.Quantity

open Number (Binary64)

/-- A text without its last character, if that is the given one. -/
def dropLast? (last : Char) (text : List Char) : Option (List Char) :=
  if text.getLast? = some last then some text.dropLast else none

/-- The fraction of a ratio given by its characters, without blanks around it. -/
def ratioOfTrimmed (text : List Char) : Except QuantityError Binary64 :=
  if text.isEmpty then .error .empty
  else
    match dropLast? '%' text with
    | some percentage =>
        match Binary64.parse (Text.trim percentage) with
        | .ok number => .ok (number.divNat 100)
        | .error fault => .error (.notANumber fault)
    | none =>
        match Binary64.parse text with
        | .ok number => .ok number
        | .error fault => .error (.notANumber fault)

/-- The fraction that a ratio stands for. -/
def parseRatio (text : String) : Except QuantityError Binary64 :=
  ratioOfTrimmed (Text.trim text.toList)

end RulePlane.Quantity
