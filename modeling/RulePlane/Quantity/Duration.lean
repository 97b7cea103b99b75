import RulePlane.Number.Binary64
import RulePlane.Quantity.Error
import RulePlane.Text.Blank
import RulePlane.Text.Letter

/-!
# Durations

A duration is a bare number of milliseconds or a row of components such as `1h30m`, each a number
and a unit written in letters. Blanks around the whole text do not count. The components are summed
in binary64 from the left, and the sum is rounded to whole milliseconds.
-/

namespace RulePlane.Quantity

open Number (Binary64 Literal)

-- A power of a number is core's own, also beside libraries that have another instance for it.
attribute [local instance (2000)] instPowNat

/-- The milliseconds of a unit. -/
def unitMillis? (unit : String) : Option Nat :=
  if unit = "ms" then some 1
  else if unit = "s" then some 1000
  else if unit = "m" ∨ unit = "min" ∨ unit = "mins" ∨ unit = "minute" ∨ unit = "minutes" then
    some 60000
  else if unit = "h" then some 3600000
  else if unit = "d" then some 86400000
  else none

/-- The greatest number of milliseconds that is reported, `2 ^ 63 - 1`. -/
def greatestMillis : Nat := 0x7fffffffffffffff

/-- Whole milliseconds of a number: the nearest integer, a half upwards. Numbers below zero, above
    `2 ^ 63` or not finite are out of range; `2 ^ 63` itself is reported as the greatest value. -/
def wholeMillis : Binary64 → Except QuantityError Nat
  | .finite negative mantissa exponent =>
      if negative && mantissa != 0 then .error .outOfRange
      else if 0 ≤ exponent ∧ greatestMillis + 1 < mantissa * 2 ^ exponent.natAbs then
        .error .outOfRange
      else .ok (min (Binary64.roundMagnitude mantissa exponent) greatestMillis)
  | _ => .error .outOfRange

/-- One component of a duration, and the text behind it: what stands before the first letter is the
    number, the letters are the unit. A fault of the number is found before one of the unit. -/
def readComponent (text : List Char) : Except QuantityError (Binary64 × List Char) :=
  let number := text.takeWhile (fun character => !Text.isLetter character)
  let lettered := text.dropWhile (fun character => !Text.isLetter character)
  if lettered.isEmpty then .error (.invalidUnit "")
  else
    match Binary64.parse number with
    | .error fault => .error (.notANumber fault)
    | .ok value =>
        let unit := String.ofList (lettered.takeWhile Text.isLetter)
        match unitMillis? unit with
        | none => .error (.invalidUnit unit)
        | some millis =>
            .ok (value.mul (Binary64.ofNat millis), lettered.dropWhile Text.isLetter)

/-- A component leaves a shorter text: it holds at least the first letter of its unit. -/
theorem readComponent_shorter {text rest : List Char} {value : Binary64}
    (read : readComponent text = .ok (value, rest)) : rest.length < text.length := by
  have lettered : (text.dropWhile (fun character => !Text.isLetter character)).length ≤
      text.length := (List.dropWhile_suffix _).length_le
  unfold readComponent at read
  dsimp only at read
  split at read
  · cases read
  · rename_i some
    split at read
    · cases read
    · split at read
      · cases read
      · cases read
        cases remaining : text.dropWhile (fun character => !Text.isLetter character) with
        | nil => simp [remaining] at some
        | cons letter others =>
          have first : Text.isLetter letter = true := by
            have := List.head?_dropWhile_not (fun character => !Text.isLetter character) text
            simpa [remaining] using this
          have shorter : (others.dropWhile Text.isLetter).length ≤ others.length :=
            (List.dropWhile_suffix _).length_le
          simp only [remaining, List.length_cons] at lettered
          simp only [List.dropWhile_cons, first, if_true]
          omega

/-- The sum of a text's components, added to what came before it. -/
def sumComponents (total : Binary64) (text : List Char) : Except QuantityError Binary64 :=
  if text.isEmpty then .ok total
  else
    match _component : readComponent text with
    | .error fault => .error fault
    | .ok (value, rest) => sumComponents (total.add value) rest
termination_by text.length
decreasing_by exact readComponent_shorter ‹_›

/-- The milliseconds of a duration given by its characters, without blanks around it. -/
def millisOfTrimmed (text : List Char) : Except QuantityError Nat :=
  if text.isEmpty then .error .empty
  else
    match Binary64.parse text with
    | .ok millis => wholeMillis millis
    | .error _ =>
        match sumComponents (Binary64.zero false) text with
        | .error fault => .error fault
        | .ok total => wholeMillis total

/-- The milliseconds of a duration. -/
def parseMillis (text : String) : Except QuantityError Nat :=
  millisOfTrimmed (Text.trim text.toList)

end RulePlane.Quantity
