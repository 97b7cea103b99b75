import RulePlane.Number.Literal

/-!
# Binary64 numbers

Numbers of the IEEE 754 format binary64, kept as sign, integer mantissa and power of two, so that
every operation is exact integer arithmetic followed by one rounding. Rounding goes to the nearest
number of the format, a tie to the even mantissa; what is too large becomes infinite, what is too
small becomes a zero of its sign.

The numbers built here are in normal form: the mantissa is below `2 ^ 53` and, unless the exponent
is the least one, at least `2 ^ 52`.
-/

namespace RulePlane.Number

-- A power of a number is core's own, also beside libraries that have another instance for it.
attribute [local instance (2000)] instPowNat

/-- A number of the format; a finite one is `± mantissa · 2 ^ exponent`. -/
inductive Binary64 where
  | nan (negative : Bool)
  | infinite (negative : Bool)
  | finite (negative : Bool) (mantissa : Nat) (exponent : Int)
deriving DecidableEq, Repr

namespace Binary64

/-- The exponent of the smallest numbers. -/
def leastExponent : Int := -1074

/-- The exponent of the largest numbers. -/
def greatestExponent : Int := 971

/-- The first mantissa that is too large for the format, `2 ^ 53`. -/
def mantissaLimit : Nat := 0x20000000000000

/-- The zero of a sign. -/
def zero (negative : Bool) : Binary64 := .finite negative 0 leastExponent

instance : Inhabited Binary64 := ⟨zero false⟩

/-- The integer nearest to a quotient; a tie goes to the even one. -/
def nearest (numerator denominator : Nat) : Nat :=
  let quotient := numerator / denominator
  let doubled := 2 * (numerator % denominator)
  if doubled < denominator then quotient
  else if denominator < doubled then quotient + 1
  else if quotient % 2 = 0 then quotient else quotient + 1

/-- A quotient, divided by a power of two with any integer exponent. -/
def scaled (numerator denominator : Nat) (exponent : Int) : Nat × Nat :=
  if exponent < 0 then (numerator * 2 ^ exponent.natAbs, denominator)
  else (numerator, denominator * 2 ^ exponent.natAbs)

/-- The exponent of the greatest power of two that is at most a positive quotient. -/
def order (numerator denominator : Nat) : Int :=
  let estimate : Int := (Nat.log2 numerator : Int) - (Nat.log2 denominator : Int)
  let (upper, lower) := scaled numerator denominator estimate
  if lower ≤ upper then estimate else estimate - 1

/-- The number of a rounded mantissa, which may have reached the limit. -/
def ofMantissa (negative : Bool) (mantissa : Nat) (exponent : Int) : Binary64 :=
  let (mantissa, exponent) :=
    if mantissa = mantissaLimit then (mantissaLimit / 2, exponent + 1) else (mantissa, exponent)
  if greatestExponent < exponent then .infinite negative else .finite negative mantissa exponent

/-- The number nearest to a quotient of naturals with a sign. -/
def ofRatio (negative : Bool) (numerator denominator : Nat) : Binary64 :=
  if numerator = 0 then zero negative
  else
    let exponent := max (order numerator denominator - 52) leastExponent
    let (upper, lower) := scaled numerator denominator exponent
    ofMantissa negative (nearest upper lower) exponent

/-- The number nearest to `± magnitude · 2 ^ exponent`. -/
def ofScaled (negative : Bool) (magnitude : Nat) (exponent : Int) : Binary64 :=
  if exponent < 0 then ofRatio negative magnitude (2 ^ exponent.natAbs)
  else ofRatio negative (magnitude * 2 ^ exponent.natAbs) 1

/-- The number of decimal digits of a natural, where zero has one. -/
def decimalLength (number : Nat) : Nat := (Nat.toDigits 10 number).length

/-- The number nearest to `± coefficient · 10 ^ exponent`. With more than 310 digits before the
    point every value is beyond the largest number, and with more than 330 zeros behind it every
    value is below half the smallest, so those are settled without computing the power. -/
def ofDecimal (negative : Bool) (coefficient : Nat) (exponent : Int) : Binary64 :=
  if coefficient = 0 then zero negative
  else
    let digits : Int := decimalLength coefficient + exponent
    if 310 < digits then .infinite negative
    else if digits < -330 then zero negative
    else if exponent < 0 then ofRatio negative coefficient (10 ^ exponent.natAbs)
    else ofRatio negative (coefficient * 10 ^ exponent.natAbs) 1

/-- The number that a literal stands for. -/
def ofLiteral : Literal → Binary64
  | .nan negative => .nan negative
  | .infinite negative => .infinite negative
  | .decimal negative coefficient exponent => ofDecimal negative coefficient exponent

/-- The number of a natural. -/
def ofNat (number : Nat) : Binary64 := ofRatio false number 1

/-- Read a number literal as a number of the format. -/
def parse (text : List Char) : Except LiteralError Binary64 :=
  (Literal.parse text).map ofLiteral

/-- The product, rounded once. A zero times an infinity is no number. -/
def mul : Binary64 → Binary64 → Binary64
  | .nan negative, _ => .nan negative
  | _, .nan negative => .nan negative
  | .infinite first, .infinite second => .infinite (first != second)
  | .infinite first, .finite second mantissa _ =>
      if mantissa = 0 then .nan true else .infinite (first != second)
  | .finite first mantissa _, .infinite second =>
      if mantissa = 0 then .nan true else .infinite (first != second)
  | .finite first mantissa exponent, .finite second mantissa' exponent' =>
      ofScaled (first != second) (mantissa * mantissa') (exponent + exponent')

/-- A mantissa with its sign. -/
def signed (negative : Bool) (mantissa : Nat) : Int :=
  if negative then -(mantissa : Int) else mantissa

/-- The sum, rounded once. Opposite infinities have no sum, and a sum of zero is negative only if
    both terms are. -/
def add : Binary64 → Binary64 → Binary64
  | .nan negative, _ => .nan negative
  | _, .nan negative => .nan negative
  | .infinite first, .infinite second => if first = second then .infinite first else .nan true
  | .infinite first, .finite _ _ _ => .infinite first
  | .finite _ _ _, .infinite second => .infinite second
  | .finite first mantissa exponent, .finite second mantissa' exponent' =>
      let least := min exponent exponent'
      let total := signed first (mantissa * 2 ^ (exponent - least).natAbs) +
        signed second (mantissa' * 2 ^ (exponent' - least).natAbs)
      if total = 0 then zero (first && second)
      else ofScaled (total < 0) total.natAbs least

/-- The quotient by a positive natural, rounded once. -/
def divNat (number : Binary64) (divisor : Nat) : Binary64 :=
  match number with
  | .finite negative mantissa exponent =>
      if exponent < 0 then ofRatio negative mantissa (divisor * 2 ^ exponent.natAbs)
      else ofRatio negative (mantissa * 2 ^ exponent.natAbs) divisor
  | other => other

/-- Whether the number is a zero of either sign. -/
def isZero : Binary64 → Bool
  | .finite _ mantissa _ => mantissa == 0
  | _ => false

/-- The bit of the sign, as a number. -/
def signBit (negative : Bool) : Nat := if negative then 0x8000000000000000 else 0

/-- The 64 bits of a number: sign, biased exponent, mantissa without its leading one. -/
def bits : Binary64 → Nat
  | .nan negative => signBit negative + 0x7ff8000000000000
  | .infinite negative => signBit negative + 0x7ff0000000000000
  | .finite negative mantissa exponent =>
      let leading := mantissaLimit / 2
      if mantissa < leading then signBit negative + mantissa
      else signBit negative + (exponent + 1075).toNat * leading + (mantissa - leading)

/-- A number that is no number is written without its bits: they are not part of its meaning. -/
def isNaN : Binary64 → Bool
  | .nan _ => true
  | _ => false

/-- The integer nearest to the magnitude of a finite number; a half goes up. -/
def roundMagnitude (mantissa : Nat) (exponent : Int) : Nat :=
  if exponent < 0 then
    (2 * mantissa + 2 ^ exponent.natAbs) / (2 * 2 ^ exponent.natAbs)
  else mantissa * 2 ^ exponent.natAbs

end Binary64

end RulePlane.Number
