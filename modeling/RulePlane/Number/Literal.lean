/-!
# Number literals

The written form of a number: an optional sign, then one of the words `inf`, `infinity` and `nan`
in any case, or decimal digits with an optional point and an optional exponent. There are no blanks
and no digit separators. A literal keeps the exact decimal value that was written; `Binary64` says
which machine number that is.
-/

namespace RulePlane.Number

/-- An exact written number: `coefficient · 10 ^ exponent`, or one of the special words. -/
inductive Literal where
  | nan (negative : Bool)
  | infinite (negative : Bool)
  | decimal (negative : Bool) (coefficient : Nat) (exponent : Int)
deriving DecidableEq, Repr

/-- Why a text is no number literal. -/
inductive LiteralError where
  | empty
  | invalid
deriving DecidableEq, Repr

/-- The wording of a literal error. -/
def LiteralError.message : LiteralError → String
  | empty => "cannot parse float from empty string"
  | invalid => "invalid float literal"

/-- Whether a character is one of the ten ASCII digits. -/
def isDigit (character : Char) : Bool := '0' ≤ character && character ≤ '9'

/-- The value of an ASCII digit. -/
def digitValue (character : Char) : Nat := character.toNat - '0'.toNat

/-- The number that a row of digits writes in base ten. -/
def digitsValue (digits : List Char) : Nat :=
  digits.foldl (fun value digit => 10 * value + digitValue digit) 0

/-- Split off a leading sign; a text without one is not negative. -/
def splitSign : List Char → Bool × List Char
  | '-' :: rest => (true, rest)
  | '+' :: rest => (false, rest)
  | text => (false, text)

/-- Read what may follow the digits: nothing, or an exponent that reaches to the end. -/
def parseExponent? : List Char → Option Int
  | [] => some 0
  | mark :: rest =>
      if mark = 'e' ∨ mark = 'E' then
        let (negative, digits) := splitSign rest
        if digits.isEmpty || !digits.all isDigit then none
        else if negative then some (-(digitsValue digits : Int))
        else some (digitsValue digits : Int)
      else none

/-- Split off a point and the digits behind it; a text without a point has none. -/
def splitFraction : List Char → List Char × List Char
  | '.' :: rest => (rest.takeWhile isDigit, rest.dropWhile isDigit)
  | text => ([], text)

/-- Read digits with an optional point and exponent. There is a digit on one side of the point. -/
def parseDecimal? (negative : Bool) (text : List Char) : Option Literal := do
  let whole := text.takeWhile isDigit
  let (fraction, rest) := splitFraction (text.dropWhile isDigit)
  if whole.isEmpty && fraction.isEmpty then none
  else
    let exponent ← parseExponent? rest
    some (.decimal negative (digitsValue (whole ++ fraction)) (exponent - fraction.length))

/-- Read one of the special words, in any case. -/
def parseWord? (negative : Bool) (text : List Char) : Option Literal :=
  let word := text.map Char.toLower
  if word = "inf".toList ∨ word = "infinity".toList then some (.infinite negative)
  else if word = "nan".toList then some (.nan negative)
  else none

/-- Read a number literal. -/
def Literal.parse (text : List Char) : Except LiteralError Literal :=
  if text.isEmpty then .error .empty
  else
    let (negative, magnitude) := splitSign text
    match parseDecimal? negative magnitude with
    | some literal => .ok literal
    | none =>
        match parseWord? negative magnitude with
        | some literal => .ok literal
        | none => .error .invalid

/-- Only the empty text is reported as empty. -/
theorem Literal.parse_eq_empty_iff (text : List Char) :
    Literal.parse text = .error .empty ↔ text = [] := by
  unfold Literal.parse
  split
  · simp_all
  · repeat' split
    all_goals simp_all

end RulePlane.Number
