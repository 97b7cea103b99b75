import Mathlib.Algebra.Order.Field.Power
import Mathlib.Tactic.FieldSimp
import Mathlib.Tactic.Linarith
import RulePlane.Quantity.Ratio

/-!
# Binary64 numbers and their bits

The numbers that are computed here are in normal form, and of a number in normal form nothing is
lost in its 64 bits: `ofBits` gives it back. Normal form comes from the one rounding that every
operation ends with. It takes the order of a quotient, that is the greatest power of two below it,
so that the mantissa has 53 binary digits unless the exponent is the least one. The order is
compared with the quotient as a rational number, where powers with negative exponents exist.
-/

namespace RulePlane.Number.Binary64

-- A power of a number is core's own, as in the definition of the format.
attribute [local instance (2000)] instPowNat

/-- A finite number whose mantissa and exponent are those that the format stores: the leading
    binary digit of the mantissa is set unless the exponent is the least one. -/
def Normal : Binary64 → Prop
  | .finite _ mantissa exponent =>
      mantissa < mantissaLimit ∧ leastExponent ≤ exponent ∧ exponent ≤ greatestExponent ∧
        (mantissaLimit / 2 ≤ mantissa ∨ exponent = leastExponent)
  | _ => True

/-- The number that 64 bits stand for. -/
def ofBits (bits : Nat) : Binary64 :=
  let negative := decide (0x8000000000000000 ≤ bits)
  let biased := bits / 0x10000000000000 % 0x800
  let fraction := bits % 0x10000000000000
  if biased = 0x7ff then if fraction = 0 then .infinite negative else .nan negative
  else if biased = 0 then .finite negative fraction leastExponent
  else .finite negative (0x10000000000000 + fraction) ((biased : Int) - 1075)

/-- A number without the sign of a zero. -/
def withoutZeroSign (number : Binary64) : Binary64 :=
  if number.isZero then zero false else number

/-! ## Bits -/

/-- The bits of a number in normal form are 64. -/
theorem bits_lt {number : Binary64} (normal : number.Normal) :
    number.bits < 0x10000000000000000 := by
  cases number with
  | nan negative => cases negative <;> decide
  | infinite negative => cases negative <;> decide
  | finite negative mantissa exponent =>
    obtain ⟨small, _, largest, _⟩ := normal
    simp only [mantissaLimit, greatestExponent] at small largest
    simp only [bits, mantissaLimit]
    cases negative <;> simp only [signBit, if_true, Bool.false_eq_true, if_false] <;>
      split <;> omega

/-- The three parts of 64 bits are taken apart again. -/
theorem ofBits_parts (negative : Bool) {biased fraction : Nat} (word : biased < 0x800)
    (short : fraction < 0x10000000000000) :
    ofBits (signBit negative + biased * 0x10000000000000 + fraction) =
      if biased = 0x7ff then if fraction = 0 then .infinite negative else .nan negative
      else if biased = 0 then .finite negative fraction leastExponent
      else .finite negative (0x10000000000000 + fraction) ((biased : Int) - 1075) := by
  have sign : decide (0x8000000000000000 ≤
      signBit negative + biased * 0x10000000000000 + fraction) = negative := by
    cases negative <;> simp [signBit] <;> omega
  have middle : (signBit negative + biased * 0x10000000000000 + fraction) /
      0x10000000000000 % 0x800 = biased := by
    cases negative <;> simp [signBit] <;> omega
  have low : (signBit negative + biased * 0x10000000000000 + fraction) % 0x10000000000000 =
      fraction := by
    cases negative <;> simp [signBit] <;> omega
  simp only [ofBits, sign, middle, low]

/-- A number in normal form is given back by its bits. -/
theorem ofBits_bits {number : Binary64} (normal : number.Normal) :
    ofBits number.bits = number := by
  cases number with
  | nan negative => cases negative <;> decide
  | infinite negative => cases negative <;> decide
  | finite negative mantissa exponent =>
    obtain ⟨small, least, largest, led⟩ := normal
    simp only [mantissaLimit, leastExponent, greatestExponent] at small least largest led
    by_cases low : mantissa < 0x10000000000000
    · have bits : (finite negative mantissa exponent).bits =
          signBit negative + 0 * 0x10000000000000 + mantissa := by
        simp [Binary64.bits, mantissaLimit, low]
      have exponentLeast : exponent = leastExponent := by
        simp only [leastExponent]
        omega
      rw [bits, ofBits_parts negative (by decide) low, exponentLeast]
      rfl
    · obtain ⟨stored, shift⟩ : ∃ stored : Nat, exponent = stored - 1075 :=
        ⟨(exponent + 1075).toNat, by omega⟩
      have bits : (finite negative mantissa exponent).bits =
          signBit negative + stored * 0x10000000000000 + (mantissa - 0x10000000000000) := by
        have back : (exponent + 1075).toNat = stored := by omega
        simp [Binary64.bits, mantissaLimit, low, back]
      have leading : 0x10000000000000 + (mantissa - 0x10000000000000) = mantissa := by omega
      rw [bits, ofBits_parts negative (by omega) (by omega), if_neg (by omega), if_neg (by omega),
        leading, shift]

/-! ## Rounding -/

/-- A zero is in normal form. -/
theorem normal_zero (negative : Bool) : (zero negative).Normal := by
  refine ⟨by decide, by decide, by decide, ?_⟩
  right
  rfl

/-- A rounded mantissa of at most 53 binary digits gives a number in normal form. -/
theorem normal_ofMantissa {mantissa : Nat} {exponent : Int} (negative : Bool)
    (small : mantissa ≤ mantissaLimit) (least : leastExponent ≤ exponent)
    (led : mantissaLimit / 2 ≤ mantissa ∨ exponent = leastExponent) :
    (ofMantissa negative mantissa exponent).Normal := by
  simp only [ofMantissa]
  split <;> split <;> simp only [Normal]
  · simp only [mantissaLimit, leastExponent, greatestExponent] at *
    omega
  · simp only [mantissaLimit, leastExponent, greatestExponent] at *
    omega

/-- A quotient that reaches an integer is not rounded below it. -/
theorem le_nearest {numerator denominator whole : Nat} (positive : 0 < denominator)
    (reached : whole * denominator ≤ numerator) : whole ≤ nearest numerator denominator := by
  have quotient : whole ≤ numerator / denominator := (Nat.le_div_iff_mul_le positive).2 reached
  simp only [nearest]
  split <;> [skip; split <;> [skip; split]] <;> omega

/-- A quotient below an integer is not rounded beyond it. -/
theorem nearest_le {numerator denominator whole : Nat} (positive : 0 < denominator)
    (below : numerator < whole * denominator) : nearest numerator denominator ≤ whole := by
  have quotient : numerator / denominator < whole := (Nat.div_lt_iff_lt_mul positive).2 below
  simp only [nearest]
  split <;> [skip; split <;> [skip; split]] <;> omega

/-- A scaled quotient has a denominator. -/
theorem scaled_positive (numerator : Nat) {denominator : Nat} (positive : 0 < denominator)
    (exponent : Int) : 0 < (scaled numerator denominator exponent).2 := by
  simp only [scaled]
  split
  · exact positive
  · exact Nat.mul_pos positive (Nat.pow_pos (by decide))

/-- Scaling divides a quotient by the power of two. -/
theorem scaled_quotient (numerator : Nat) {denominator : Nat} (positive : 0 < denominator)
    (exponent : Int) :
    ((scaled numerator denominator exponent).1 : ℚ) / (scaled numerator denominator exponent).2 =
      (numerator : ℚ) / denominator / (2 : ℚ) ^ exponent := by
  have denominatorPositive : (0 : ℚ) < denominator := by exact_mod_cast positive
  simp only [scaled]
  split
  · rename_i negative
    have power : (2 : ℚ) ^ exponent = ((2 : ℚ) ^ exponent.natAbs)⁻¹ := by
      rw [← zpow_natCast, ← zpow_neg]
      congr 1
      omega
    rw [power]
    push_cast
    field_simp
  · rename_i negative
    have power : (2 : ℚ) ^ exponent = (2 : ℚ) ^ exponent.natAbs := by
      rw [← zpow_natCast]
      congr 1
      omega
    rw [power]
    push_cast
    field_simp

/-- The orders of numerator and denominator tell that of their quotient up to one. -/
theorem quotient_near_orders {numerator denominator : Nat} (some : numerator ≠ 0)
    (positive : 0 < denominator) :
    (2 : ℚ) ^ ((Nat.log2 numerator : Int) - Nat.log2 denominator - 1) ≤
        (numerator : ℚ) / denominator ∧
      (numerator : ℚ) / denominator <
        (2 : ℚ) ^ ((Nat.log2 numerator : Int) - Nat.log2 denominator + 1) := by
  have denominatorPositive : (0 : ℚ) < denominator := by exact_mod_cast positive
  have least {number : Nat} (some : number ≠ 0) :
      (2 : ℚ) ^ (Nat.log2 number : Int) ≤ number := by
    rw [zpow_natCast]
    exact_mod_cast Nat.log2_self_le some
  have below (number : Nat) : (number : ℚ) < (2 : ℚ) ^ ((Nat.log2 number : Int) + 1) := by
    exact_mod_cast Nat.lt_log2_self (n := number)
  constructor
  · rw [le_div_iff₀ denominatorPositive]
    calc (2 : ℚ) ^ ((Nat.log2 numerator : Int) - Nat.log2 denominator - 1) * denominator
        ≤ (2 : ℚ) ^ ((Nat.log2 numerator : Int) - Nat.log2 denominator - 1) *
            (2 : ℚ) ^ ((Nat.log2 denominator : Int) + 1) := by
          gcongr
          exact (below denominator).le
      _ = (2 : ℚ) ^ (Nat.log2 numerator : Int) := by
          rw [← zpow_add₀ (by norm_num)]
          congr 1
          omega
      _ ≤ numerator := least some
  · rw [div_lt_iff₀ denominatorPositive]
    calc (numerator : ℚ) < (2 : ℚ) ^ ((Nat.log2 numerator : Int) + 1) := below numerator
      _ = (2 : ℚ) ^ ((Nat.log2 numerator : Int) - Nat.log2 denominator + 1) *
            (2 : ℚ) ^ (Nat.log2 denominator : Int) := by
          rw [← zpow_add₀ (by norm_num)]
          congr 1
          omega
      _ ≤ (2 : ℚ) ^ ((Nat.log2 numerator : Int) - Nat.log2 denominator + 1) * denominator := by
          gcongr
          exact least (by omega)

/-- The order of a positive quotient is the exponent of the greatest power of two that it
    reaches. -/
theorem order_spec {numerator denominator : Nat} (some : numerator ≠ 0)
    (positive : 0 < denominator) :
    (2 : ℚ) ^ order numerator denominator ≤ (numerator : ℚ) / denominator ∧
      (numerator : ℚ) / denominator < (2 : ℚ) ^ (order numerator denominator + 1) := by
  obtain ⟨above, below⟩ := quotient_near_orders some positive
  set estimate : Int := (Nat.log2 numerator : Int) - (Nat.log2 denominator : Int) with estimated
  have scaledPositive : (0 : ℚ) < (scaled numerator denominator estimate).2 := by
    exact_mod_cast scaled_positive numerator positive estimate
  have power : (0 : ℚ) < (2 : ℚ) ^ estimate := zpow_pos (by norm_num) _
  have quotient := scaled_quotient numerator positive estimate
  -- Whether the scaled quotient reaches one says which of the two powers is the greatest.
  simp only [order, ← estimated]
  split
  · rename_i reached
    refine ⟨?_, below⟩
    have one : (1 : ℚ) ≤ (numerator : ℚ) / denominator / (2 : ℚ) ^ estimate := by
      rw [← quotient, le_div_iff₀ scaledPositive, one_mul]
      exact_mod_cast reached
    rwa [le_div_iff₀ power, one_mul] at one
  · rename_i missed
    refine ⟨above, ?_⟩
    have one : (numerator : ℚ) / denominator / (2 : ℚ) ^ estimate < 1 := by
      rw [← quotient, div_lt_iff₀ scaledPositive, one_mul]
      exact_mod_cast Nat.lt_of_not_le missed
    rw [div_lt_iff₀ power, one_mul] at one
    simpa using one

/-- The exponent that is chosen for a quotient is the one with which its mantissa has 53 binary
    digits, or the least one. -/
theorem exponent_spec {numerator denominator : Nat} (some : numerator ≠ 0)
    (positive : 0 < denominator) {exponent : Int}
    (chosen : exponent = max (order numerator denominator - 52) leastExponent) :
    (numerator : ℚ) / denominator < (2 : ℚ) ^ (exponent + 53) ∧
      (exponent = leastExponent ∨ (2 : ℚ) ^ (exponent + 52) ≤ (numerator : ℚ) / denominator) := by
  obtain ⟨reached, below⟩ := order_spec some positive
  refine ⟨below.trans_le (zpow_le_zpow_right₀ (by norm_num) (by omega)), ?_⟩
  rcases max_choice (order numerator denominator - 52) leastExponent with high | least
  · right
    rwa [chosen, high, sub_add_cancel]
  · left
    rw [chosen, least]

/-- The mantissa of a quotient has at most 53 binary digits before it is rounded. -/
theorem nearest_scaled_le {numerator denominator : Nat} (positive : 0 < denominator)
    {exponent : Int} (below : (numerator : ℚ) / denominator < (2 : ℚ) ^ (exponent + 53)) :
    nearest (scaled numerator denominator exponent).1 (scaled numerator denominator exponent).2 ≤
      mantissaLimit := by
  have scaledPositive := scaled_positive numerator positive exponent
  have scaledCast : (0 : ℚ) < (scaled numerator denominator exponent).2 := by
    exact_mod_cast scaledPositive
  have limit : (2 : ℚ) ^ (53 : Int) = (mantissaLimit : ℚ) := by norm_num [mantissaLimit]
  have bound : (numerator : ℚ) / denominator / (2 : ℚ) ^ exponent < mantissaLimit := by
    rwa [div_lt_iff₀ (zpow_pos (by norm_num) _), ← limit, ← zpow_add₀ (by norm_num), add_comm]
  apply nearest_le scaledPositive
  rw [← scaled_quotient numerator positive exponent, div_lt_iff₀ scaledCast] at bound
  exact_mod_cast bound

/-- The mantissa of a quotient has its leading binary digit if the quotient reaches it. -/
theorem le_nearest_scaled {numerator denominator : Nat} (positive : 0 < denominator)
    {exponent : Int} (reached : (2 : ℚ) ^ (exponent + 52) ≤ (numerator : ℚ) / denominator) :
    mantissaLimit / 2 ≤ nearest (scaled numerator denominator exponent).1
      (scaled numerator denominator exponent).2 := by
  have scaledPositive := scaled_positive numerator positive exponent
  have scaledCast : (0 : ℚ) < (scaled numerator denominator exponent).2 := by
    exact_mod_cast scaledPositive
  have limit : (2 : ℚ) ^ (52 : Int) = ((mantissaLimit / 2 : Nat) : ℚ) := by norm_num [mantissaLimit]
  have bound : ((mantissaLimit / 2 : Nat) : ℚ) ≤
      (numerator : ℚ) / denominator / (2 : ℚ) ^ exponent := by
    rwa [le_div_iff₀ (zpow_pos (by norm_num) _), ← limit, ← zpow_add₀ (by norm_num), add_comm]
  apply le_nearest scaledPositive
  rw [← scaled_quotient numerator positive exponent, le_div_iff₀ scaledCast] at bound
  exact_mod_cast bound

/-- The number nearest to a quotient is in normal form. -/
theorem normal_ofRatio (negative : Bool) (numerator : Nat) {denominator : Nat}
    (positive : 0 < denominator) : (ofRatio negative numerator denominator).Normal := by
  by_cases none : numerator = 0
  · simpa [ofRatio, none] using normal_zero negative
  obtain ⟨below, led⟩ := exponent_spec none positive rfl
  simp only [ofRatio, if_neg none]
  exact normal_ofMantissa negative (nearest_scaled_le positive below) (le_max_right _ _)
    (led.symm.imp_left (le_nearest_scaled positive))

/-! ## Operations -/

/-- The number of a decimal literal is in normal form. -/
theorem normal_ofDecimal (negative : Bool) (coefficient : Nat) (exponent : Int) :
    (ofDecimal negative coefficient exponent).Normal := by
  simp only [ofDecimal]
  split
  · exact normal_zero negative
  · split
    · trivial
    · split
      · exact normal_zero negative
      · split
        · exact normal_ofRatio negative coefficient (Nat.pow_pos (by decide))
        · exact normal_ofRatio negative _ (by decide)

/-- The number of a literal is in normal form. -/
theorem normal_ofLiteral (literal : Literal) : (ofLiteral literal).Normal := by
  cases literal with
  | nan negative => trivial
  | infinite negative => trivial
  | decimal negative coefficient exponent => exact normal_ofDecimal negative coefficient exponent

/-- A number that is read is in normal form. -/
theorem normal_parse {text : List Char} {number : Binary64} (read : parse text = .ok number) :
    number.Normal := by
  simp only [parse, Except.map] at read
  split at read
  · cases read
  · cases read
    exact normal_ofLiteral _

/-- The number nearest to a scaled magnitude is in normal form. -/
theorem normal_ofScaled (negative : Bool) (magnitude : Nat) (exponent : Int) :
    (ofScaled negative magnitude exponent).Normal := by
  simp only [ofScaled]
  split
  · exact normal_ofRatio negative magnitude (Nat.pow_pos (by decide))
  · exact normal_ofRatio negative _ (by decide)

/-- A sum is in normal form. -/
theorem normal_add (first second : Binary64) : (first.add second).Normal := by
  cases first <;> cases second <;> simp only [add]
  case finite.finite =>
    split
    · exact normal_zero _
    · exact normal_ofScaled _ _ _
  all_goals try split
  all_goals trivial

/-- The quotient by a positive natural is in normal form if the dividend is. -/
theorem normal_divNat {number : Binary64} (normal : number.Normal) {divisor : Nat}
    (positive : 0 < divisor) : (number.divNat divisor).Normal := by
  cases number with
  | nan negative => trivial
  | infinite negative => trivial
  | finite negative mantissa exponent =>
    simp only [divNat]
    split
    · exact normal_ofRatio negative mantissa (Nat.mul_pos positive (Nat.pow_pos (by decide)))
    · exact normal_ofRatio negative _ positive

end RulePlane.Number.Binary64

namespace RulePlane.Quantity

open Number (Binary64)

/-- The fraction of a ratio that can be read is in normal form. -/
theorem normal_parseRatio {text : String} {ratio : Binary64} (read : parseRatio text = .ok ratio) :
    ratio.Normal := by
  simp only [parseRatio, ratioOfTrimmed] at read
  split at read
  · cases read
  · split at read
    · split at read
      · rename_i parsed
        cases read
        exact Binary64.normal_divNat (Binary64.normal_parse parsed) (by decide)
      · cases read
    · split at read
      · rename_i parsed
        cases read
        exact Binary64.normal_parse parsed
      · cases read

end RulePlane.Quantity
