import Mathlib.Algebra.Order.Round
import Mathlib.Data.Rat.Floor
import Mathlib.Tactic.Ring
import RulePlane.Proofs.Binary64Bits

/-!
# Rounding to binary64

What the numbers that are computed here stand for, as rationals. Every operation gives the number
that is nearest to its exact result, and of two nearest ones that with the even mantissa; a result
that is at least halfway from the largest number to the next power of two is infinite. The exact
result is compared with the numbers of its own power of two, where the mantissa is an integer
nearest to a quotient; the numbers with smaller exponents all lie below the least of these.
-/

namespace RulePlane.Number

/-- A rational with a sign. -/
def withSign (negative : Bool) (magnitude : ℚ) : ℚ := if negative then -magnitude else magnitude

/-- The rational that a literal writes, unless it is a special word. -/
def Literal.value? : Literal → Option ℚ
  | .decimal negative coefficient exponent =>
      some (withSign negative (coefficient * (10 : ℚ) ^ exponent))
  | _ => none

namespace Binary64

-- A power of a number is core's own, as in the definition of the format.
attribute [local instance (2000)] instPowNat

/-- The rational that a finite number stands for. -/
def value? : Binary64 → Option ℚ
  | .finite negative mantissa exponent => some (withSign negative (mantissa * (2 : ℚ) ^ exponent))
  | _ => none

/-- Whether a rational is a finite number of the format. -/
def Representable (value : ℚ) : Prop :=
  ∃ mantissa exponent : Int, |mantissa| < mantissaLimit ∧ leastExponent ≤ exponent ∧
    exponent ≤ greatestExponent ∧ value = mantissa * (2 : ℚ) ^ exponent

/-- The least magnitude that is rounded to infinity. It is halfway between the largest number, with
    the last mantissa below the limit, and the next power of two. -/
def overflow : ℚ := ((mantissaLimit : ℚ) - 1 / 2) * (2 : ℚ) ^ greatestExponent

/-- Whether a value is a nearest one of the format, and has the even mantissa if there is another
    that is as near. -/
structure Nearest (exact value : ℚ) (mantissa : Nat) : Prop where
  nearest : ∀ other, Representable other → |exact - value| ≤ |exact - other|
  tie : ∀ other, Representable other → |exact - other| = |exact - value| →
    other = value ∨ mantissa % 2 = 0

/-- Whether a number is the rounding of a rational. -/
def Rounds (exact : ℚ) : Binary64 → Prop
  | .nan _ => False
  | .infinite negative => overflow ≤ withSign negative exact
  | .finite negative mantissa exponent =>
      |exact| < overflow ∧
        Nearest exact (withSign negative (mantissa * (2 : ℚ) ^ exponent)) mantissa

/-! ## Signs -/

/-- A sign does not change a magnitude. -/
theorem abs_withSign (negative : Bool) (magnitude : ℚ) :
    |withSign negative magnitude| = |magnitude| := by
  cases negative <;> simp [withSign]

/-- A zero has the same value with both signs. -/
@[simp] theorem withSign_zero (negative : Bool) : withSign negative 0 = 0 := by
  cases negative <;> simp [withSign]

/-- A sign that is put on twice is taken off. -/
@[simp] theorem withSign_withSign (negative : Bool) (magnitude : ℚ) :
    withSign negative (withSign negative magnitude) = magnitude := by
  cases negative <;> simp [withSign]

/-- Two numbers with a sign are as far apart as without it. -/
theorem abs_withSign_sub (negative : Bool) (first second : ℚ) :
    |withSign negative first - second| = |first - withSign negative second| := by
  cases negative
  · rfl
  · rw [← abs_neg]
    congr 1
    simp only [withSign, if_true]
    ring

/-- The format has every number with both signs. -/
theorem Representable.withSign {value : ℚ} (represented : Representable value) (negative : Bool) :
    Representable (withSign negative value) := by
  obtain ⟨mantissa, exponent, small, least, largest, same⟩ := represented
  cases negative
  · exact ⟨mantissa, exponent, small, least, largest, same⟩
  · refine ⟨-mantissa, exponent, by rwa [abs_neg], least, largest, ?_⟩
    simp [Number.withSign, same]

/-- The rounding of the opposite rational is the opposite number. -/
theorem Nearest.withSign {exact value : ℚ} {mantissa : Nat} (near : Nearest exact value mantissa)
    (negative : Bool) :
    Nearest (withSign negative exact) (withSign negative value) mantissa where
  nearest other represented := by
    rw [abs_withSign_sub, abs_withSign_sub, withSign_withSign]
    exact near.nearest _ (represented.withSign negative)
  tie other represented same := by
    rw [abs_withSign_sub, abs_withSign_sub, withSign_withSign] at same
    refine (near.tie _ (represented.withSign negative) same).imp_left fun equal => ?_
    rw [← equal, withSign_withSign]

/-- A nearest value with an even mantissa needs no other mantissa to be even. -/
theorem Nearest.of_even {exact value : ℚ} {mantissa evenMantissa : Nat}
    (near : Nearest exact value mantissa) (even : evenMantissa % 2 = 0) :
    Nearest exact value evenMantissa :=
  ⟨near.nearest, fun _ _ _ => .inr even⟩

/-! ## The nearest integer -/

/-- The nearest integer misses the numerator by half the denominator at most, and is even if it
    misses it by that much. -/
theorem nearest_bounds (numerator : Nat) {denominator : Nat} (positive : 0 < denominator) :
    2 * (nearest numerator denominator * denominator) ≤ 2 * numerator + denominator ∧
      2 * numerator ≤ 2 * (nearest numerator denominator * denominator) + denominator ∧
      (2 * (nearest numerator denominator * denominator) = 2 * numerator + denominator ∨
        2 * numerator = 2 * (nearest numerator denominator * denominator) + denominator →
        nearest numerator denominator % 2 = 0) := by
  have parts := Nat.div_add_mod' numerator denominator
  have remainder := Nat.mod_lt numerator positive
  have next : (numerator / denominator + 1) * denominator =
      numerator / denominator * denominator + denominator := Nat.succ_mul _ _
  simp only [nearest]
  split
  · omega
  · split
    · rw [next]
      omega
    · split
      · omega
      · rw [next]
        omega

/-- The integer nearest to a quotient is at most a half away, and even if it is that far. -/
theorem abs_sub_nearest_le (numerator : Nat) {denominator : Nat} (positive : 0 < denominator) :
    |(numerator : ℚ) / denominator - nearest numerator denominator| ≤ 1 / 2 ∧
      (|(numerator : ℚ) / denominator - nearest numerator denominator| = 1 / 2 →
        nearest numerator denominator % 2 = 0) := by
  have cast : (0 : ℚ) < denominator := by exact_mod_cast positive
  obtain ⟨lower, upper, even⟩ := nearest_bounds numerator positive
  set whole := nearest numerator denominator
  have lower : (2 : ℚ) * (whole * denominator) ≤ 2 * numerator + denominator := by
    exact_mod_cast lower
  have upper : (2 : ℚ) * numerator ≤ 2 * (whole * denominator) + denominator := by
    exact_mod_cast upper
  have product : (numerator : ℚ) = numerator / denominator * denominator :=
    (div_mul_cancel₀ _ cast.ne').symm
  set quotient : ℚ := (numerator : ℚ) / denominator
  constructor
  · rw [abs_le]
    constructor
    · refine le_of_mul_le_mul_right ?_ cast
      linarith
    · refine le_of_mul_le_mul_right ?_ cast
      linarith
  · intro half
    apply even
    rcases (abs_eq (by norm_num)).1 half with above | below
    · right
      have above : (2 : ℚ) * numerator = 2 * (whole * denominator) + denominator := by
        rw [product, sub_eq_iff_eq_add.1 above]
        ring
      exact_mod_cast above
    · left
      have below : (2 : ℚ) * (whole * denominator) = 2 * numerator + denominator := by
        rw [product, sub_eq_iff_eq_add.1 below]
        ring
      exact_mod_cast below

/-- No integer is nearer to a quotient than the nearest, and it is even if another is as near. -/
theorem nearest_closest (numerator : Nat) {denominator : Nat} (positive : 0 < denominator)
    (whole : Int) :
    |(numerator : ℚ) / denominator - nearest numerator denominator| ≤
        |(numerator : ℚ) / denominator - whole| ∧
      (|(numerator : ℚ) / denominator - whole| =
          |(numerator : ℚ) / denominator - nearest numerator denominator| →
        whole = nearest numerator denominator ∨ nearest numerator denominator % 2 = 0) := by
  obtain ⟨half, even⟩ := abs_sub_nearest_le numerator positive
  by_cases same : whole = nearest numerator denominator
  · subst same
    exact ⟨le_rfl, fun _ => .inl rfl⟩
  -- Another integer is at least one away from the nearest, so at least a half from the quotient.
  have apart : (1 : ℚ) ≤ |(whole : ℚ) - nearest numerator denominator| := by
    exact_mod_cast Int.one_le_abs (sub_ne_zero.2 same)
  have triangle := abs_sub_le (whole : ℚ) ((numerator : ℚ) / denominator)
    (nearest numerator denominator)
  rw [abs_sub_comm (whole : ℚ) ((numerator : ℚ) / denominator)] at triangle
  exact ⟨by linarith, fun equal => .inr (even (by linarith))⟩

/-! ## The nearest number of the format -/

/-- Numbers with an exponent that is not less are whole multiples of a power of two. -/
theorem whole_of_le (mantissa : Int) {exponent least : Int} (order : least ≤ exponent) :
    ∃ whole : Int, (mantissa : ℚ) * (2 : ℚ) ^ exponent = whole * (2 : ℚ) ^ least := by
  refine ⟨mantissa * 2 ^ (exponent - least).toNat, ?_⟩
  push_cast
  rw [mul_assoc, ← zpow_natCast, ← zpow_add₀ two_ne_zero]
  congr 2
  omega

/-- Numbers with a smaller exponent are smaller than all with the leading binary digit. -/
theorem lt_of_exponent_lt {mantissa exponent greater : Int} (small : |mantissa| < mantissaLimit)
    (order : exponent < greater) :
    (mantissa : ℚ) * (2 : ℚ) ^ exponent < (2 : ℚ) ^ (greater + 52) := by
  have limit : (mantissaLimit : ℚ) = (2 : ℚ) ^ (53 : Int) := by norm_num [mantissaLimit]
  have cast : (mantissa : ℚ) < (2 : ℚ) ^ (53 : Int) := by
    rw [← limit]
    exact_mod_cast (le_abs_self mantissa).trans_lt small
  calc (mantissa : ℚ) * (2 : ℚ) ^ exponent
      < (2 : ℚ) ^ (53 : Int) * (2 : ℚ) ^ exponent := by gcongr
    _ = (2 : ℚ) ^ (exponent + 53) := by
        rw [← zpow_add₀ two_ne_zero]
        congr 1
        omega
    _ ≤ (2 : ℚ) ^ (greater + 52) := zpow_le_zpow_right₀ (by norm_num) (by omega)

section Scaled

variable {numerator denominator mantissa : Nat} {exponent : Int}

/-- The integer nearest to a scaled quotient, scaled back, is nearest to the quotient among the
    whole multiples of the power of two. -/
theorem nearest_multiple (positive : 0 < denominator)
    (rounded : mantissa = nearest (scaled numerator denominator exponent).1
      (scaled numerator denominator exponent).2) (whole : Int) :
    |(numerator : ℚ) / denominator - mantissa * (2 : ℚ) ^ exponent| ≤
        |(numerator : ℚ) / denominator - whole * (2 : ℚ) ^ exponent| ∧
      (|(numerator : ℚ) / denominator - whole * (2 : ℚ) ^ exponent| =
          |(numerator : ℚ) / denominator - mantissa * (2 : ℚ) ^ exponent| →
        (whole : ℚ) * (2 : ℚ) ^ exponent = mantissa * (2 : ℚ) ^ exponent ∨ mantissa % 2 = 0) := by
  have power : (0 : ℚ) < (2 : ℚ) ^ exponent := zpow_pos two_pos _
  obtain ⟨closest, tie⟩ := nearest_closest (scaled numerator denominator exponent).1
    (scaled_positive numerator positive exponent) whole
  rw [scaled_quotient numerator positive exponent, ← rounded] at closest tie
  set exact : ℚ := (numerator : ℚ) / denominator
  have away (multiple : ℚ) : |exact - multiple * (2 : ℚ) ^ exponent| =
      |exact / (2 : ℚ) ^ exponent - multiple| * (2 : ℚ) ^ exponent := by
    rw [← abs_of_pos power, ← abs_mul, sub_mul, abs_of_pos power, div_mul_cancel₀ _ power.ne']
  rw [away mantissa, away whole]
  refine ⟨mul_le_mul_of_nonneg_right closest power.le, fun same => ?_⟩
  refine (tie (mul_right_cancel₀ power.ne' same)).imp_left fun equal => ?_
  rw [equal, Int.cast_natCast]

/-- It is nearer than every number below the least one with the leading digit, unless the quotient
    is below that one too: the least one with the leading digit is a whole multiple. -/
theorem nearer_than_small (positive : 0 < denominator)
    (rounded : mantissa = nearest (scaled numerator denominator exponent).1
      (scaled numerator denominator exponent).2)
    (reached : (2 : ℚ) ^ (exponent + 52) ≤ (numerator : ℚ) / denominator) {other : ℚ}
    (below : other < (2 : ℚ) ^ (exponent + 52)) :
    |(numerator : ℚ) / denominator - mantissa * (2 : ℚ) ^ exponent| <
      |(numerator : ℚ) / denominator - other| := by
  have least := (nearest_multiple positive rounded (2 ^ 52)).1
  have same : (((2 : Int) ^ 52 : Int) : ℚ) * (2 : ℚ) ^ exponent = (2 : ℚ) ^ (exponent + 52) := by
    rw [zpow_add₀ two_ne_zero]
    push_cast
    rw [mul_comm]
  rw [same, abs_of_nonneg (sub_nonneg.2 reached)] at least
  rw [abs_of_pos (sub_pos.2 (below.trans_le reached))]
  linarith

/-- So it is nearest among all numbers of the format: those with a smaller exponent are below the
    least one with the leading digit, and the others are whole multiples. -/
theorem nearest_of_exponent (positive : 0 < denominator)
    (led : exponent = leastExponent ∨ (2 : ℚ) ^ (exponent + 52) ≤ (numerator : ℚ) / denominator)
    (rounded : mantissa = nearest (scaled numerator denominator exponent).1
      (scaled numerator denominator exponent).2) :
    Nearest ((numerator : ℚ) / denominator) (mantissa * (2 : ℚ) ^ exponent) mantissa := by
  constructor
  · rintro other ⟨otherMantissa, otherExponent, small, least, -, rfl⟩
    rcases le_or_gt exponent otherExponent with high | low
    · obtain ⟨whole, same⟩ := whole_of_le otherMantissa high
      rw [same]
      exact (nearest_multiple positive rounded whole).1
    · have reached := led.resolve_left (by omega)
      exact (nearer_than_small positive rounded reached (lt_of_exponent_lt small low)).le
  · rintro other ⟨otherMantissa, otherExponent, small, least, -, rfl⟩ equal
    rcases le_or_gt exponent otherExponent with high | low
    · obtain ⟨whole, same⟩ := whole_of_le otherMantissa high
      rw [same] at equal ⊢
      exact (nearest_multiple positive rounded whole).2 equal
    · have reached := led.resolve_left (by omega)
      have nearer := nearer_than_small positive rounded reached (lt_of_exponent_lt small low)
      exact absurd equal nearer.ne'

end Scaled

/-! ## Overflow -/

/-- Below the powers of two of the largest numbers there is no overflow. -/
theorem lt_overflow {exact : ℚ} {exponent : Int} (below : exact < (2 : ℚ) ^ (exponent + 53))
    (small : exponent < greatestExponent) : exact < overflow :=
  calc exact < (2 : ℚ) ^ (exponent + 53) := below
    _ ≤ (2 : ℚ) ^ ((52 : Int) + greatestExponent) :=
        zpow_le_zpow_right₀ (by norm_num) (by omega)
    _ = (2 : ℚ) ^ (52 : Int) * (2 : ℚ) ^ greatestExponent := zpow_add₀ two_ne_zero _ _
    _ ≤ overflow := by
        rw [overflow]
        gcongr
        norm_num [mantissaLimit]

/-- Every number of the format is below the limit. -/
theorem Representable.lt_overflow {value : ℚ} (represented : Representable value) :
    |value| < overflow := by
  obtain ⟨mantissa, exponent, small, -, largest, rfl⟩ := represented
  have last : |(mantissa : ℚ)| ≤ mantissaLimit - 1 := by
    have last : |mantissa| ≤ (mantissaLimit : Int) - 1 := by omega
    exact_mod_cast last
  have power : (0 : ℚ) < (2 : ℚ) ^ greatestExponent := zpow_pos two_pos _
  calc |(mantissa : ℚ) * (2 : ℚ) ^ exponent| = |(mantissa : ℚ)| * (2 : ℚ) ^ exponent := by
        rw [abs_mul, abs_of_pos (zpow_pos two_pos exponent : (0 : ℚ) < _)]
    _ ≤ |(mantissa : ℚ)| * (2 : ℚ) ^ greatestExponent :=
        mul_le_mul_of_nonneg_left (zpow_le_zpow_right₀ (by norm_num) largest) (abs_nonneg _)
    _ < overflow := mul_lt_mul_of_pos_right (by linarith) power

/-- Every number of the format but zero has at least the magnitude of the least one. -/
theorem Representable.least_le_abs {value : ℚ} (represented : Representable value)
    (some : value ≠ 0) : (2 : ℚ) ^ leastExponent ≤ |value| := by
  obtain ⟨mantissa, exponent, -, least, -, rfl⟩ := represented
  have filled : mantissa ≠ 0 := by
    rintro rfl
    exact some (by simp)
  have one : (1 : ℚ) ≤ |(mantissa : ℚ)| := by exact_mod_cast Int.one_le_abs filled
  calc (2 : ℚ) ^ leastExponent ≤ (2 : ℚ) ^ exponent := zpow_le_zpow_right₀ (by norm_num) least
    _ ≤ |(mantissa : ℚ)| * (2 : ℚ) ^ exponent := le_mul_of_one_le_left (zpow_pos two_pos _).le one
    _ = |(mantissa : ℚ) * (2 : ℚ) ^ exponent| := by
        rw [abs_mul, abs_of_pos (zpow_pos two_pos exponent : (0 : ℚ) < _)]

/-- From the power of two beyond the largest numbers on there is overflow. -/
theorem overflow_le {exact : ℚ} {exponent : Int} (reached : (2 : ℚ) ^ (exponent + 52) ≤ exact)
    (large : greatestExponent < exponent) : overflow ≤ exact :=
  calc overflow ≤ (2 : ℚ) ^ (53 : Int) * (2 : ℚ) ^ greatestExponent := by
        rw [overflow]
        gcongr
        norm_num [mantissaLimit]
    _ = (2 : ℚ) ^ ((53 : Int) + greatestExponent) := (zpow_add₀ two_ne_zero _ _).symm
    _ ≤ (2 : ℚ) ^ (exponent + 52) := zpow_le_zpow_right₀ (by norm_num) (by omega)
    _ ≤ exact := reached

/-- With the exponent of the largest numbers, there is overflow exactly if the mantissa is rounded
    to the limit: the last mantissa below it is odd, so a tie goes up. -/
theorem overflow_le_iff {exact : ℚ} {mantissa : Nat} (small : mantissa ≤ mantissaLimit)
    (close : |exact / (2 : ℚ) ^ greatestExponent - mantissa| ≤ 1 / 2)
    (even : |exact / (2 : ℚ) ^ greatestExponent - mantissa| = 1 / 2 → mantissa % 2 = 0) :
    overflow ≤ exact ↔ mantissa = mantissaLimit := by
  have power : (0 : ℚ) < (2 : ℚ) ^ greatestExponent := zpow_pos two_pos _
  rw [overflow, ← le_div_iff₀ power]
  set scaled : ℚ := exact / (2 : ℚ) ^ greatestExponent
  obtain ⟨lower, upper⟩ := abs_le.1 close
  constructor
  · intro reached
    by_contra different
    have last : (mantissa : ℚ) + 1 ≤ mantissaLimit := by
      exact_mod_cast lt_of_le_of_ne small different
    have half : scaled - mantissa = 1 / 2 := by linarith
    have above : mantissa = mantissaLimit - 1 := by
      have : (mantissa : ℚ) + 1 = mantissaLimit := by linarith
      have : mantissa + 1 = mantissaLimit := by exact_mod_cast this
      omega
    have parity := even (by rw [half]; norm_num)
    rw [above] at parity
    exact absurd parity (by decide)
  · rintro rfl
    linarith

/-! ## Operations -/

/-- A magnitude below half the least number is rounded to zero. -/
theorem rounds_zero_of_small {exact : ℚ} (negative : Bool) (nonnegative : 0 ≤ exact)
    (small : 2 * exact ≤ (2 : ℚ) ^ leastExponent) :
    Rounds (withSign negative exact) (zero negative) := by
  have own : ((0 : Nat) : ℚ) * (2 : ℚ) ^ leastExponent = 0 := by simp
  have below : exact < (2 : ℚ) ^ (leastExponent + 53) := by
    have power : (0 : ℚ) < (2 : ℚ) ^ leastExponent := zpow_pos two_pos _
    calc exact < (2 : ℚ) ^ leastExponent := by linarith
      _ ≤ (2 : ℚ) ^ (leastExponent + 53) := zpow_le_zpow_right₀ (by norm_num) (by omega)
  refine ⟨?_, ?_⟩
  · rw [abs_withSign, abs_of_nonneg nonnegative]
    exact lt_overflow below (by decide)
  · rw [own]
    refine Nearest.withSign ⟨?_, fun _ _ _ => .inr rfl⟩ negative
    intro other represented
    by_cases none : other = 0
    · rw [none]
    -- Any other number is at least the least one, so the rational is nearer to zero.
    have far := represented.least_le_abs none
    have triangle := abs_sub_abs_le_abs_sub other exact
    rw [abs_sub_comm other exact] at triangle
    rw [sub_zero]
    rw [abs_of_nonneg nonnegative] at triangle ⊢
    linarith

/-- A zero is the rounding of zero, whatever its sign. -/
theorem rounds_zero (negative : Bool) : Rounds 0 (zero negative) := by
  have power : (0 : ℚ) ≤ (2 : ℚ) ^ leastExponent := (zpow_pos two_pos _).le
  have rounds := rounds_zero_of_small negative le_rfl (by rwa [mul_zero])
  rwa [withSign_zero] at rounds

/-- The number of a rounded mantissa is the rounding of a rational if the mantissa is. -/
theorem rounds_ofMantissa {exact : ℚ} {mantissa : Nat} {exponent : Int} (negative : Bool)
    (nonnegative : 0 ≤ exact) (small : mantissa ≤ mantissaLimit)
    (least : leastExponent ≤ exponent) (below : exact < (2 : ℚ) ^ (exponent + 53))
    (led : exponent = leastExponent ∨ (2 : ℚ) ^ (exponent + 52) ≤ exact)
    (near : Nearest exact (mantissa * (2 : ℚ) ^ exponent) mantissa)
    (close : |exact / (2 : ℚ) ^ exponent - mantissa| ≤ 1 / 2)
    (even : |exact / (2 : ℚ) ^ exponent - mantissa| = 1 / 2 → mantissa % 2 = 0) :
    Rounds (withSign negative exact) (ofMantissa negative mantissa exponent) := by
  -- Whether there is overflow is a question of the exponent alone unless it is the greatest.
  have limit : overflow ≤ exact ↔ greatestExponent < exponent ∨
      exponent = greatestExponent ∧ mantissa = mantissaLimit := by
    rcases lt_trichotomy exponent greatestExponent with lower | rfl | higher
    · have : exact < overflow := lt_overflow below lower
      constructor
      · intro reached
        exact absurd reached this.not_ge
      · rintro (higher | ⟨same, _⟩) <;> omega
    · simp [overflow_le_iff small close even]
    · have reached := led.resolve_left fun same => by
        subst same
        exact absurd higher (by decide)
      simp [overflow_le reached higher, higher]
  by_cases carried : mantissa = mantissaLimit
  · have same : ((mantissaLimit / 2 : Nat) : ℚ) * (2 : ℚ) ^ (exponent + 1) =
        mantissa * (2 : ℚ) ^ exponent := by
      rw [carried, zpow_add₀ two_ne_zero, zpow_one]
      norm_num [mantissaLimit]
      ring
    simp only [ofMantissa, if_pos carried]
    split
    · rename_i large
      simpa [Rounds] using limit.2 (by omega)
    · rename_i notLarge
      refine ⟨?_, ?_⟩
      · rw [abs_withSign, abs_of_nonneg nonnegative]
        exact not_le.1 fun reached => by have := limit.1 reached; omega
      · rw [same]
        exact (near.withSign negative).of_even (by decide)
  · simp only [ofMantissa, if_neg carried]
    split
    · rename_i large
      simpa [Rounds] using limit.2 (.inl large)
    · rename_i notLarge
      refine ⟨?_, near.withSign negative⟩
      rw [abs_withSign, abs_of_nonneg nonnegative]
      exact not_le.1 fun reached => by have := limit.1 reached; omega

/-- The number computed for a quotient with a sign is its rounding. -/
theorem rounds_ofRatio (negative : Bool) (numerator : Nat) {denominator : Nat}
    (positive : 0 < denominator) :
    Rounds (withSign negative ((numerator : ℚ) / denominator))
      (ofRatio negative numerator denominator) := by
  by_cases none : numerator = 0
  · subst none
    simpa [ofRatio] using rounds_zero negative
  obtain ⟨below, led⟩ := exponent_spec none positive rfl
  obtain ⟨close, even⟩ := abs_sub_nearest_le _ (scaled_positive numerator positive _)
  rw [scaled_quotient numerator positive] at close even
  simp only [ofRatio, if_neg none]
  exact rounds_ofMantissa negative (by positivity) (nearest_scaled_le positive below)
    (le_max_right _ _) below led (nearest_of_exponent positive led rfl) close even

/-- A power that is divided by or multiplied with is a power with an exponent of either sign. -/
theorem quotient_of_negative (number base : Nat) {exponent : Int} (negative : exponent < 0) :
    (number : ℚ) / (base ^ exponent.natAbs : Nat) = number * (base : ℚ) ^ exponent := by
  have opposite : exponent = -(exponent.natAbs : Int) := by omega
  rw [div_eq_mul_inv]
  conv_rhs => rw [opposite, zpow_neg, zpow_natCast]
  push_cast
  rfl

/-- The same for a product. -/
theorem product_of_nonnegative (number base : Nat) {exponent : Int} (nonnegative : ¬ exponent < 0) :
    ((number * base ^ exponent.natAbs : Nat) : ℚ) / (1 : Nat) = number * (base : ℚ) ^ exponent := by
  have same : exponent = (exponent.natAbs : Int) := by omega
  conv_rhs => rw [same, zpow_natCast]
  push_cast
  rw [div_one]

/-- The number computed for a scaled magnitude is its rounding. -/
theorem rounds_ofScaled (negative : Bool) (magnitude : Nat) (exponent : Int) :
    Rounds (withSign negative (magnitude * (2 : ℚ) ^ exponent))
      (ofScaled negative magnitude exponent) := by
  simp only [ofScaled]
  split
  · rename_i below
    have rounds := rounds_ofRatio negative magnitude (Nat.pow_pos two_pos : 0 < 2 ^ exponent.natAbs)
    rwa [quotient_of_negative magnitude 2 below] at rounds
  · rename_i above
    have rounds := rounds_ofRatio negative (magnitude * 2 ^ exponent.natAbs) one_pos
    rwa [product_of_nonnegative magnitude 2 above] at rounds

/-- The digits of a positive number tell its magnitude. -/
theorem decimalLength_bounds {number : Nat} (some : number ≠ 0) :
    (10 : ℚ) ^ ((decimalLength number : Int) - 1) ≤ number ∧
      (number : ℚ) < (10 : ℚ) ^ (decimalLength number : Int) := by
  have filled : 0 < decimalLength number := Nat.length_toDigits_pos
  have length (bound : Nat) (positive : 0 < bound) :
      decimalLength number ≤ bound ↔ number < 10 ^ bound :=
    Nat.length_toDigits_le_iff (by decide) positive
  constructor
  · obtain ⟨shorter, same⟩ : ∃ shorter, decimalLength number = shorter + 1 :=
      ⟨decimalLength number - 1, by omega⟩
    have exponent : ((decimalLength number : Int) - 1) = (shorter : Int) := by omega
    rw [exponent, zpow_natCast]
    by_cases single : shorter = 0
    · subst single
      rw [pow_zero]
      exact_mod_cast Nat.one_le_iff_ne_zero.2 some
    · have reached : 10 ^ shorter ≤ number := by
        by_contra less
        have := (length shorter (by omega)).2 (not_le.1 less)
        omega
      exact_mod_cast reached
  · rw [zpow_natCast]
    exact_mod_cast (length _ filled).1 le_rfl

/-- Powers of naturals compare as their rational powers do. -/
theorem zpow_le_zpow_of_pow_le {base other power otherPower : Nat}
    (order : base ^ power ≤ other ^ otherPower) :
    (base : ℚ) ^ (power : Int) ≤ (other : ℚ) ^ (otherPower : Int) := by
  rw [zpow_natCast, zpow_natCast]
  exact_mod_cast order

/-- What has more than 310 digits is beyond the largest numbers. -/
theorem large_decimal : (2 : ℚ) ^ (greatestExponent + 1 + 52) ≤ (10 : ℚ) ^ (310 : Int) := by
  have order := zpow_le_zpow_of_pow_le (by decide +kernel : 2 ^ 1024 ≤ 10 ^ 310)
  rw [show greatestExponent + 1 + 52 = 1024 by rfl]
  simpa only [Nat.cast_ofNat] using order

/-- What has more than 330 zeros behind the point is below half the least number. -/
theorem small_decimal : 2 * (10 : ℚ) ^ (-331 : Int) ≤ (2 : ℚ) ^ leastExponent := by
  have order := zpow_le_zpow_of_pow_le (by decide +kernel : 2 ^ 1075 ≤ 10 ^ 331)
  simp only [Nat.cast_ofNat] at order
  have half : (2 : ℚ) ^ leastExponent = 2 * (2 : ℚ) ^ (-1075 : Int) := by
    rw [show leastExponent = 1 + -1075 by rfl, zpow_add₀ two_ne_zero, zpow_one]
  rw [half, zpow_neg, zpow_neg]
  gcongr

/-- The number computed for a decimal is its rounding, also where it is settled by the number of
    digits alone. -/
theorem rounds_ofDecimal (negative : Bool) (coefficient : Nat) (exponent : Int) :
    Rounds (withSign negative (coefficient * (10 : ℚ) ^ exponent))
      (ofDecimal negative coefficient exponent) := by
  by_cases none : coefficient = 0
  · subst none
    simpa [ofDecimal] using rounds_zero negative
  have power : (0 : ℚ) < (10 : ℚ) ^ exponent := zpow_pos (by norm_num) _
  obtain ⟨reached, below⟩ := decimalLength_bounds none
  simp only [ofDecimal, if_neg none]
  split
  · rename_i long
    have large : (2 : ℚ) ^ (greatestExponent + 1 + 52) ≤ coefficient * (10 : ℚ) ^ exponent :=
      calc (2 : ℚ) ^ (greatestExponent + 1 + 52) ≤ (10 : ℚ) ^ (310 : Int) := large_decimal
        _ ≤ (10 : ℚ) ^ ((decimalLength coefficient : Int) - 1 + exponent) :=
            zpow_le_zpow_right₀ (by norm_num) (by omega)
        _ = (10 : ℚ) ^ ((decimalLength coefficient : Int) - 1) * (10 : ℚ) ^ exponent :=
            zpow_add₀ (by norm_num) _ _
        _ ≤ coefficient * (10 : ℚ) ^ exponent := by gcongr
    simpa [Rounds] using overflow_le large (by omega)
  · split
    · rename_i short
      have small : coefficient * (10 : ℚ) ^ exponent ≤ (10 : ℚ) ^ (-331 : Int) :=
        calc coefficient * (10 : ℚ) ^ exponent
            ≤ (10 : ℚ) ^ (decimalLength coefficient : Int) * (10 : ℚ) ^ exponent := by gcongr
          _ = (10 : ℚ) ^ ((decimalLength coefficient : Int) + exponent) :=
              (zpow_add₀ (by norm_num) _ _).symm
          _ ≤ (10 : ℚ) ^ (-331 : Int) := zpow_le_zpow_right₀ (by norm_num) (by omega)
      have half : 2 * (coefficient * (10 : ℚ) ^ exponent) ≤ (2 : ℚ) ^ leastExponent :=
        (mul_le_mul_of_nonneg_left small two_pos.le).trans small_decimal
      exact rounds_zero_of_small negative (by positivity) half
    · split
      · rename_i below
        have rounds := rounds_ofRatio negative coefficient
          (Nat.pow_pos (by decide) : 0 < 10 ^ exponent.natAbs)
        rwa [quotient_of_negative coefficient 10 below] at rounds
      · rename_i above
        have rounds := rounds_ofRatio negative (coefficient * 10 ^ exponent.natAbs) one_pos
        rwa [product_of_nonnegative coefficient 10 above] at rounds

/-- The number of a literal is the rounding of what the literal writes. -/
theorem rounds_ofLiteral {literal : Literal} {exact : ℚ} (written : literal.value? = some exact) :
    Rounds exact (ofLiteral literal) := by
  cases literal with
  | nan negative => cases written
  | infinite negative => cases written
  | decimal negative coefficient exponent =>
    cases written
    exact rounds_ofDecimal negative coefficient exponent

/-- A number of the format is not rounded. -/
theorem Rounds.value?_eq {exact : ℚ} {number : Binary64} (rounds : Rounds exact number)
    (represented : Representable exact) : number.value? = some exact := by
  cases number with
  | nan negative => exact absurd rounds id
  | infinite negative =>
    have reached : overflow ≤ |exact| := by
      rw [← abs_withSign negative]
      exact le_trans rounds (le_abs_self _)
    exact absurd represented.lt_overflow reached.not_gt
  | finite negative mantissa exponent =>
    have same := rounds.2.nearest exact represented
    rw [sub_self, abs_zero, abs_nonpos_iff, sub_eq_zero] at same
    rw [same]
    rfl

/-- A natural below the limit of mantissas is its own number. -/
theorem value?_ofNat {number : Nat} (small : number < mantissaLimit) :
    (ofNat number).value? = some (number : ℚ) := by
  have rounds : Rounds (withSign false ((number : ℚ) / (1 : Nat))) (ofNat number) :=
    rounds_ofRatio false number one_pos
  simp only [withSign, Bool.false_eq_true, if_false, Nat.cast_one, div_one] at rounds
  refine rounds.value?_eq ⟨number, 0, ?_, by decide, by decide, by simp⟩
  rw [abs_of_nonneg (Int.natCast_nonneg _)]
  exact_mod_cast small

/-- A product is the rounding of the exact product. -/
theorem rounds_mul {first second : Binary64} {one other : ℚ} (left : first.value? = some one)
    (right : second.value? = some other) : Rounds (one * other) (first.mul second) := by
  cases first <;> cases second <;> simp only [value?, Option.some.injEq, reduceCtorEq] at left right
  case finite.finite negative mantissa exponent negative' mantissa' exponent' =>
    have product : one * other = withSign (negative != negative')
        ((mantissa * mantissa' : Nat) * (2 : ℚ) ^ (exponent + exponent')) := by
      rw [← left, ← right, zpow_add₀ two_ne_zero]
      cases negative <;> cases negative' <;> simp [withSign] <;> ring
    rw [product]
    exact rounds_ofScaled _ _ _

/-- A mantissa with its sign, as a rational. -/
theorem cast_signed (negative : Bool) (mantissa : Nat) :
    ((signed negative mantissa : Int) : ℚ) = withSign negative mantissa := by
  cases negative <;> simp [signed, withSign]

/-- A number in terms of a smaller power of two. -/
theorem withSign_lowered (negative : Bool) (mantissa : Nat) {exponent least : Int}
    (order : least ≤ exponent) :
    withSign negative (mantissa * (2 : ℚ) ^ exponent) =
      (signed negative (mantissa * 2 ^ (exponent - least).natAbs) : Int) * (2 : ℚ) ^ least := by
  have power : (2 : ℚ) ^ exponent = 2 ^ (exponent - least).natAbs * (2 : ℚ) ^ least := by
    rw [← zpow_natCast, ← zpow_add₀ two_ne_zero]
    congr 1
    omega
  rw [cast_signed, power]
  cases negative <;> simp [withSign, mul_assoc]

/-- A sum is the rounding of the exact sum. -/
theorem rounds_add {first second : Binary64} {one other : ℚ} (left : first.value? = some one)
    (right : second.value? = some other) : Rounds (one + other) (first.add second) := by
  cases first <;> cases second <;> simp only [value?, Option.some.injEq, reduceCtorEq] at left right
  case finite.finite negative mantissa exponent negative' mantissa' exponent' =>
    simp only [add]
    set least := min exponent exponent' with lowered
    set total := signed negative (mantissa * 2 ^ (exponent - least).natAbs) +
      signed negative' (mantissa' * 2 ^ (exponent' - least).natAbs) with summed
    have exact : one + other = (total : ℚ) * (2 : ℚ) ^ least := by
      rw [← left, ← right, withSign_lowered negative mantissa (min_le_left exponent exponent'),
        withSign_lowered negative' mantissa' (min_le_right exponent exponent'), ← add_mul, summed]
      push_cast
      rfl
    split
    · rename_i none
      rw [exact, none]
      simpa using rounds_zero (negative && negative')
    · have magnitude : (total : ℚ) * (2 : ℚ) ^ least =
          withSign (total < 0) (total.natAbs * (2 : ℚ) ^ least) := by
        rw [Nat.cast_natAbs]
        by_cases below : total < 0
        · simp [withSign, below, abs_of_neg below]
        · simp [withSign, below, abs_of_nonneg (not_lt.1 below)]
      rw [exact, magnitude]
      exact rounds_ofScaled _ _ _

/-! ## Whole numbers -/

/-- The whole magnitude that is reported for a finite one is the nearest integer, a half upwards. -/
theorem roundMagnitude_eq_round (mantissa : Nat) (exponent : Int) :
    (roundMagnitude mantissa exponent : Int) = round ((mantissa : ℚ) * (2 : ℚ) ^ exponent) := by
  unfold roundMagnitude
  split
  · rename_i below
    have power : (2 : ℚ) ^ exponent.natAbs ≠ 0 := pow_ne_zero _ two_ne_zero
    have shifted : (mantissa : ℚ) * (2 : ℚ) ^ exponent + 1 / 2 =
        ((2 * mantissa + 2 ^ exponent.natAbs : Nat) : ℚ) / (2 * 2 ^ exponent.natAbs : Nat) := by
      have quotient := quotient_of_negative mantissa 2 below
      rw [Nat.cast_ofNat] at quotient
      rw [← quotient]
      push_cast
      field_simp
    rw [round_eq, shifted, Rat.floor_natCast_div_natCast]
    push_cast
    rfl
  · rename_i above
    have product := product_of_nonnegative mantissa 2 above
    simp only [Nat.cast_ofNat, Nat.cast_one, div_one] at product
    rw [← product, round_natCast]

end Binary64

end RulePlane.Number
