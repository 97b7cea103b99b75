/-!
# Bytes and varints

The integers of the wire format. A varint writes a natural in groups of seven bits, the lowest
first, and marks every group but the last. Negative integers are written as their residue modulo
`2 ^ 64`, so they take ten bytes. `readVarint?` is the reader to `varint`, and `readVarint?_varint`
says that it gives back what was written, whatever bytes follow.
-/

namespace RulePlane.Wire

-- A power of a number is core's own, also beside libraries that have another instance for it.
attribute [local instance (2000)] instPowNat

/-- A row of bytes. -/
abbrev Bytes := List UInt8

/-- Seven bits of a natural in each byte; the given number of bytes is followed by another. -/
def varintGroups : Nat → Nat → Bytes
  | 0, number => [number.toUInt8]
  | more + 1, number => (128 + number % 128).toUInt8 :: varintGroups more (number / 128)

/-- The varint of a natural: one byte for each seven bits, and one byte for zero. -/
def varint (number : Nat) : Bytes := varintGroups (number.log2 / 7) number

/-- Read a varint from the front of some bytes. -/
def readVarint? : Bytes → Option (Nat × Bytes)
  | [] => none
  | byte :: rest =>
      if byte.toNat < 128 then some (byte.toNat, rest)
      else (readVarint? rest).map fun (number, rest) => (byte.toNat - 128 + 128 * number, rest)

/-- The natural that stands for an integer in 64 bits: negative ones wrap around. -/
def wrap64 (number : Int) : Nat := (number % 0x10000000000000000).toNat

/-- The integer of 64 bits that a natural stands for. -/
def unwrap64 (number : Nat) : Int :=
  let residue := number % 0x10000000000000000
  if residue < 0x8000000000000000 then residue else (residue : Int) - 0x10000000000000000

/-- A natural below `256 ^ count` in that many bytes, the lowest first. -/
def littleEndian : Nat → Nat → Bytes
  | 0, _ => []
  | count + 1, number => (number % 256).toUInt8 :: littleEndian count (number / 256)

/-- Reading a varint gives back the written natural and leaves the bytes behind it. -/
theorem readVarint?_varintGroups (more number : Nat) (rest : Bytes)
    (small : number < 128 * 128 ^ more) (large : more = 0 ∨ 128 ^ more ≤ number) :
    readVarint? (varintGroups more number ++ rest) = some (number, rest) := by
  induction more generalizing number with
  | zero =>
    have bound : number < 128 := by simpa using small
    have exact : number.toUInt8.toNat = number := by
      simp [Nat.toUInt8]; omega
    simp [varintGroups, readVarint?, exact, bound]
  | succ more inductionHypothesis =>
    have bound : number < 128 * (128 * 128 ^ more) := by
      rw [Nat.pow_succ] at small; omega
    have positive : 0 < 128 ^ more := Nat.pow_pos (by decide)
    have enough : 128 * 128 ^ more ≤ number := by
      rcases large with impossible | enough
      · cases impossible
      · rw [Nat.pow_succ] at enough; omega
    have exact : ((128 + number % 128).toUInt8).toNat = 128 + number % 128 := by
      simp [Nat.toUInt8, UInt8.toNat_ofNat]; omega
    have tail := inductionHypothesis (number / 128)
      (Nat.div_lt_of_lt_mul bound) (Or.inr ((Nat.le_div_iff_mul_le (by decide)).2 (by omega)))
    simp only [varintGroups, List.cons_append, readVarint?, exact, tail, Option.map_some]
    rw [if_neg (by omega)]
    congr 2
    omega

/-- Reading a varint gives back the written natural and leaves the bytes behind it. -/
theorem readVarint?_varint (number : Nat) (rest : Bytes) :
    readVarint? (varint number ++ rest) = some (number, rest) := by
  have power (count : Nat) : 128 ^ count = 2 ^ (7 * count) := by
    rw [Nat.pow_mul]
  refine readVarint?_varintGroups _ number rest ?_ ?_
  · have below := Nat.lt_log2_self (n := number)
    refine Nat.lt_of_lt_of_le below ?_
    rw [power, show (128 : Nat) = 2 ^ 7 from rfl, ← Nat.pow_add]
    exact Nat.pow_le_pow_right (by decide) (by omega)
  · by_cases small : number.log2 / 7 = 0
    · exact Or.inl small
    · refine Or.inr ?_
      have positive : number ≠ 0 := by
        intro zero
        subst zero
        exact small (by decide)
      rw [power]
      exact Nat.le_trans (Nat.pow_le_pow_right (by decide) (by omega))
        (Nat.log2_self_le positive)

/-- An integer of 64 bits survives being wrapped. -/
theorem unwrap64_wrap64 (number : Int) (least : -0x8000000000000000 ≤ number)
    (greatest : number < 0x8000000000000000) :
    unwrap64 (wrap64 number) = number := by
  have wrapped : wrap64 number = (number % 0x10000000000000000).toNat := rfl
  simp only [unwrap64]
  split <;> omega

end RulePlane.Wire
