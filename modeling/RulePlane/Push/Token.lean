import RulePlane.Text.Quoted

/-!
# Tokens

Two kinds of values that never come back: opaque tokens, which answers are recognised by, and
versions, which tell an old answer from a new one. Both are made from a clock reading, but neither
relies on the clock: a token carries a running number, and a version is greater than the one before
it even if the clock stands still or goes back.

Numbers have 64 bits and wrap around.
-/

namespace RulePlane

/-- The number of tokens made so far and the last version. -/
structure Tokens where
  issued : UInt64
  version : UInt64
deriving DecidableEq, Repr, Inhabited

namespace Tokens

/-- Nothing was made yet. -/
def fresh : Tokens := ⟨0, 0⟩

/-- A number in lower-case hexadecimal digits. -/
def hex (number : UInt64) : String := String.ofList (Text.hexDigits number.toNat)

/-- A token is written as the clock reading, a dash and the number of tokens before it. -/
def render (clock issued : UInt64) : String := hex clock ++ "-" ++ hex issued

/-- Make a token at a clock reading. -/
def next (tokens : Tokens) (clock : UInt64) : String × Tokens :=
  (render clock tokens.issued, { tokens with issued := tokens.issued + 1 })

/-- The version that follows another at a clock reading. -/
def versionAfter (clock previous : UInt64) : UInt64 := max clock (previous + 1)

/-- Make a version at a clock reading. -/
def nextVersion (tokens : Tokens) (clock : UInt64) : UInt64 × Tokens :=
  (versionAfter clock tokens.version,
    { tokens with version := versionAfter clock tokens.version })

/-- A version is at least the clock reading it was made at. -/
theorem clock_le_versionAfter (clock previous : UInt64) : clock ≤ versionAfter clock previous := by
  unfold versionAfter
  rw [UInt64.le_iff_toNat_le]
  simp only [Max.max]
  split <;> simp_all [UInt64.le_iff_toNat_le]

end Tokens

end RulePlane
