import Mathlib.Algebra.Group.Nat.Defs
import RulePlane.Proofs.DiscoveryStreams

/-!
# Fresh tokens

A token ends in its running number, written in hexadecimal digits behind the last dash. So tokens of
different numbers differ, whatever the clock showed when they were made (`Tokens.render_injective`).

The numbers have 64 bits and wrap around. `Tokens.MadeSince` says which tokens were made since a
running number, and a bound on how many: as long as that is less than `2 ^ 64`, the next token is
none of them (`MadeSince.fresh`).
-/

namespace RulePlane

namespace Text

/-- The digit of a number tells the number. -/
theorem digitChar_injective {first second : Nat} (firstSmall : first < 16)
    (secondSmall : second < 16) (same : Nat.digitChar first = Nat.digitChar second) :
    first = second := by
  have all : ∀ left : Fin 16, ∀ right : Fin 16,
      Nat.digitChar left.val = Nat.digitChar right.val → left = right := by decide
  exact congrArg Fin.val (all ⟨first, firstSmall⟩ ⟨second, secondSmall⟩ same)

/-- The hexadecimal digits of a number tell the number. -/
theorem hexDigits_injective {first second : Nat} (same : hexDigits first = hexDigits second) :
    first = second := by
  unfold hexDigits at same
  induction first using Nat.strongRecOn generalizing second with
  | ind first inductionHypothesis =>
    rw [Nat.toDigits_eq_if (by decide) (n := first), Nat.toDigits_eq_if (by decide) (n := second)]
      at same
    split at same <;> split at same
    · rename_i firstSmall secondSmall
      exact digitChar_injective firstSmall secondSmall (List.cons.inj same).1
    · exact absurd (congrArg List.length same) (by simp)
    · exact absurd (congrArg List.length same) (by simp)
    · rename_i firstLarge secondLarge
      obtain ⟨heads, digit⟩ := List.append_inj' same rfl
      have quotients := inductionHypothesis (first / 16) (by omega) heads
      have remainders := digitChar_injective (Nat.mod_lt first (by decide))
        (Nat.mod_lt second (by decide)) (List.cons.inj digit).1
      omega

/-- No hexadecimal digit is a dash. -/
theorem dash_notMem_hexDigits (number : Nat) : '-' ∉ hexDigits number := by
  have free : ∀ digit : Fin 16, '-' ≠ Nat.digitChar digit.val := by decide
  unfold hexDigits
  induction number using Nat.strongRecOn with
  | ind number inductionHypothesis =>
    rw [Nat.toDigits_eq_if (by decide)]
    split
    · rename_i small
      exact fun member => free ⟨number, small⟩ (List.mem_singleton.1 member)
    · intro member
      rcases List.mem_append.1 member with front | last
      · exact inductionHypothesis (number / 16) (by omega) front
      · exact free ⟨number % 16, Nat.mod_lt number (by decide)⟩ (List.mem_singleton.1 last)

end Text

namespace Tokens

/-- The characters of a token. -/
theorem toList_render (clock issued : UInt64) :
    (render clock issued).toList =
      Text.hexDigits clock.toNat ++ '-' :: Text.hexDigits issued.toNat := by
  have dash : "-".toList = ['-'] := rfl
  simp only [render, hex, String.toList_append, String.toList_ofList, dash, List.append_assoc,
    List.cons_append, List.nil_append]

/-- Tokens of different numbers differ, whatever the clock showed. -/
theorem render_injective {firstClock secondClock first second : UInt64}
    (same : render firstClock first = render secondClock second) : first = second := by
  have texts := congrArg String.toList same
  rw [toList_render, toList_render] at texts
  have digits := eq_of_append_cons_eq texts (Text.dash_notMem_hexDigits _)
    (Text.dash_notMem_hexDigits _)
  exact UInt64.toNat_inj.1 (Text.hexDigits_injective digits)

/-- No token is empty. -/
theorem render_ne_empty (clock issued : UInt64) : render clock issued ≠ "" := by
  intro empty
  have texts := congrArg String.toList empty
  rw [toList_render] at texts
  exact List.append_ne_nil_of_right_ne_nil _ (List.cons_ne_nil _ _) texts

/-- The running numbers of fewer tokens than there are numbers are different. -/
theorem number_injective (start : UInt64) {first second : Nat} (firstSmall : first < 2 ^ 64)
    (secondSmall : second < 2 ^ 64)
    (same : start + UInt64.ofNat first = start + UInt64.ofNat second) : first = second := by
  have numbers := congrArg UInt64.toNat same
  simp only [UInt64.toNat_add, UInt64.toNat_ofNat'] at numbers
  omega

/-- Some of the tokens that were made since a running number. There were no more than a number of
    them, and the next one will have the running number `issued`. -/
def MadeSince (start : UInt64) (most : Nat) (issued : UInt64) (made : List String) : Prop :=
  ∃ count ≤ most, issued = start + UInt64.ofNat count ∧
    ∀ token ∈ made, ∃ clock number, number < count ∧
      token = render clock (start + UInt64.ofNat number)

variable {start issued : UInt64} {most : Nat} {made : List String}

/-- At first no token was made. -/
theorem madeSince_nil (start : UInt64) : MadeSince start 0 start [] :=
  ⟨0, Nat.le_refl 0, (UInt64.add_zero start).symm, nofun⟩

/-- The bound may be greater. -/
theorem MadeSince.mono (since : MadeSince start most issued made) {more : Nat}
    (atMost : most ≤ more) : MadeSince start more issued made := by
  obtain ⟨count, bound, rest⟩ := since
  exact ⟨count, Nat.le_trans bound atMost, rest⟩

/-- The running number that follows the next one. -/
theorem add_ofNat_succ (start : UInt64) (count : Nat) :
    start + UInt64.ofNat count + 1 = start + UInt64.ofNat (count + 1) := by
  rw [UInt64.ofNat_add, UInt64.add_assoc]
  rfl

/-- The next token is one of those that were made when it was. -/
theorem MadeSince.make (since : MadeSince start most issued made) (clock : UInt64) :
    MadeSince start (most + 1) (issued + 1) (made ++ [render clock issued]) := by
  obtain ⟨count, bound, rfl, numbered⟩ := since
  refine ⟨count + 1, Nat.succ_le_succ bound, add_ofNat_succ start count, ?_⟩
  intro token member
  rcases List.mem_append.1 member with earlier | latest
  · obtain ⟨reading, number, smaller, own⟩ := numbered token earlier
    exact ⟨reading, number, Nat.lt_succ_of_lt smaller, own⟩
  · exact ⟨clock, count, Nat.lt_succ_self count, List.mem_singleton.1 latest⟩

/-- Tokens may also be made for something else. -/
theorem MadeSince.skip (since : MadeSince start most issued made) :
    MadeSince start (most + 1) (issued + 1) made := by
  obtain ⟨count, bound, following, numbered⟩ := since.make 0
  exact ⟨count, bound, following, fun token member =>
    numbered token (List.mem_append_left _ member)⟩

/-- The next token is new, unless the numbers have wrapped around. -/
theorem MadeSince.fresh (since : MadeSince start most issued made) (few : most < 2 ^ 64)
    (clock : UInt64) : render clock issued ∉ made := by
  intro member
  obtain ⟨count, bound, rfl, numbered⟩ := since
  obtain ⟨reading, number, smaller, own⟩ := numbered _ member
  have same := number_injective start (by omega) (by omega) (render_injective own)
  omega

/-- None of the tokens is empty. -/
theorem MadeSince.ne_empty (since : MadeSince start most issued made) {token : String}
    (member : token ∈ made) : token ≠ "" := by
  obtain ⟨count, -, -, numbered⟩ := since
  obtain ⟨clock, number, -, own⟩ := numbered token member
  rw [own]
  exact render_ne_empty _ _

end Tokens

end RulePlane
