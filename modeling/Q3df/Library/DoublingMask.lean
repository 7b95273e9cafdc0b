/-
Module: Q3df.Library.DoublingMask
Layer: Library
Purpose: The loop that doubles a signed machine word, starting at 1, until it exceeds a bound, and
  returns the word below it as a mask. With wrap-around arithmetic the loop finds the least power of
  two above the bound, or never ends because no positive power of two of the word size is above the
  bound. Masking with the result is reduction modulo that power of two.
Imports: Mathlib.Algebra.Group.Int.Defs, Mathlib.Algebra.Group.Nat.Defs, Mathlib.Data.Nat.Size,
  Mathlib.Tactic.ByContra, Mathlib.Tactic.SplitIfs
Trusted boundary: none
Main exports: search, exponent, exponent_le_iff, search_eq_some, search_eq_none, toNat_and_mask
Open obligations: none
-/
import Mathlib.Algebra.Group.Int.Defs
import Mathlib.Algebra.Group.Nat.Defs
import Mathlib.Data.Nat.Size
import Mathlib.Tactic.ByContra
import Mathlib.Tactic.SplitIfs

namespace Q3df.DoublingMask

variable {w : Nat} {bound : BitVec w}

/-- At most `fuel` rounds of the loop, from a given word. -/
def search (bound : BitVec w) : Nat → BitVec w → Option (BitVec w)
  | 0, _ => none
  | fuel + 1, mask =>
      if bound.toInt < mask.toInt then some (mask - 1) else search bound fuel (mask <<< 1)

/-- The exponent of the least power of two above the bound; 0 for a negative
bound. -/
def exponent (bound : BitVec w) : Nat := bound.toInt.toNat.size

/-- The exponent is the least one whose power exceeds the bound. -/
theorem exponent_le_iff {k : Nat} : exponent bound ≤ k ↔ bound.toInt < 2 ^ k := by
  have cast : ((2 ^ k : Nat) : Int) = 2 ^ k := Int.natCast_pow 2 k
  have positive : 0 < 2 ^ k := Nat.two_pow_pos k
  rw [exponent, Nat.size_le]
  omega

/-!
### The words the loop visits

The powers of two that are visited are positive until the sign bit is reached,
where the loop goes on for ever.
-/

theorem twoPow_shiftLeft_one (i : Nat) : BitVec.twoPow w i <<< 1 = BitVec.twoPow w (i + 1) := by
  rw [BitVec.twoPow_eq, BitVec.twoPow_eq, BitVec.shiftLeft_add]

/-- Below the sign bit a power of two is read as itself. -/
theorem toInt_twoPow_of_lt {i : Nat} (small : i + 1 < w) : (BitVec.twoPow w i).toInt = 2 ^ i := by
  rw [BitVec.toInt_twoPow, if_neg (by omega), if_neg (by omega)]

/-- No word the loop visits is larger than the largest positive power of two. -/
theorem toInt_twoPow_le (i : Nat) : (BitVec.twoPow w i).toInt ≤ 2 ^ (w - 2) := by
  have positive : (0 : Int) < 2 ^ (w - 2) := Int.pow_pos (by decide)
  rcases Nat.lt_or_ge (i + 1) w with small | large
  · rw [toInt_twoPow_of_lt small]
    exact_mod_cast Nat.pow_le_pow_right (by decide) (by omega : i ≤ w - 2)
  · have natPositive : 0 < 2 ^ i := Nat.two_pow_pos i
    rw [BitVec.toInt_twoPow]
    split_ifs <;> omega

/-- From a power of two the loop has not passed yet, it reaches the least one
above the bound. -/
theorem search_twoPow (fits : exponent bound + 1 < w) {i fuel : Nat} (reached : i ≤ exponent bound)
    (enough : exponent bound < i + fuel) :
    search bound fuel (BitVec.twoPow w i) = some (BitVec.twoPow w (exponent bound) - 1) := by
  induction fuel generalizing i with
  | zero => omega
  | succ fuel inductionHypothesis =>
      have value : (BitVec.twoPow w i).toInt = 2 ^ i := toInt_twoPow_of_lt (by omega)
      rw [search, value]
      by_cases above : bound.toInt < 2 ^ i
      · have same : i = exponent bound := Nat.le_antisymm reached (exponent_le_iff.mpr above)
        rw [if_pos above, same]
      · have notYet : i < exponent bound := by
          by_contra passed
          exact above (exponent_le_iff.mp (Nat.le_of_not_lt passed))
        rw [if_neg above, twoPow_shiftLeft_one]
        exact inductionHypothesis (by omega) (by omega)

/-- The loop ends when a positive power of two is above the bound, and its mask
is one less than the least such power. -/
theorem search_eq_some (fits : exponent bound + 1 < w) {fuel : Nat} (enough : exponent bound < fuel) :
    search bound fuel 1 = some (BitVec.twoPow w (exponent bound) - 1) := by
  have fromZero : exponent bound < 0 + fuel := by omega
  have found := search_twoPow fits (Nat.zero_le _) fromZero
  simpa [BitVec.twoPow_zero] using found

/-- Otherwise it runs for as long as one likes. -/
theorem search_eq_none (large : 2 ^ (w - 2) ≤ bound.toInt) (fuel : Nat) : search bound fuel 1 = none := by
  have forever (i : Nat) : search bound fuel (BitVec.twoPow w i) = none := by
    induction fuel generalizing i with
    | zero => rfl
    | succ fuel inductionHypothesis =>
        have small := toInt_twoPow_le (w := w) i
        rw [search, if_neg (by omega), twoPow_shiftLeft_one]
        exact inductionHypothesis (i + 1)
  simpa [BitVec.twoPow_zero] using forever 0

/-!
### The mask

One less than a power of two. Masking with it is the remainder by the power.
-/

theorem toNat_mask {k : Nat} (small : k < w) : (BitVec.twoPow w k - 1).toNat = 2 ^ k - 1 := by
  have lt : 2 ^ k < 2 ^ w := Nat.pow_lt_pow_right (by decide) small
  have positive : 0 < 2 ^ k := Nat.two_pow_pos k
  have one : (1 : BitVec w).toNat = 1 := by
    exact Nat.mod_eq_of_lt (by omega : 1 < 2 ^ w)
  rw [BitVec.toNat_sub, BitVec.toNat_twoPow_of_lt small, one]
  have split : 2 ^ w - 1 + 2 ^ k = 2 ^ w + (2 ^ k - 1) := by omega
  rw [split, Nat.add_mod_left]
  exact Nat.mod_eq_of_lt (by omega)

/-- Masking is reduction modulo the power of two. -/
theorem toNat_and_mask {k : Nat} (small : k < w) (x : BitVec w) :
    (x &&& (BitVec.twoPow w k - 1)).toNat = x.toNat % 2 ^ k := by
  rw [BitVec.toNat_and, toNat_mask small, Nat.and_two_pow_sub_one_eq_mod]

end Q3df.DoublingMask
