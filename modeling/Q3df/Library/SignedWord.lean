/-
Module: Q3df.Library.SignedWord
Layer: Library
Purpose: When a machine word read as a signed integer behaves like the integer: sums and products
  that do not wrap around, words that are the same signed and unsigned, and shifts that are undone.
  What extends a word by its sign, and that the operations on words compute the words of the exact
  results.
Imports: Mathlib.Algebra.Group.Int.Defs, Mathlib.Algebra.Group.Nat.Defs, Mathlib.Tactic.SplitIfs
Trusted boundary: none
Main exports: toInt_add_eq_iff, toInt_mul_eq_iff, toNat_of_toInt_nonneg, le_toNat_of_toInt_neg,
  sshiftRight_shiftLeft, or_shiftLeft_eq_signExtend, eq_signExtend_iff, eq_ofInt_of_toInt,
  eq_ofInt_of_toNat
Open obligations: none
-/
import Mathlib.Algebra.Group.Int.Defs
import Mathlib.Algebra.Group.Nat.Defs
import Mathlib.Tactic.SplitIfs

namespace Q3df.SignedWord

variable {w : Nat} {x y : BitVec (w + 1)}

/-- An integer is its own representative exactly in the signed range. -/
theorem bmod_eq_self_iff {n : Int} : n.bmod (2 ^ (w + 1)) = n ↔ -2 ^ w ≤ n ∧ n < 2 ^ w := by
  have double : (2 ^ (w + 1) : Nat) = 2 * 2 ^ w := by rw [Nat.pow_succ, Nat.mul_comm]
  have cast : ((2 ^ w : Nat) : Int) = 2 ^ w := Int.natCast_pow 2 w
  have positive : 0 < 2 ^ w := Nat.two_pow_pos w
  constructor
  · intro same
    have low := @Int.le_bmod n (2 ^ (w + 1)) (Nat.two_pow_pos _)
    have high := @Int.bmod_lt n (2 ^ (w + 1)) (Nat.two_pow_pos _)
    omega
  · rintro ⟨low, high⟩
    apply Int.bmod_eq_of_le_mul_two <;> omega

/-- A sum is exact when it stays in the signed range. -/
theorem toInt_add_eq_iff :
    (x + y).toInt = x.toInt + y.toInt ↔
      -2 ^ w ≤ x.toInt + y.toInt ∧ x.toInt + y.toInt < 2 ^ w := by
  rw [BitVec.toInt_add, bmod_eq_self_iff]

/-- A product is exact when it stays in the signed range. -/
theorem toInt_mul_eq_iff :
    (x * y).toInt = x.toInt * y.toInt ↔
      -2 ^ w ≤ x.toInt * y.toInt ∧ x.toInt * y.toInt < 2 ^ w := by
  rw [BitVec.toInt_mul, bmod_eq_self_iff]

/-- A word that is not negative is the same number unsigned. -/
theorem toNat_of_toInt_nonneg (nonneg : 0 ≤ x.toInt) : (x.toNat : Int) = x.toInt := by
  have cond := BitVec.toInt_eq_toNat_cond x
  have bound := x.isLt
  split_ifs at cond <;> omega

/-- A negative word is unsigned at least half the range. -/
theorem le_toNat_of_toInt_neg (negative : x.toInt < 0) : 2 ^ w ≤ x.toNat := by
  have cond := BitVec.toInt_eq_toNat_cond x
  have double : 2 ^ (w + 1) = 2 * 2 ^ w := by rw [Nat.pow_succ, Nat.mul_comm]
  split_ifs at cond <;> omega

/-- A word whose low bits are clear survives the shift to the right and back. -/
theorem sshiftRight_shiftLeft {w : Nat} (k : BitVec w) (n : Nat) :
    ((k <<< n).sshiftRight n) <<< n = k <<< n := by
  apply BitVec.eq_of_getLsbD_eq
  intro i small
  rw [BitVec.getLsbD_shiftLeft, BitVec.getLsbD_shiftLeft]
  by_cases low : i < n
  · simp [low]
  · have back : n + (i - n) = i := by omega
    have inside : ¬ w ≤ i - n := by omega
    simp [low, small, BitVec.getLsbD_sshiftRight, back, inside]
    exact (BitVec.getLsbD_eq_getElem _).symm

/-!
### Sign extension

Setting the upper bits of a word against extending the sign of its lower part.
-/

section Extension

variable {w : Nat} {x : BitVec w} {n : Nat}

/-- Setting the bits above bit `n` extends a word in which bit `n` is set. -/
theorem or_shiftLeft_eq_signExtend (negative : x.getLsbD n = true) :
    x ||| (BitVec.allOnes w <<< (n + 1)) = (x.setWidth (n + 1)).signExtend w := by
  apply BitVec.eq_of_getLsbD_eq
  intro i small
  have sign : (x.setWidth (n + 1)).msb = true := by
    rw [BitVec.msb_eq_getLsbD_last, BitVec.getLsbD_setWidth]
    simp [negative]
  rw [BitVec.getLsbD_signExtend, sign, BitVec.getLsbD_or, BitVec.getLsbD_shiftLeft,
    BitVec.getLsbD_allOnes, BitVec.getLsbD_setWidth]
  by_cases low : i < n + 1
  · simp [low, small]
  · simp [low, small]
    omega

/-- A word in which bit `n` is clear is its own extension exactly when the bits
above it are clear. -/
theorem eq_signExtend_iff (nonnegative : x.getLsbD n = false) :
    x = (x.setWidth (n + 1)).signExtend w ↔ x.toNat < 2 ^ (n + 1) := by
  have sign : (x.setWidth (n + 1)).msb = false := by
    rw [BitVec.msb_eq_getLsbD_last, BitVec.getLsbD_setWidth]
    simp [nonnegative]
  rw [BitVec.signExtend_eq_setWidth_of_msb_false sign, ← BitVec.toNat_inj, BitVec.toNat_setWidth,
    BitVec.toNat_setWidth]
  have positive := Nat.two_pow_pos (n + 1)
  have bound := x.isLt
  constructor
  · intro same
    rw [same]
    have le := Nat.mod_le (x.toNat % 2 ^ (n + 1)) (2 ^ w)
    have small := Nat.mod_lt x.toNat positive
    omega
  · intro small
    rw [Nat.mod_eq_of_lt small, Nat.mod_eq_of_lt bound]

end Extension

/-!
### The words of exact results

Each operator on words is the word of the operator on integers, whatever bits
are lost.
-/

section Exact

variable {w : Nat} {x y : BitVec w}

/-- A word is the word of the integer it stands for. -/
theorem eq_ofInt_of_toInt {n : Int} (same : x.toInt = n) : x = BitVec.ofInt w n := by
  rw [← same, BitVec.ofInt_toInt]

theorem eq_ofInt_of_toNat_eq {n : Nat} (same : x.toNat = n) : x = BitVec.ofInt w n := by
  rw [← same, BitVec.ofInt_natCast, BitVec.ofNat_toNat, BitVec.setWidth_eq]

/-- An unsigned result is the word of the number it is a residue of. -/
theorem eq_ofInt_of_toNat {n : Nat} (same : x.toNat = n % 2 ^ w) : x = BitVec.ofInt w n := by
  apply BitVec.eq_of_toNat_eq
  rw [same, BitVec.ofInt_natCast, BitVec.toNat_ofNat]

/-- The operations on words compute the word of the exact result. -/
theorem neg_eq_ofInt : -x = BitVec.ofInt w (-x.toInt) := by
  rw [BitVec.ofInt_neg, BitVec.ofInt_toInt]

/-- Addition wraps around the exact sum. -/
theorem add_eq_ofInt : x + y = BitVec.ofInt w (x.toInt + y.toInt) := by
  rw [BitVec.ofInt_add, BitVec.ofInt_toInt, BitVec.ofInt_toInt]

theorem not_eq_ofInt : ~~~x = BitVec.ofInt w (-x.toInt - 1) := by
  rw [Int.sub_eq_add_neg, BitVec.ofInt_add, ← neg_eq_ofInt, BitVec.not_eq_neg_add, BitVec.sub_eq_add_neg,
    BitVec.ofInt_neg]
  rfl

theorem sub_eq_ofInt : x - y = BitVec.ofInt w (x.toInt - y.toInt) := by
  rw [Int.sub_eq_add_neg, BitVec.ofInt_add, ← neg_eq_ofInt, BitVec.ofInt_toInt, BitVec.sub_eq_add_neg]

theorem mul_eq_ofInt : x * y = BitVec.ofInt w (x.toInt * y.toInt) := by
  rw [BitVec.ofInt_mul, BitVec.ofInt_toInt, BitVec.ofInt_toInt]

/-- Shifts multiply and divide by a power of two, to the right rounding down. -/
theorem shiftLeft_eq_ofInt (n : Nat) : x <<< n = BitVec.ofInt w (x.toNat * 2 ^ n : Nat) := by
  apply eq_ofInt_of_toNat
  rw [BitVec.toNat_shiftLeft, Nat.shiftLeft_eq]

/-- A logical shift divides the unsigned value. -/
theorem ushiftRight_eq_ofInt (n : Nat) : x >>> n = BitVec.ofInt w (x.toNat / 2 ^ n : Nat) := by
  apply eq_ofInt_of_toNat_eq
  rw [BitVec.toNat_ushiftRight, Nat.shiftRight_eq_div_pow]

/-- An arithmetic shift divides the signed value, rounding downwards. -/
theorem sshiftRight_eq_ofInt (n : Nat) : x.sshiftRight n = BitVec.ofInt w (x.toInt / 2 ^ n) := by
  apply eq_ofInt_of_toInt
  rw [BitVec.toInt_sshiftRight, Int.shiftRight_eq_div_pow, Int.natCast_pow]
  rfl

end Exact

end Q3df.SignedWord
