/-
Module: Q3df.Library.Crc
Layer: Library
Purpose: The reflected cyclic redundancy register of any width. One step shifts the register down
  and adds the polynomial when a set bit falls out. Steps are linear over exclusive or, and
  injective when the polynomial has its top bit. Bits fed one at a time act as if they had all been
  added at the start, which gives the byte-wise register, the table-driven one, and the errors a
  register of `w` bits always shows: every burst of at most `w` bits.
Imports: Mathlib.Logic.Function.Iterate, Mathlib.Data.List.OfFn
Trusted boundary: none
Main exports: step, feed, pack, byteStep, tableEntry, step_xor, step_injective, feed_append,
  feed_eq_iterate, feed_injective, feed_ne_of_burst, byteStep_eq_feed, byteStep_eq_table
Open obligations: none
-/
import Mathlib.Logic.Function.Iterate
import Mathlib.Data.List.OfFn

namespace Q3df.Crc

variable {w : Nat}

/-- One step of the register. -/
def step (poly crc : BitVec w) : BitVec w :=
  (crc >>> 1) ^^^ (if crc.getLsbD 0 then poly else 0#w)

/-- Bits as the low bits of a register, the first one lowest. -/
def pack (w : Nat) (bits : List Bool) : BitVec w := (BitVec.ofBoolListLE bits).setWidth w

/-- The register after some bits, each added to the lowest place before a step. -/
def feed (poly : BitVec w) (crc : BitVec w) (bits : List Bool) : BitVec w :=
  bits.foldl (fun register bit => step poly (register ^^^ pack w [bit])) crc

/-- The bits of a byte in the order they are fed, the lowest first. -/
def byteBits (b : BitVec 8) : List Bool := List.ofFn fun i : Fin 8 => b.getLsbD i

/-- The register after a byte that is added at once and followed by eight steps. -/
def byteStep (poly crc : BitVec w) (b : BitVec 8) : BitVec w :=
  (step poly)^[8] (crc ^^^ b.setWidth w)

/-- What eight steps make of a register that holds nothing but a byte. -/
def tableEntry (poly : BitVec w) (index : BitVec 8) : BitVec w := (step poly)^[8] (index.setWidth w)

variable {poly crc x y : BitVec w} {bits : List Bool}

/-!
### Linearity

A step is linear over exclusive or, and one-to-one when the polynomial has its
top bit.
-/

theorem step_xor (poly x y : BitVec w) : step poly (x ^^^ y) = step poly x ^^^ step poly y := by
  apply BitVec.eq_of_getLsbD_eq
  intro i _
  simp only [step, BitVec.getLsbD_xor, BitVec.getLsbD_ushiftRight]
  cases x.getLsbD 0 <;> cases y.getLsbD 0 <;> simp
  all_goals cases poly.getLsbD i <;> cases y.getLsbD (1 + i) <;> simp

/-- Any number of steps is linear. -/
theorem iterate_step_xor (poly x y : BitVec w) (k : Nat) :
    (step poly)^[k] (x ^^^ y) = (step poly)^[k] x ^^^ (step poly)^[k] y := by
  induction k generalizing x y with
  | zero => rfl
  | succ k inductionHypothesis =>
      rw [Function.iterate_succ_apply, Function.iterate_succ_apply, Function.iterate_succ_apply,
        step_xor, inductionHypothesis]

/-- A register whose low bits are clear is only shifted. -/
theorem iterate_step_of_clear {k : Nat} (clear : ∀ i < k, x.getLsbD i = false) :
    (step poly)^[k] x = x >>> k := by
  induction k with
  | zero => rw [Function.iterate_zero_apply, BitVec.ushiftRight_zero]
  | succ k inductionHypothesis =>
      have lowest : (x >>> k).getLsbD 0 = false := by
        rw [BitVec.getLsbD_ushiftRight]
        exact clear k (Nat.lt_succ_self k)
      rw [Function.iterate_succ_apply', inductionHypothesis fun i below => clear i (by omega), step,
        lowest, BitVec.shiftRight_add]
      simp

/-- A polynomial with its top bit makes the steps injective: the top bit of the
result tells which bit fell out. -/
theorem step_injective (top : poly.getLsbD (w - 1) = true) : Function.Injective (step poly) := by
  intro x y same
  have difference : step poly (x ^^^ y) = 0#w := by
    rw [step_xor, same, BitVec.xor_self]
  have positive : 0 < w := by
    rcases Nat.eq_zero_or_pos w with rfl | positive
    · simp at top
    · exact positive
  have fellOut : (x ^^^ y).getLsbD 0 = false := by
    have bit := congrArg (fun register => register.getLsbD (w - 1)) difference
    by_contra set
    rw [Bool.not_eq_false] at set
    have beyond : (x ^^^ y).getLsbD (1 + (w - 1)) = false := BitVec.getLsbD_of_ge _ _ (by omega)
    simp [step, set, top, beyond] at bit
  have shifted : (x ^^^ y) >>> 1 = 0#w := by
    rw [step, fellOut] at difference
    simpa using difference
  apply BitVec.xor_eq_zero_iff.mp
  apply BitVec.eq_of_getLsbD_eq
  intro i _
  cases i with
  | zero => rw [fellOut, BitVec.getLsbD_zero]
  | succ i =>
      have bit := congrArg (fun register => register.getLsbD i) shifted
      simp only [BitVec.getLsbD_ushiftRight, BitVec.getLsbD_zero] at bit
      rwa [Nat.add_comm, BitVec.getLsbD_zero]

/-!
### Feeding bits

Bits are fed one by one. As long as they fit the register, feeding them is
adding them all at once and then making as many steps, so two bursts that differ
leave registers that differ.
-/

theorem getLsbD_pack (w : Nat) (bits : List Bool) (i : Nat) :
    (pack w bits).getLsbD i = (decide (i < w) && bits.getD i false) := by
  rw [pack, BitVec.getLsbD_setWidth, BitVec.getLsbD_ofBoolListLE]

@[simp] theorem pack_nil (w : Nat) : pack w [] = 0#w := by
  apply BitVec.eq_of_getLsbD_eq
  intro i _
  simp [getLsbD_pack]

theorem pack_cons (w : Nat) (bit : Bool) (bits : List Bool) :
    pack w (bit :: bits) = pack w [bit] ^^^ pack w bits <<< 1 := by
  apply BitVec.eq_of_getLsbD_eq
  intro i inside
  rw [BitVec.getLsbD_xor, BitVec.getLsbD_shiftLeft, getLsbD_pack, getLsbD_pack, getLsbD_pack]
  cases i with
  | zero => simp
  | succ i =>
      have before : i < w := Nat.lt_of_succ_lt inside
      simp [inside, before]

/-- Bits that leave the top place free come back down unchanged. -/
theorem step_pack_shiftLeft (room : bits.length < w) : step poly (pack w bits <<< 1) = pack w bits := by
  apply BitVec.eq_of_getLsbD_eq
  intro i inside
  have lowest : (pack w bits <<< 1).getLsbD 0 = false := by simp
  rw [step, lowest, BitVec.getLsbD_xor, BitVec.getLsbD_ushiftRight, BitVec.getLsbD_shiftLeft, getLsbD_pack,
    getLsbD_pack]
  rcases Nat.lt_or_ge (1 + i) w with below | last
  · simp [below, inside]
  · have noBit : bits[i]? = none := List.getElem?_eq_none (by omega)
    simp [noBit]

/-- Bit lists of one length that fit the register are packed to different words. -/
theorem pack_injective {bits' : List Bool} (sameLength : bits.length = bits'.length)
    (short : bits.length ≤ w) (same : pack w bits = pack w bits') : bits = bits' := by
  apply List.ext_getElem sameLength
  intro i here here'
  have bit := congrArg (fun register => register.getLsbD i) same
  simp only [getLsbD_pack] at bit
  simpa [Nat.lt_of_lt_of_le here short, here, here'] using bit

@[simp] theorem feed_nil : feed poly crc [] = crc := rfl

/-- Bits can be fed in two parts. -/
theorem feed_append (poly crc : BitVec w) (front after : List Bool) :
    feed poly crc (front ++ after) = feed poly (feed poly crc front) after :=
  List.foldl_append

/-- Bits that fit the register may all be added before the first step. -/
theorem feed_eq_iterate (poly crc : BitVec w) (short : bits.length ≤ w) :
    feed poly crc bits = (step poly)^[bits.length] (crc ^^^ pack w bits) := by
  induction bits generalizing crc with
  | nil => simp
  | cons bit bits inductionHypothesis =>
      have room : bits.length < w := short
      calc feed poly crc (bit :: bits)
          = (step poly)^[bits.length] (step poly (crc ^^^ pack w [bit]) ^^^ pack w bits) :=
            inductionHypothesis _ (Nat.le_of_lt room)
        _ = (step poly)^[bits.length] (step poly (crc ^^^ pack w (bit :: bits))) := by
            rw [pack_cons w bit bits, ← BitVec.xor_assoc, step_xor poly (crc ^^^ pack w [bit]),
              step_pack_shiftLeft room]
        _ = (step poly)^[(bit :: bits).length] (crc ^^^ pack w (bit :: bits)) := by
            rw [List.length_cons, Function.iterate_succ_apply]

/-- Registers that differ still differ after the same bits. -/
theorem feed_injective (top : poly.getLsbD (w - 1) = true) (bits : List Bool) :
    Function.Injective fun crc => feed poly crc bits := by
  induction bits with
  | nil => exact fun _ _ same => same
  | cons bit bits inductionHypothesis =>
      intro x y same
      have stepped := inductionHypothesis same
      exact (BitVec.xor_left_inj _).mp (step_injective top stepped)

/-- Two bit strings that differ in nothing but a stretch of at most `w` bits
leave different registers. -/
theorem feed_ne_of_burst (top : poly.getLsbD (w - 1) = true) {front burst burst' after : List Bool}
    (sameLength : burst.length = burst'.length) (short : burst.length ≤ w) (differ : burst ≠ burst') :
    feed poly crc (front ++ burst ++ after) ≠ feed poly crc (front ++ burst' ++ after) := by
  intro same
  rw [feed_append, feed_append, feed_append, feed_append] at same
  have afterBurst := feed_injective top after same
  have short' : burst'.length ≤ w := sameLength ▸ short
  rw [feed_eq_iterate poly (feed poly crc front) short, feed_eq_iterate poly (feed poly crc front) short',
    sameLength] at afterBurst
  have added := (step_injective top).iterate _ afterBurst
  exact differ (pack_injective sameLength short ((BitVec.xor_right_inj _).mp added))

/-!
### Whole bytes and the table

Eight steps make a byte, and the table holds the outcome of eight steps for each
byte.
-/

theorem length_byteBits (b : BitVec 8) : (byteBits b).length = 8 := List.length_ofFn

theorem pack_byteBits (w : Nat) (b : BitVec 8) : pack w (byteBits b) = b.setWidth w := by
  apply BitVec.eq_of_getLsbD_eq
  intro i inside
  rw [getLsbD_pack, BitVec.getLsbD_setWidth, byteBits, List.getD_eq_getElem?_getD, List.getElem?_ofFn]
  by_cases below : i < 8
  · simp [below]
  · have beyond : b.getLsbD i = false := BitVec.getLsbD_of_ge _ _ (by omega)
    simp [below, beyond]

/-- A byte at once is its eight bits one after the other. -/
theorem byteStep_eq_feed (wide : 8 ≤ w) (poly crc : BitVec w) (b : BitVec 8) :
    byteStep poly crc b = feed poly crc (byteBits b) := by
  rw [feed_eq_iterate poly crc (by rwa [length_byteBits]), length_byteBits, pack_byteBits, byteStep]

/-- Feeding bytes is feeding their bits, the least significant first. -/
theorem foldl_byteStep_eq_feed (wide : 8 ≤ w) (poly crc : BitVec w) (bytes : List (BitVec 8)) :
    bytes.foldl (byteStep poly) crc = feed poly crc (bytes.flatMap byteBits) := by
  induction bytes generalizing crc with
  | nil => rfl
  | cons b bytes inductionHypothesis =>
      rw [List.foldl_cons, List.flatMap_cons, feed_append, inductionHypothesis, byteStep_eq_feed wide]

/-- The table-driven register: the entry for the low byte, added to the rest of
the register moved down. -/
theorem byteStep_eq_table (poly crc : BitVec w) (b : BitVec 8) :
    byteStep poly crc b = (crc >>> 8) ^^^ tableEntry poly (crc.setWidth 8 ^^^ b) := by
  have parts : crc ^^^ b.setWidth w = (crc >>> 8) <<< 8 ^^^ (crc.setWidth 8 ^^^ b).setWidth w := by
    apply BitVec.eq_of_getLsbD_eq
    intro i inside
    simp only [BitVec.getLsbD_xor, BitVec.getLsbD_setWidth, BitVec.getLsbD_shiftLeft,
      BitVec.getLsbD_ushiftRight]
    by_cases low : i < 8
    · simp [low, inside]
    · have beyond : b.getLsbD i = false := BitVec.getLsbD_of_ge _ _ (by omega)
      simp [low, inside, beyond, Nat.add_sub_cancel' (Nat.le_of_not_lt low)]
  have high : (step poly)^[8] ((crc >>> 8) <<< 8) = crc >>> 8 := by
    have clear : ∀ i < 8, ((crc >>> 8) <<< 8).getLsbD i = false := by
      intro i low
      simp [low]
    rw [iterate_step_of_clear clear]
    apply BitVec.eq_of_getLsbD_eq
    intro i _
    simp only [BitVec.getLsbD_ushiftRight, BitVec.getLsbD_shiftLeft]
    rcases Nat.lt_or_ge (8 + i) w with below | beyond
    · simp [below]
    · simp [Nat.not_lt.mpr beyond, BitVec.getLsbD_of_ge crc (8 + i) beyond]
  rw [byteStep, parts, iterate_step_xor, high, tableEntry]

end Q3df.Crc
