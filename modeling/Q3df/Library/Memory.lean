/-
Module: Q3df.Library.Memory
Layer: Library
Purpose: Byte-addressed little-endian memory of a 32-bit process: reading and writing bytes, half
  words and words at wrapping addresses, and the rules by which a read sees or does not see a write.
  A range of addresses is given by its first address and its length and may wrap around the top of
  the address space.
Imports: Mathlib.Algebra.Group.Int.Defs, Mathlib.Algebra.Group.Nat.Defs, Mathlib.Tactic.SplitIfs
Trusted boundary: none
Main exports: Memory, InRange, readWord, write, writeWord, write_of_not_inRange,
  readWord_writeWord_same, readWord_write_of_apart, inRange_offset_iff, writeWord_offset, copied,
  Apart, writeWord_readWord, copied_word_rest
Open obligations: none
-/
import Mathlib.Algebra.Group.Int.Defs
import Mathlib.Algebra.Group.Nat.Defs
import Mathlib.Tactic.SplitIfs

namespace Q3df.ByteMemory

/-- The contents of every address. -/
abbrev Memory := BitVec 32 → BitVec 8

/-- The address lies in the range of `length` bytes that starts at `first`. -/
def InRange (first : BitVec 32) (length : Nat) (address : BitVec 32) : Prop :=
  (address - first).toNat < length

instance (first : BitVec 32) (length : Nat) (address : BitVec 32) :
    Decidable (InRange first length address) :=
  inferInstanceAs (Decidable (_ < _))

/-- Two bytes, the low one first. -/
def readHalf (m : Memory) (a : BitVec 32) : BitVec 16 := m (a + 1) ++ m a

/-- Four bytes, the low one first. -/
def readWord (m : Memory) (a : BitVec 32) : BitVec 32 := m (a + 3) ++ m (a + 2) ++ m (a + 1) ++ m a

/-- Write the low `length` bytes of a value, the low one first. -/
def write {w : Nat} (m : Memory) (a : BitVec 32) (length : Nat) (v : BitVec w) : Memory := fun b =>
  if InRange a length b then v.extractLsb' (8 * (b - a).toNat) 8 else m b

def writeByte (m : Memory) (a : BitVec 32) (v : BitVec 8) : Memory := write m a 1 v

def writeHalf (m : Memory) (a : BitVec 32) (v : BitVec 16) : Memory := write m a 2 v

def writeWord (m : Memory) (a : BitVec 32) (v : BitVec 32) : Memory := write m a 4 v

/-- Write a list of words one after the other. -/
def writeWords (m : Memory) (a : BitVec 32) : List (BitVec 32) → Memory
  | [] => m
  | v :: vs => writeWords (writeWord m a v) (a + 4) vs

variable {m : Memory} {a b : BitVec 32} {w : Nat}

theorem offset_sub_self (i : BitVec 32) : a + i - a = i := by
  rw [BitVec.add_comm, BitVec.add_sub_cancel]

/-- A write changes no byte outside its range. -/
theorem write_of_not_inRange {length : Nat} {v : BitVec w} (outside : ¬InRange a length b) :
    write m a length v b = m b := if_neg outside

/-- Inside the range a write puts the bytes of the value in their places. -/
theorem write_of_inRange {length : Nat} {v : BitVec w} (inside : InRange a length b) :
    write m a length v b = v.extractLsb' (8 * (b - a).toNat) 8 := if_pos inside

/-- A word depends on its four bytes only. -/
theorem readWord_congr {m' : Memory} (same : ∀ c, InRange a 4 c → m' c = m c) :
    readWord m' a = readWord m a := by
  have offset (i : BitVec 32) (small : i.toNat < 4) : m' (a + i) = m (a + i) := by
    apply same
    rw [InRange, offset_sub_self]
    exact small
  have first : m' a = m a := by simpa using offset 0 (by decide)
  rw [readWord, readWord, offset 3 (by decide), offset 2 (by decide), offset 1 (by decide), first]

/-- A word read is the word written there. -/
@[simp] theorem readWord_writeWord_same (v : BitVec 32) : readWord (writeWord m a v) a = v := by
  have byte (i : BitVec 32) (small : i.toNat < 4) :
      writeWord m a v (a + i) = v.extractLsb' (8 * i.toNat) 8 := by
    have inside : InRange a 4 (a + i) := by rwa [InRange, offset_sub_self]
    rw [writeWord, write_of_inRange inside, offset_sub_self]
  have first : writeWord m a v a = v.extractLsb' 0 8 := by simpa using byte 0 (by decide)
  rw [readWord, byte 3 (by decide), byte 2 (by decide), byte 1 (by decide), first]
  apply BitVec.eq_of_getLsbD_eq
  intro i small
  simp only [BitVec.getLsbD_append, BitVec.getLsbD_extractLsb']
  split_ifs <;> simp <;> grind

/-- A word read outside the range of a write is what it was before. -/
theorem readWord_write_of_apart {length : Nat} {v : BitVec w}
    (apart : ∀ c, InRange b 4 c → ¬InRange a length c) :
    readWord (write m a length v) b = readWord m b :=
  readWord_congr fun c inside => write_of_not_inRange (apart c inside)

/-!
### Lists of words

Words written one behind the other. A later word leaves the earlier ones alone
as long as the range does not wrap around the address space.
-/

theorem InRange.of_shifted {length : Nat} {c : BitVec 32} (inside : InRange (a + 4) length c)
    (fits : length + 4 ≤ 2 ^ 32) : InRange a (length + 4) c := by
  rw [InRange] at inside ⊢
  have split : c - a = c - (a + 4) + 4 := by bv_omega
  rw [split, BitVec.toNat_add]
  have four : (4 : BitVec 32).toNat = 4 := rfl
  omega

/-- A longer range contains the shorter one. -/
theorem InRange.mono {length longer : Nat} {c : BitVec 32} (inside : InRange a length c)
    (le : length ≤ longer) : InRange a longer c :=
  Nat.lt_of_lt_of_le inside le

/-- A list of words leaves a word elsewhere as it was. -/
theorem readWord_writeWords_of_apart {vs : List (BitVec 32)} (fits : 4 * vs.length ≤ 2 ^ 32)
    (apart : ∀ c, InRange b 4 c → ¬InRange a (4 * vs.length) c) :
    readWord (writeWords m a vs) b = readWord m b := by
  induction vs generalizing m a with
  | nil => rfl
  | cons v vs inductionHypothesis =>
      rw [List.length_cons] at fits apart
      have apartRest (c : BitVec 32) (inside : InRange b 4 c) : ¬InRange (a + 4) (4 * vs.length) c :=
        fun hit => apart c inside (hit.of_shifted (by omega))
      have apartFirst (c : BitVec 32) (inside : InRange b 4 c) : ¬InRange a 4 c :=
        fun hit => apart c inside (hit.mono (by omega))
      rw [writeWords, inductionHypothesis (by omega) apartRest]
      exact readWord_write_of_apart apartFirst

/-- Each word of the list is read back where it was written. -/
theorem readWord_writeWords {vs : List (BitVec 32)} (fits : 4 * vs.length ≤ 2 ^ 32) {i : Nat}
    (small : i < vs.length) :
    readWord (writeWords m a vs) (a + BitVec.ofNat 32 (4 * i)) = vs[i] := by
  induction vs generalizing m a i with
  | nil => simp at small
  | cons v vs inductionHypothesis =>
      rw [List.length_cons] at fits small
      cases i with
      | zero =>
          have apart (c : BitVec 32) (inside : InRange a 4 c) : ¬InRange (a + 4) (4 * vs.length) c := by
            rw [InRange] at inside ⊢
            bv_omega
          have first : a + BitVec.ofNat 32 (4 * 0) = a := by simp
          rw [writeWords, first, readWord_writeWords_of_apart (by omega) apart, readWord_writeWord_same,
            List.getElem_cons_zero]
      | succ i =>
          have shifted : a + BitVec.ofNat 32 (4 * (i + 1)) = a + 4 + BitVec.ofNat 32 (4 * i) := by
            bv_omega
          rw [writeWords, shifted, inductionHypothesis (by omega) (by omega), List.getElem_cons_succ]

/-!
### Offsets from a base

Bytes seen as offsets from a base. On ranges that do not wrap the arithmetic of
addresses is that of numbers.
-/

/-- The way between two offsets that come in order. -/
theorem offset_sub_offset {base : BitVec 32} {first k : Nat} (le : first ≤ k) :
    base + BitVec.ofNat 32 k - (base + BitVec.ofNat 32 first) = BitVec.ofNat 32 (k - first) := by
  bv_omega

/-- Offsets below 2^32 lie in a range of offsets as numbers do. -/
theorem inRange_offset_iff {base : BitVec 32} {first length k : Nat} (small : k < 2 ^ 32)
    (fits : first + length ≤ 2 ^ 32) :
    InRange (base + BitVec.ofNat 32 first) length (base + BitVec.ofNat 32 k) ↔
      first ≤ k ∧ k < first + length := by
  rw [InRange]
  by_cases behind : first ≤ k
  · rw [offset_sub_offset behind, BitVec.toNat_ofNat, Nat.mod_eq_of_lt (by omega)]
    omega
  · have distance : base + BitVec.ofNat 32 k - (base + BitVec.ofNat 32 first) =
        BitVec.ofNat 32 (2 ^ 32 + k - first) := by bv_omega
    rw [distance, BitVec.toNat_ofNat, Nat.mod_eq_of_lt (by omega)]
    omega

/-- A word written at an offset, byte by byte. -/
theorem writeWord_offset {base v : BitVec 32} {first k : Nat} (small : k < 2 ^ 32)
    (fits : first + 4 ≤ 2 ^ 32) :
    writeWord m (base + BitVec.ofNat 32 first) v (base + BitVec.ofNat 32 k) =
      if first ≤ k ∧ k < first + 4 then v.extractLsb' (8 * (k - first)) 8
      else m (base + BitVec.ofNat 32 k) := by
  simp only [writeWord, write, inRange_offset_iff small fits]
  split
  · rename_i inside
    rw [offset_sub_offset inside.1, BitVec.toNat_ofNat, Nat.mod_eq_of_lt (by omega)]
  · rfl

/-!
### Copies

Copying a range word by word, for ranges that are apart.
-/

/-- The memory after `length` bytes have been copied. -/
def copied (m : Memory) (src dst : BitVec 32) (length : Nat) : Memory := fun b =>
  if InRange dst length b then m (src + (b - dst)) else m b

/-- No byte is in both ranges. -/
def Apart (a b : BitVec 32) (length : Nat) : Prop := ∀ c, InRange a length c → ¬ InRange b length c

/-- A byte of four bytes put together. -/
theorem append_byte (bytes : Nat → BitVec 8) {k : Nat} (small : k < 4) :
    (bytes 3 ++ bytes 2 ++ bytes 1 ++ bytes 0 : BitVec 32).extractLsb' (8 * k) 8 = bytes k := by
  have digits : k = 0 ∨ k = 1 ∨ k = 2 ∨ k = 3 := by omega
  rcases digits with rfl | rfl | rfl | rfl
  all_goals
    apply BitVec.eq_of_getLsbD_eq
    intro i inByte
    simp only [BitVec.getLsbD_append, BitVec.getLsbD_extractLsb']
    split_ifs <;> simp <;> grind

/-- A byte of a word. -/
theorem readWord_byte {k : Nat} (small : k < 4) :
    (readWord m a).extractLsb' (8 * k) 8 = m (a + BitVec.ofNat 32 k) := by
  have byte := append_byte (fun k => m (a + BitVec.ofNat 32 k)) small
  have first : a + BitVec.ofNat 32 0 = a := BitVec.add_zero a
  rw [first] at byte
  exact byte

/-- One word copied. -/
theorem writeWord_readWord {src dst : BitVec 32} :
    writeWord m dst (readWord m src) = copied m src dst 4 := by
  funext b
  unfold copied
  split
  case isTrue inside =>
    have index : (b - dst).toNat < 4 := inside
    rw [writeWord, write_of_inRange inside, readWord_byte index, BitVec.ofNat_toNat, BitVec.setWidth_eq]
  case isFalse outside => exact write_of_not_inRange outside

/-- A range of words is its first word and the rest. -/
theorem inRange_word_or_rest {length : Nat} (fits : length + 4 ≤ 2 ^ 32) :
    InRange a (length + 4) b ↔ InRange a 4 b ∨ InRange (a + 4) length b := by
  unfold InRange
  bv_omega

/-- What is left of two ranges behind their first words is apart as well. -/
theorem Apart.rest {length : Nat} (apart : Apart a b (length + 4)) (fits : length + 4 ≤ 2 ^ 32) :
    Apart (a + 4) (b + 4) length := by
  intro c inFirst inSecond
  exact apart c ((inRange_word_or_rest fits).mpr (.inr inFirst))
    ((inRange_word_or_rest fits).mpr (.inr inSecond))

/-- A copy goes on where its first word ended, unless it runs over what it has
still to read. -/
theorem copied_word_rest {src dst : BitVec 32} {length : Nat} (fits : length + 4 ≤ 2 ^ 32)
    (apart : Apart src dst (length + 4)) :
    copied (copied m src dst 4) (src + 4) (dst + 4) length = copied m src dst (length + 4) := by
  funext b
  by_cases inRest : InRange (dst + 4) length b
  · have source : src + 4 + (b - (dst + 4)) = src + (b - dst) := by bv_omega
    have inSource : InRange src (length + 4) (src + (b - dst)) := by
      unfold InRange at inRest ⊢
      bv_omega
    have untouched : ¬ InRange dst 4 (src + (b - dst)) := by
      intro inFirst
      exact apart _ inSource ((inRange_word_or_rest fits).mpr (.inl inFirst))
    have inAll : InRange dst (length + 4) b := (inRange_word_or_rest fits).mpr (.inr inRest)
    simp only [copied, if_pos inRest, if_pos inAll, source, if_neg untouched]
  · by_cases inFirst : InRange dst 4 b
    · have inAll : InRange dst (length + 4) b := (inRange_word_or_rest fits).mpr (.inl inFirst)
      simp only [copied, if_neg inRest, if_pos inFirst, if_pos inAll]
    · have outside : ¬ InRange dst (length + 4) b := by
        rw [inRange_word_or_rest fits]
        exact not_or.mpr ⟨inFirst, inRest⟩
      simp only [copied, if_neg inRest, if_neg inFirst, if_neg outside]

end Q3df.ByteMemory
