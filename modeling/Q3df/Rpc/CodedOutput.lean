/-
Module: Q3df.Rpc.CodedOutput
Layer: Rpc
Purpose: Writing numbers into a message. The source unrolls the writers, finds the number of bytes
  with a tree of comparisons, and counts the bytes of a message before it writes them; all of them
  agree with the shortest group of the number.
Imports: Mathlib.Tactic.IntervalCases, Q3df.Library.Varint, Q3df.Rpc.Conn
Trusted boundary: human-reviewed transcription of the output half of
  tools/protobuf/src/google/protobuf/io/coded_stream.{h,cc}, for an output array that is large
  enough
Main exports: writeVarint32ToArray, writeVarint64ToArray, writeTagToArray, varintSize32,
  varintSize64, writeVarint32ToArray_eq, writeVarint64ToArray_eq, writeTagToArray_eq,
  varintSize32_eq, varintSize64_eq
Open obligations: none
-/
import Mathlib.Tactic.IntervalCases
import Q3df.Library.Varint
import Q3df.Rpc.Conn

namespace Q3df.Rpc

/-- `static_cast<uint8>(x | 0x80)`. -/
def moreByte (x : BitVec 32) : Byte := (x ||| 0x80#32).setWidth 8

/-- The bytes that were put into `target`, with the high bit of the last one
taken away again. -/
def endLast (size : Nat) (target : List Byte) : List Byte :=
  target.take (size - 1) ++ [target.getD (size - 1) 0 &&& 0x7f#8]

/-- `WriteVarint32FallbackToArrayInline`. -/
def writeVarint32FallbackToArrayInline (value : BitVec 32) : List Byte :=
  if 2 ^ 7 ≤ value.toNat then
    if 2 ^ 14 ≤ value.toNat then
      if 2 ^ 21 ≤ value.toNat then
        if 2 ^ 28 ≤ value.toNat then
          [moreByte value, moreByte (value >>> 7), moreByte (value >>> 14), moreByte (value >>> 21),
            (value >>> 28).setWidth 8]
        else
          endLast 4 [moreByte value, moreByte (value >>> 7), moreByte (value >>> 14), moreByte (value >>> 21)]
      else endLast 3 [moreByte value, moreByte (value >>> 7), moreByte (value >>> 14)]
    else endLast 2 [moreByte value, moreByte (value >>> 7)]
  else endLast 1 [moreByte value]

/-- `WriteVarint32ToArray`. -/
def writeVarint32ToArray (value : BitVec 32) : List Byte :=
  if value.toNat < 0x80 then [value.setWidth 8] else writeVarint32FallbackToArrayInline value

/-- `WriteTagToArray`. -/
def writeTagToArray (value : BitVec 32) : List Byte :=
  if value.toNat < 2 ^ 7 then [value.setWidth 8]
  else if value.toNat < 2 ^ 14 then [moreByte value, (value >>> 7).setWidth 8]
  else writeVarint32FallbackToArrayInline value

/-- The tree of comparisons of `WriteVarint64ToArrayInline`. -/
def sizeOfParts (part0 part1 part2 : BitVec 32) : Nat :=
  if part2 = 0 then
    if part1 = 0 then
      if part0.toNat < 2 ^ 14 then
        if part0.toNat < 2 ^ 7 then 1 else 2
      else
        if part0.toNat < 2 ^ 21 then 3 else 4
    else
      if part1.toNat < 2 ^ 14 then
        if part1.toNat < 2 ^ 7 then 5 else 6
      else
        if part1.toNat < 2 ^ 21 then 7 else 8
  else
    if part2.toNat < 2 ^ 7 then 9 else 10

/-- `WriteVarint64ToArrayInline`. -/
def writeVarint64ToArray (value : BitVec 64) : List Byte :=
  let part0 := value.setWidth 32
  let part1 := (value >>> 28).setWidth 32
  let part2 := (value >>> 56).setWidth 32
  endLast (sizeOfParts part0 part1 part2)
    [moreByte part0, moreByte (part0 >>> 7), moreByte (part0 >>> 14), moreByte (part0 >>> 21),
      moreByte part1, moreByte (part1 >>> 7), moreByte (part1 >>> 14), moreByte (part1 >>> 21),
      moreByte part2, moreByte (part2 >>> 7)]

/-- `VarintSize32`. -/
def varintSize32 (value : BitVec 32) : Nat :=
  if value.toNat < 2 ^ 7 then 1
  else if value.toNat < 2 ^ 14 then 2
  else if value.toNat < 2 ^ 21 then 3
  else if value.toNat < 2 ^ 28 then 4
  else 5

/-- `VarintSize64`. -/
def varintSize64 (value : BitVec 64) : Nat :=
  if value.toNat < 2 ^ 35 then
    if value.toNat < 2 ^ 7 then 1
    else if value.toNat < 2 ^ 14 then 2
    else if value.toNat < 2 ^ 21 then 3
    else if value.toNat < 2 ^ 28 then 4
    else 5
  else
    if value.toNat < 2 ^ 42 then 6
    else if value.toNat < 2 ^ 49 then 7
    else if value.toNat < 2 ^ 56 then 8
    else if value.toNat < 2 ^ 63 then 9
    else 10

/-!
### One byte

The two ways in which the generated code writes a byte: with the continuation
bit and without.
-/

/-- A byte that continues holds seven bits of the number. -/
theorem moreByte_eq (x : BitVec 32) : moreByte x = BitVec.ofNat 8 (x.toNat % 128 + 128) := by
  have low : (x.setWidth 8).toNat % 128 = x.toNat % 128 := by
    rw [BitVec.toNat_setWidth]
    exact Nat.mod_mod_of_dvd _ (by decide)
  rw [moreByte, BitVec.setWidth_or, ← low]
  exact or_high _

theorem and_low_of_more : ∀ digit < 128, BitVec.ofNat 8 (digit + 128) &&& 0x7f#8 =
    BitVec.ofNat 8 digit := by
  decide +kernel

/-- Bytes that all continue, up to a size, with the last one ended: the shortest
group of a number of that size. -/
theorem endLast_eq_encode {n more : Nat} {target : List Byte} (small : n < 128 ^ (more + 1))
    (large : more = 0 ∨ 128 ^ more ≤ n)
    (digits : ∀ i ≤ more, target[i]? = some (BitVec.ofNat 8 (n / 128 ^ i % 128 + 128))) :
    endLast (more + 1) target = Varint.encode n := by
  have front : target.take more = (List.range more).map fun i =>
      BitVec.ofNat 8 (n / 128 ^ i % 128 + 128) := by
    apply List.ext_getElem?
    intro i
    rw [List.getElem?_take, List.getElem?_map]
    by_cases inside : i < more
    · rw [if_pos inside, digits i (Nat.le_of_lt inside), List.getElem?_range inside, Option.map_some]
    · rw [if_neg inside, List.getElem?_eq_none (by simpa using inside), Option.map_none]
  have highest : n / 128 ^ more < 128 := by
    rw [Nat.div_lt_iff_lt_mul (Nat.pow_pos (by decide)), Nat.mul_comm, ← Nat.pow_succ]
    exact small
  have last : target.getD more 0 &&& 0x7f#8 = BitVec.ofNat 8 (n / 128 ^ more) := by
    rw [List.getD_eq_getElem?_getD, digits more (Nat.le_refl more), Option.getD_some,
      and_low_of_more _ (Nat.mod_lt _ (by decide)), Nat.mod_eq_of_lt highest]
  rw [endLast, Nat.add_sub_cancel, front, last, Varint.encode_eq_digits small large]

/-!
### The unrolled writers

The source writes numbers without a loop, with one branch for each length. Each
branch is compared with the shortest encoding.
-/

/-- The byte at a place holds the digit with base 128 of this place. -/
theorem moreByte_digit {x : BitVec 32} {n i : Nat} (digit : x.toNat % 128 = n / 128 ^ i % 128) :
    moreByte x = BitVec.ofNat 8 (n / 128 ^ i % 128 + 128) := by
  rw [moreByte_eq, digit]

/-- The bytes of a word of 32 bits that all continue. -/
theorem digits32 (value : BitVec 32) {i : Nat} (inside : i ≤ 3) :
    [moreByte value, moreByte (value >>> 7), moreByte (value >>> 14), moreByte (value >>> 21)][i]? =
      some (BitVec.ofNat 8 (value.toNat / 128 ^ i % 128 + 128)) := by
  interval_cases i <;>
    refine congrArg some (moreByte_digit ?_) <;>
    simp [Nat.shiftRight_eq_div_pow]

theorem last_byte {w : Nat} (x : BitVec w) (k : Nat) :
    (x >>> k).setWidth 8 = BitVec.ofNat 8 (x.toNat / 2 ^ k) := by
  rw [setWidth_eq_ofNat, BitVec.toNat_ushiftRight, Nat.shiftRight_eq_div_pow]

theorem writeVarint32FallbackToArrayInline_eq (value : BitVec 32) :
    writeVarint32FallbackToArrayInline value = Varint.encode value.toNat := by
  have bound := value.isLt
  rw [writeVarint32FallbackToArrayInline]
  split_ifs with two three four five
  · rw [@Varint.encode_eq_digits _ 4 (by omega) (by omega), last_byte]
    simp [List.range_succ, moreByte_eq, Nat.shiftRight_eq_div_pow]
  · exact @endLast_eq_encode _ 3 _ (by omega) (by omega) fun i inside => digits32 value inside
  · refine @endLast_eq_encode _ 2 _ (by omega) (by omega) fun i inside => ?_
    rw [← digits32 value (Nat.le_trans inside (by decide))]
    interval_cases i <;> rfl
  · refine @endLast_eq_encode _ 1 _ (by omega) (by omega) fun i inside => ?_
    rw [← digits32 value (Nat.le_trans inside (by decide))]
    interval_cases i <;> rfl
  · refine @endLast_eq_encode _ 0 _ (by omega) (by omega) fun i inside => ?_
    rw [← digits32 value (Nat.le_trans inside (by decide))]
    interval_cases i
    rfl

/-- The writer of 32 bits writes the shortest encoding. -/
theorem writeVarint32ToArray_eq (value : BitVec 32) :
    writeVarint32ToArray value = Varint.encode value.toNat := by
  rw [writeVarint32ToArray]
  split_ifs with short
  · rw [Varint.encode_of_lt short, setWidth_eq_ofNat]
  · exact writeVarint32FallbackToArrayInline_eq value

/-- A tag is written like any number of 32 bits. -/
theorem writeTagToArray_eq (value : BitVec 32) : writeTagToArray value = Varint.encode value.toNat := by
  rw [writeTagToArray]
  split_ifs with short two
  · rw [Varint.encode_of_lt (by simpa using short), setWidth_eq_ofNat]
  · rw [@Varint.encode_eq_digits _ 1 (by omega) (by omega), last_byte]
    simp [List.range_succ, moreByte_eq]
  · exact writeVarint32FallbackToArrayInline_eq value

/-- The bytes of a word of 64 bits that all continue, each from its part. -/
theorem digits64 (value : BitVec 64) {i : Nat} (inside : i ≤ 9) :
    [moreByte (value.setWidth 32), moreByte (value.setWidth 32 >>> 7), moreByte (value.setWidth 32 >>> 14),
      moreByte (value.setWidth 32 >>> 21), moreByte ((value >>> 28).setWidth 32),
      moreByte ((value >>> 28).setWidth 32 >>> 7), moreByte ((value >>> 28).setWidth 32 >>> 14),
      moreByte ((value >>> 28).setWidth 32 >>> 21), moreByte ((value >>> 56).setWidth 32),
      moreByte ((value >>> 56).setWidth 32 >>> 7)][i]? =
      some (BitVec.ofNat 8 (value.toNat / 128 ^ i % 128 + 128)) := by
  have bound := value.isLt
  interval_cases i <;>
    refine congrArg some (moreByte_digit ?_) <;>
    simp [Nat.shiftRight_eq_div_pow] <;>
    omega

/-- The tree finds the number of digits. -/
theorem sizeOfParts_spec (value : BitVec 64) :
    ∃ more, sizeOfParts (value.setWidth 32) ((value >>> 28).setWidth 32)
      ((value >>> 56).setWidth 32) = more + 1 ∧
      more ≤ 9 ∧ value.toNat < 128 ^ (more + 1) ∧ (more = 0 ∨ 128 ^ more ≤ value.toNat) := by
  have bound := value.isLt
  have part : ∀ k, ((value >>> k).setWidth 32).toNat = value.toNat / 2 ^ k % 4294967296 := by
    intro k
    rw [BitVec.toNat_setWidth, BitVec.toNat_ushiftRight, Nat.shiftRight_eq_div_pow]
  have empty : ∀ k, (value >>> k).setWidth 32 = 0 ↔ value.toNat / 2 ^ k % 4294967296 = 0 := by
    intro k
    rw [← part, ← BitVec.toNat_inj]
    rfl
  simp only [sizeOfParts, empty, part, BitVec.toNat_setWidth]
  split_ifs
  · exact ⟨0, rfl, by omega, by omega, by omega⟩
  · exact ⟨1, rfl, by omega, by omega, by omega⟩
  · exact ⟨2, rfl, by omega, by omega, by omega⟩
  · exact ⟨3, rfl, by omega, by omega, by omega⟩
  · exact ⟨4, rfl, by omega, by omega, by omega⟩
  · exact ⟨5, rfl, by omega, by omega, by omega⟩
  · exact ⟨6, rfl, by omega, by omega, by omega⟩
  · exact ⟨7, rfl, by omega, by omega, by omega⟩
  · exact ⟨8, rfl, by omega, by omega, by omega⟩
  · exact ⟨9, rfl, by omega, by omega, by omega⟩

/-- The tree of comparisons and the unrolled stores write the shortest group of
the number. -/
theorem writeVarint64ToArray_eq (value : BitVec 64) :
    writeVarint64ToArray value = Varint.encode value.toNat := by
  obtain ⟨more, size, inside, small, large⟩ := sizeOfParts_spec value
  simp only [writeVarint64ToArray, size]
  exact endLast_eq_encode small large fun i below => digits64 value (Nat.le_trans below inside)

/-!
### Bytes counted before they are written

`VarintSize32` and `VarintSize64` compare with powers of two, and give the
length of what the writers write.
-/

/-- The size counted for a number is the length of its encoding. -/
theorem varintSize32_eq (value : BitVec 32) : varintSize32 value = (Varint.encode value.toNat).length := by
  have bound := value.isLt
  rw [varintSize32]
  split_ifs
  · exact (@Varint.length_encode_eq _ 0 (by omega) (by omega)).symm
  · exact (@Varint.length_encode_eq _ 1 (by omega) (by omega)).symm
  · exact (@Varint.length_encode_eq _ 2 (by omega) (by omega)).symm
  · exact (@Varint.length_encode_eq _ 3 (by omega) (by omega)).symm
  · exact (@Varint.length_encode_eq _ 4 (by omega) (by omega)).symm

theorem varintSize64_eq (value : BitVec 64) : varintSize64 value = (Varint.encode value.toNat).length := by
  have bound := value.isLt
  rw [varintSize64]
  split_ifs
  · exact (@Varint.length_encode_eq _ 0 (by omega) (by omega)).symm
  · exact (@Varint.length_encode_eq _ 1 (by omega) (by omega)).symm
  · exact (@Varint.length_encode_eq _ 2 (by omega) (by omega)).symm
  · exact (@Varint.length_encode_eq _ 3 (by omega) (by omega)).symm
  · exact (@Varint.length_encode_eq _ 4 (by omega) (by omega)).symm
  · exact (@Varint.length_encode_eq _ 5 (by omega) (by omega)).symm
  · exact (@Varint.length_encode_eq _ 6 (by omega) (by omega)).symm
  · exact (@Varint.length_encode_eq _ 7 (by omega) (by omega)).symm
  · exact (@Varint.length_encode_eq _ 8 (by omega) (by omega)).symm
  · exact (@Varint.length_encode_eq _ 9 (by omega) (by omega)).symm

end Q3df.Rpc
