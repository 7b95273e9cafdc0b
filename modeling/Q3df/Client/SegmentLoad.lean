/-
Module: Q3df.Client.SegmentLoad
Layer: Client
Purpose: What the copy loops of the `.qvm` loader leave in the memory block, byte by byte: the bytes
  of a word in either byte order, the bytes each loop writes and the bytes it leaves alone, and from
  these the bytes of the data segment and the words of the code segment after the whole load.
Imports: Q3df.Client.ImageBounds
Trusted boundary: none
Main exports: sourceByte, blockByte, Loader.PointsAt, FitsAddressSpace, loadInstructions_byte_apart,
  loadSegments_code_byte, loadSegments_data_byte
Open obligations: none
-/
import Q3df.Client.ImageBounds

namespace Q3df.Client

open ByteMemory SignedWord

/-!
### The bytes of a word

The loader reads words of the file, and swaps their bytes if the magic number
was swapped. A byte of a stored word is therefore one byte of the file, at a
place that the order decides.
-/

/-- The bytes of a word of the file, the low one first. -/
theorem readInt_byte (image : Int → Byte) (src : Int) {r : Nat} (small : r < 4) :
    (readInt image src).extractLsb' (8 * r) 8 = image (src + r) := by
  have byte := ByteMemory.append_byte (fun r => image (src + r)) small
  have first : src + (0 : Nat) = src := Int.add_zero src
  rw [first] at byte
  exact byte

/-- Four digits to the base 256, put together in the other order. -/
theorem reversed_digit {b3 b2 b1 b0 : Nat} (h3 : b3 < 256) (h2 : b2 < 256) (h1 : b1 < 256)
    (h0 : b0 < 256) :
    let sum := (b0 * 16777216 + b1 * 65536 + b2 * 256 + b3) % 4294967296
    sum % 256 = b3 ∧ sum / 256 % 256 = b2 ∧ sum / 65536 % 256 = b1 ∧ sum / 16777216 % 256 = b0 := by
  dsimp only
  omega

/-- `int_byteswap` reverses the bytes. -/
theorem intByteswap_byte (word : Word) {r : Nat} (small : r < 4) :
    (intByteswap word).extractLsb' (8 * r) 8 = word.extractLsb' (8 * (3 - r)) 8 := by
  have low (n : Nat) : n &&& 255 = n % 256 := Nat.and_two_pow_sub_one_eq_mod n 8
  have digit (n : Nat) : n % 256 < 256 := Nat.mod_lt n (by decide)
  obtain ⟨first, second, third, fourth⟩ :=
    reversed_digit (digit (word.toNat / 16777216)) (digit (word.toNat / 65536)) (digit (word.toNat / 256))
      (digit word.toNat)
  have digits : r = 0 ∨ r = 1 ∨ r = 2 ∨ r = 3 := by omega
  apply BitVec.eq_of_toNat_eq
  rcases digits with rfl | rfl | rfl | rfl <;>
    simp [intByteswap, BitVec.extractLsb'_toNat, Nat.shiftRight_eq_div_pow, Nat.shiftLeft_eq, low] <;>
      omega

/-- Where the byte `i` of the data segment stands in the data section, as long
as whole words are copied. -/
def sourceByte (swapped : Bool) (i : Nat) : Nat :=
  if swapped then 4 * (i / 4) + (3 - i % 4) else i

theorem sourceByte_lt {swapped : Bool} {i n : Nat} (inside : i < 4 * n) : sourceByte swapped i < 4 * n := by
  rw [sourceByte]
  split <;> omega

/-- Within its word the order of the bytes is turned around and back. -/
theorem sourceByte_sourceByte (swapped : Bool) (i : Nat) :
    sourceByte swapped (sourceByte swapped i) = i := by
  cases swapped with
  | false => rfl
  | true =>
      simp only [sourceByte, if_true]
      omega

/-- The bytes of a word as the loader stores it. -/
theorem storedInt_byte (image : Int → Byte) (swapped : Bool) (src : Int) {r : Nat} (small : r < 4) :
    (if swapped then intByteswap (readInt image src) else readInt image src).extractLsb' (8 * r) 8 =
      image (src + sourceByte swapped r) := by
  cases swapped with
  | false => exact readInt_byte image src small
  | true =>
      have place : sourceByte true r = 3 - r := by
        simp only [sourceByte, if_true]
        omega
      rw [if_pos rfl, intByteswap_byte _ small, readInt_byte image src (by omega), place]

/-!
### Bytes of the block

What the loops store is followed byte by byte: each loop writes its own range,
in order, and nothing outside.
-/

/-- The byte at an offset of the memory block. -/
def blockByte (mem : Memory) (memory : Word) (offset : Nat) : Byte :=
  mem (memory + BitVec.ofNat 32 offset)

/-- `dst` stands at an offset of the block, as far as the address goes. -/
def Loader.PointsAt (s : Loader) (offset : Nat) : Prop :=
  BitVec.ofInt 32 s.dst = BitVec.ofNat 32 offset

section Loops

variable {image : Int → Byte} {swapped : Bool} {memory : Word} {s : Loader} {d k : Nat}

theorem pointsAt_advance {length : Nat} (points : s.PointsAt d) : (s.advance length).PointsAt d := points

/-- Storing a word moves the cursor of the block by four bytes. -/
theorem pointsAt_put {value : Word} (points : s.PointsAt d) : (s.put memory value).PointsAt (d + 4) := by
  rw [Loader.PointsAt] at points ⊢
  have four : BitVec.ofInt 32 4 = BitVec.ofNat 32 4 := by decide
  rw [put_dst, BitVec.ofInt_add, points, four, ← BitVec.ofNat_add]

/-- A store writes the bytes of its word and no others. -/
theorem put_byte {value : Word} (points : s.PointsAt d) (fits : d + 4 ≤ 2 ^ 32) (small : k < 2 ^ 32) :
    blockByte (s.put memory value).mem memory k =
      if d ≤ k ∧ k < d + 4 then value.extractLsb' (8 * (k - d)) 8 else blockByte s.mem memory k := by
  rw [Loader.PointsAt] at points
  simp only [blockByte, Loader.put, points]
  exact writeWord_offset small fits

/-- Storing a word leaves the bytes outside of it alone. -/
theorem put_byte_apart {value : Word} (points : s.PointsAt d) (fits : d + 4 ≤ 2 ^ 32) (small : k < 2 ^ 32)
    (apart : k < d ∨ d + 4 ≤ k) :
    blockByte (s.put memory value).mem memory k = blockByte s.mem memory k := by
  rw [put_byte points fits small, if_neg (by omega)]

/-- An instruction leaves the bytes outside of its two words alone. -/
theorem loadInstruction_byte_apart (points : s.PointsAt d) (fits : d + 8 ≤ 2 ^ 32) (small : k < 2 ^ 32)
    (apart : k < d ∨ d + 8 ≤ k) :
    blockByte (loadInstruction image swapped memory s).mem memory k = blockByte s.mem memory k := by
  have opened (value : Word) : ((s.advance 1).put memory value).PointsAt (d + 4) :=
    pointsAt_put (pointsAt_advance points)
  have opcode (value : Word) :
      blockByte ((s.advance 1).put memory value).mem memory k = blockByte s.mem memory k :=
    put_byte_apart (pointsAt_advance points) (by omega) small (by omega)
  cases form : paramFormOf (image s.src) with
  | word =>
      simp only [loadInstruction, form]
      rw [put_byte_apart (pointsAt_advance (opened _)) (by omega) small (by omega)]
      exact opcode _
  | byte =>
      simp only [loadInstruction, form]
      rw [put_byte_apart (pointsAt_advance (opened _)) (by omega) small (by omega)]
      exact opcode _
  | none =>
      simp only [loadInstruction, form]
      rw [put_byte_apart (opened _) (by omega) small (by omega)]
      exact opcode _

theorem pointsAt_loadInstruction (points : s.PointsAt d) :
    (loadInstruction image swapped memory s).PointsAt (d + 8) := by
  rw [Loader.PointsAt] at points ⊢
  have eight : BitVec.ofInt 32 8 = BitVec.ofNat 32 8 := by decide
  rw [loadInstruction_dst, BitVec.ofInt_add, points, eight, ← BitVec.ofNat_add]

/-- The instruction loop writes its eight bytes a round and no others. -/
theorem loadInstructions_byte_apart {n : Nat} (points : s.PointsAt d) (fits : d + 8 * n ≤ 2 ^ 32)
    (small : k < 2 ^ 32) (apart : k < d ∨ d + 8 * n ≤ k) :
    blockByte ((loadInstruction image swapped memory)^[n] s).mem memory k = blockByte s.mem memory k := by
  induction n generalizing s d with
  | zero => rfl
  | succ n inductionHypothesis =>
      rw [Function.iterate_succ_apply,
        inductionHypothesis (pointsAt_loadInstruction points) (by omega) (by omega)]
      exact loadInstruction_byte_apart points (by omega) small (by omega)

/-- One round of the data loop. -/
theorem loadDataWord_byte (points : s.PointsAt d) (fits : d + 4 ≤ 2 ^ 32) (small : k < 2 ^ 32) :
    blockByte (loadDataWord image swapped memory s).mem memory k =
      if d ≤ k ∧ k < d + 4 then image (s.src + sourceByte swapped (k - d))
      else blockByte s.mem memory k := by
  rw [loadDataWord, put_byte (pointsAt_advance points) fits small]
  split
  · exact storedInt_byte image swapped s.src (by omega)
  · rfl

theorem pointsAt_loadDataWord (points : s.PointsAt d) :
    (loadDataWord image swapped memory s).PointsAt (d + 4) :=
  pointsAt_put (pointsAt_advance points)

/-- The bytes of the next word come from the next four bytes of the file. -/
theorem sourceByte_add_four (i : Nat) : sourceByte swapped (i + 4) = sourceByte swapped i + 4 := by
  rw [sourceByte, sourceByte]
  split <;> omega

/-- The data loop copies whole words, each in its own byte order. -/
theorem loadDataWords_byte {n : Nat} (points : s.PointsAt d) (fits : d + 4 * n ≤ 2 ^ 32)
    (small : k < 2 ^ 32) :
    blockByte ((loadDataWord image swapped memory)^[n] s).mem memory k =
      if d ≤ k ∧ k < d + 4 * n then image (s.src + sourceByte swapped (k - d))
      else blockByte s.mem memory k := by
  induction n generalizing s d with
  | zero => rw [if_neg (by omega), Function.iterate_zero_apply]
  | succ n inductionHypothesis =>
      rw [Function.iterate_succ_apply, inductionHypothesis (pointsAt_loadDataWord points) (by omega),
        loadDataWord_byte points (by omega) small, loadDataWord_src]
      by_cases behind : d + 4 ≤ k
      · have shifted : sourceByte swapped (k - d) = sourceByte swapped (k - (d + 4)) + 4 := by
          rw [← sourceByte_add_four]
          congr 1
          omega
        have place : s.src + 4 + (sourceByte swapped (k - (d + 4)) : Int) =
            s.src + (sourceByte swapped (k - d) : Int) := by omega
        rw [place]
        split_ifs <;> first | rfl | omega
      · split_ifs <;> first | rfl | omega

theorem pointsAt_loadDataWords {n : Nat} (points : s.PointsAt d) :
    ((loadDataWord image swapped memory)^[n] s).PointsAt (d + 4 * n) := by
  induction n generalizing s d with
  | zero => exact points
  | succ n inductionHypothesis =>
      rw [Function.iterate_succ_apply]
      have next : d + 4 * (n + 1) = d + 4 + 4 * n := by omega
      rw [next]
      exact inductionHypothesis (pointsAt_loadDataWord points)

/-- `memcpy` continues where the data loop has stopped, in the file and in the
block. -/
theorem loadLit_byte {litLength : Word} (points : s.PointsAt d) (fits : d + litLength.toNat ≤ 2 ^ 32)
    (small : k < 2 ^ 32) :
    blockByte (loadLit image memory litLength s).mem memory k =
      if d ≤ k ∧ k < d + litLength.toNat then image (s.src + (k - d : Nat))
      else blockByte s.mem memory k := by
  rw [Loader.PointsAt] at points
  simp only [blockByte, loadLit, points, inRange_offset_iff small fits]
  split
  · rename_i inside
    rw [offset_sub_offset inside.1, BitVec.toNat_ofNat, Nat.mod_eq_of_lt (by omega)]
  · rfl

end Loops

/-!
### The whole load

The code is stored first, then the data and the literals. No later loop writes
into an earlier range, and what none of them writes is zero.
-/

/-- The lengths of the header are not negative, and the segments they describe
fit together into the address space. -/
structure FitsAddressSpace (header : VmHeader) : Prop where
  instructionCount : 0 ≤ header.instructionCount.toInt
  dataLength : 0 ≤ header.dataLength.toInt
  litLength : 0 ≤ header.litLength.toInt
  bssLength : 0 ≤ header.bssLength.toInt
  block : header.instructionCount.toInt * 8 + header.dataLength.toInt + header.litLength.toInt +
    header.bssLength.toInt < 2 ^ 32

namespace FitsAddressSpace

variable {header : VmHeader}

/-- The lengths as the sizes the loader computes with. -/
theorem sizes (fits : FitsAddressSpace header) :
    header.instructionCount.toInt.toNat = header.instructionCount.toNat ∧
      header.dataWords = header.dataLength.toNat / 4 ∧
      8 * header.instructionCount.toNat + header.dataLength.toNat + header.litLength.toNat +
        header.bssLength.toNat < 2 ^ 32 := by
  have count := toNat_of_toInt_nonneg fits.instructionCount
  have data := toNat_of_toInt_nonneg fits.dataLength
  have lit := toNat_of_toInt_nonneg fits.litLength
  have bss := toNat_of_toInt_nonneg fits.bssLength
  have block := fits.block
  rw [VmHeader.dataWords]
  omega

/-- In a file that fits the address space the lengths of the three sections add
up. -/
theorem dataSegmentLen_toNat (fits : FitsAddressSpace header) :
    header.dataSegmentLen.toNat =
      header.dataLength.toNat + header.litLength.toNat + header.bssLength.toNat := by
  have sizes := fits.sizes
  rw [VmHeader.dataSegmentLen, BitVec.toNat_add, BitVec.toNat_add]
  omega

theorem codeSegmentSize_eq (header : VmHeader) :
    header.codeSegmentSize = BitVec.ofNat 32 (8 * header.instructionCount.toNat) := by
  apply BitVec.eq_of_toNat_eq
  have eight : (8 : Word).toNat = 8 := by decide
  rw [VmHeader.codeSegmentSize, BitVec.toNat_mul, BitVec.toNat_ofNat, eight, Nat.mul_comm]

/-- In such a file the block is as long as the code and the three sections. -/
theorem memorySize_toNat (fits : FitsAddressSpace header) :
    (header.memorySize 0).toNat = 8 * header.instructionCount.toNat + header.dataLength.toNat +
      header.litLength.toNat + header.bssLength.toNat := by
  have sizes := fits.sizes
  rw [memorySize_zero, codeSegmentSize_eq, BitVec.toNat_add, fits.dataSegmentLen_toNat, BitVec.toNat_ofNat]
  omega

end FitsAddressSpace

section Whole

variable {image : Int → Byte} {swapped : Bool} {header : VmHeader} {memory : Word} {env : LoadEnv} {k : Nat}

/-- A cleared block is zero everywhere. -/
theorem clearBlock_byte {mem : Memory} {size : Word} (small : k < 2 ^ 32) (inside : k < size.toNat) :
    blockByte (clearBlock mem memory size) memory k = 0 := by
  have place : InRange memory size.toNat (memory + BitVec.ofNat 32 k) := by
    rw [InRange, offset_sub_self, BitVec.toNat_ofNat, Nat.mod_eq_of_lt small]
    exact inside
  rw [blockByte, clearBlock, if_pos place]

/-- The loader before the instruction loop. -/
def codeLoader (header : VmHeader) (memory memorySize : Word) (env : LoadEnv) : Loader :=
  { mem := clearBlock env.mem memory memorySize
    src := header.codeOffset.toInt
    dst := 0
    accesses := [.read 0 32, .write 0 memorySize.toNat] }

/-- The loader between the instruction loop and the data loop. -/
def dataLoader (header : VmHeader) (code : Loader) : Loader :=
  { code with src := header.dataOffset.toInt, dst := header.codeSegmentSize.toInt }

theorem pointsAt_codeLoader {size : Word} : (codeLoader header memory size env).PointsAt 0 := rfl

theorem pointsAt_dataLoader {code : Loader} :
    (dataLoader header code).PointsAt (8 * header.instructionCount.toNat) := by
  rw [Loader.PointsAt, dataLoader, BitVec.ofInt_toInt]
  exact FitsAddressSpace.codeSegmentSize_eq header

/-- The three loops one after the other. -/
theorem loadSegments_eq (fits : FitsAddressSpace header) {size : Word} :
    loadSegments image swapped header memory size env =
      loadLit image memory header.litLength
        ((loadDataWord image swapped memory)^[header.dataLength.toNat / 4]
          (dataLoader header ((loadInstruction image swapped memory)^[header.instructionCount.toNat]
            (codeLoader header memory size env)))) := by
  obtain ⟨count, words, -⟩ := fits.sizes
  simp only [loadSegments, count, words]
  rfl

/-- The data and lit sections leave the code segment alone. -/
theorem loadSegments_code_byte (fits : FitsAddressSpace header) {size : Word}
    (inside : k < 8 * header.instructionCount.toNat) :
    blockByte (loadSegments image swapped header memory size env).mem memory k =
      blockByte ((loadInstruction image swapped memory)^[header.instructionCount.toNat]
        (codeLoader header memory size env)).mem memory k := by
  obtain ⟨-, -, block⟩ := fits.sizes
  rw [loadSegments_eq fits, loadLit_byte (pointsAt_loadDataWords pointsAt_dataLoader) (by omega) (by omega),
    if_neg (by omega), loadDataWords_byte pointsAt_dataLoader (by omega) (by omega), if_neg (by omega)]
  rfl

/-- The bytes of the data segment after the load: whole words of the data
section, then as many bytes as the lit section has, then what the cleared block
holds. -/
theorem loadSegments_data_byte (fits : FitsAddressSpace header) {i : Nat}
    (inside : i < header.dataSegmentLen.toNat) :
    blockByte (loadSegments image swapped header memory (header.memorySize 0) env).mem memory
        (8 * header.instructionCount.toNat + i) =
      if i < 4 * (header.dataLength.toNat / 4) then
        image (header.dataOffset.toInt + sourceByte swapped i)
      else if i < 4 * (header.dataLength.toNat / 4) + header.litLength.toNat then
        image (header.dataOffset.toInt + i)
      else 0 := by
  obtain ⟨-, -, block⟩ := fits.sizes
  rw [fits.dataSegmentLen_toNat] at inside
  have whole : 4 * (header.dataLength.toNat / 4) ≤ header.dataLength.toNat := Nat.mul_div_le _ 4
  rw [loadSegments_eq fits, loadLit_byte (pointsAt_loadDataWords pointsAt_dataLoader) (by omega) (by omega),
    loadDataWords_byte pointsAt_dataLoader (by omega) (by omega), loadDataWords_src]
  by_cases inWords : i < 4 * (header.dataLength.toNat / 4)
  · rw [if_neg (by omega), if_pos (by omega), if_pos inWords, Nat.add_sub_cancel_left]
    rfl
  · rw [if_neg inWords]
    by_cases inLit : i < 4 * (header.dataLength.toNat / 4) + header.litLength.toNat
    · have place : header.dataOffset.toInt + 4 * ((header.dataLength.toNat / 4 : Nat) : Int) +
          ((8 * header.instructionCount.toNat + i - (8 * header.instructionCount.toNat +
            4 * (header.dataLength.toNat / 4)) : Nat) : Int) = header.dataOffset.toInt + i := by omega
      rw [if_pos (by omega), if_pos inLit]
      exact congrArg image place
    · rw [if_neg (by omega), if_neg (by omega), if_neg inLit]
      refine Eq.trans (loadInstructions_byte_apart pointsAt_codeLoader (by omega) (by omega) (by omega)) ?_
      exact clearBlock_byte (by omega) (by rw [fits.memorySize_toNat]; omega)

end Whole

end Q3df.Client
