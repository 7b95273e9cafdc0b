/-
Module: Q3df.Client.ImageBounds
Layer: Client
Purpose: What the loader of a `.qvm` file touches. A call of `Create` is safe when it refuses the
  file, or reads only bytes of the file and writes only bytes of the memory block, with segment
  sizes that have not wrapped around. The loader checks the magic number and two signs only; the
  headline `create_safe_iff` states which files, allocations and heap contents make a call safe, in
  terms of the header fields and of the length of the instruction stream.
Imports: Q3df.Library.SignedWord, Q3df.Client.Q3VmCreate
Trusted boundary: none
Main exports: Access.InBounds, AllInBounds, entryLength, streamLength, SafeRun, SafelyLoaded,
  create_safe_iff
Open obligations: none
-/
import Q3df.Library.SignedWord
import Q3df.Client.Q3VmCreate

namespace Q3df.Client

open SignedWord

/-- Every byte of the access lies in the file or in the memory block. -/
def Access.InBounds (fileSize : Nat) (memorySize : Int) : Access → Prop
  | .read index length => ∀ k : Nat, k < length → 0 ≤ index + k ∧ index + k < fileSize
  | .write offset length => ∀ k : Nat, k < length → 0 ≤ offset + k ∧ offset + k < memorySize

def AllInBounds (fileSize : Nat) (memorySize : Int) (accesses : List Access) : Prop :=
  ∀ access ∈ accesses, access.InBounds fileSize memorySize

/-- A contiguous range, by its ends. -/
theorem range_inside_iff {first bound : Int} {length : Nat} :
    (∀ k : Nat, k < length → 0 ≤ first + k ∧ first + k < bound) ↔
      length = 0 ∨ (0 ≤ first ∧ first + length ≤ bound) := by
  constructor
  · intro inside
    rcases Nat.eq_zero_or_pos length with empty | positive
    · exact Or.inl empty
    · have start := inside 0 positive
      have last := inside (length - 1) (by omega)
      exact Or.inr ⟨by omega, by omega⟩
  · rintro (empty | ⟨low, high⟩) k small
    · omega
    · exact ⟨by omega, by omega⟩

section Bounds

variable (fileSize : Nat) (memorySize : Int) {accesses more : List Access}

/-- Two traces of accesses are in bounds together exactly when each is. -/
theorem allInBounds_append :
    AllInBounds fileSize memorySize (accesses ++ more) ↔
      AllInBounds fileSize memorySize accesses ∧ AllInBounds fileSize memorySize more := by
  simp [AllInBounds, or_imp, forall_and]

/-- A read of no bytes is always in bounds. -/
theorem allInBounds_read {index : Int} {length : Nat} :
    AllInBounds fileSize memorySize [.read index length] ↔
      length = 0 ∨ (0 ≤ index ∧ index + length ≤ fileSize) := by
  simp only [AllInBounds, List.mem_singleton, forall_eq, Access.InBounds]
  exact range_inside_iff

theorem allInBounds_write {offset : Int} {length : Nat} :
    AllInBounds fileSize memorySize [.write offset length] ↔
      length = 0 ∨ (0 ≤ offset ∧ offset + length ≤ memorySize) := by
  simp only [AllInBounds, List.mem_singleton, forall_eq, Access.InBounds]
  exact range_inside_iff

/-!
### The copy loops

Each loop moves two positions, one in the file and one in the block. The
accesses of a whole loop are inside both exactly when its last round is.
-/

/-- Bytes of the instruction at an index of the file: the opcode and its
parameter. -/
def entryLength (image : Int → Byte) (src : Int) : Nat := 1 + (paramFormOf (image src)).length

/-- Bytes of the first `n` instructions from an index on. -/
def streamLength (image : Int → Byte) : Nat → Int → Nat
  | 0, _ => 0
  | n + 1, src => entryLength image src + streamLength image n (src + entryLength image src)

variable (image : Int → Byte) (swapped : Bool) (memory : Word) (s : Loader)

/-- What reading `length` more bytes adds to the condition on the trace. -/
theorem allInBounds_advance {length : Nat} (positive : 0 < length) :
    AllInBounds fileSize memorySize (s.advance length).accesses ↔
      AllInBounds fileSize memorySize s.accesses ∧ 0 ≤ s.src ∧ s.src + length ≤ fileSize := by
  rw [Loader.advance, allInBounds_append, allInBounds_read]
  have nonempty : length ≠ 0 := by omega
  simp [nonempty]

/-- What storing one more word adds to the condition on the trace. -/
theorem allInBounds_put {value : Word} :
    AllInBounds fileSize memorySize (s.put memory value).accesses ↔
      AllInBounds fileSize memorySize s.accesses ∧ 0 ≤ s.dst ∧ s.dst + 4 ≤ memorySize := by
  rw [Loader.put, allInBounds_append, allInBounds_write]
  simp

@[simp] theorem advance_src (length : Nat) : (s.advance length).src = s.src + length := rfl

@[simp] theorem advance_dst (length : Nat) : (s.advance length).dst = s.dst := rfl

@[simp] theorem put_src (value : Word) : (s.put memory value).src = s.src := rfl

@[simp] theorem put_dst (value : Word) : (s.put memory value).dst = s.dst + 4 := rfl

/-- An instruction takes one byte of the file and those of its parameter. -/
@[simp] theorem loadInstruction_src :
    (loadInstruction image swapped memory s).src = s.src + entryLength image s.src := by
  cases form : paramFormOf (image s.src) <;>
    simp [loadInstruction, entryLength, form, ParamForm.length] <;> omega

/-- An instruction takes two words of the block. -/
@[simp] theorem loadInstruction_dst : (loadInstruction image swapped memory s).dst = s.dst + 8 := by
  cases form : paramFormOf (image s.src) <;> simp [loadInstruction, form] <;> omega

/-- One round of the instruction loop reads one entry and writes two ints. -/
theorem allInBounds_loadInstruction :
    AllInBounds fileSize memorySize (loadInstruction image swapped memory s).accesses ↔
      AllInBounds fileSize memorySize s.accesses ∧
        (0 ≤ s.src ∧ s.src + entryLength image s.src ≤ fileSize) ∧
        (0 ≤ s.dst ∧ s.dst + 8 ≤ memorySize) := by
  cases form : paramFormOf (image s.src) with
  | word =>
      simp only [loadInstruction, entryLength, form, ParamForm.length, advance_src, advance_dst, put_src,
        put_dst, allInBounds_put, allInBounds_advance, Nat.zero_lt_succ, and_assoc]
      exact and_congr_right fun _ => by omega
  | byte =>
      simp only [loadInstruction, entryLength, form, ParamForm.length, advance_src, advance_dst, put_src,
        put_dst, allInBounds_put, allInBounds_advance, Nat.zero_lt_succ, and_assoc]
      exact and_congr_right fun _ => by omega
  | none =>
      simp only [loadInstruction, entryLength, form, ParamForm.length, advance_dst, put_dst, allInBounds_put,
        allInBounds_advance, Nat.zero_lt_succ, and_assoc]
      exact and_congr_right fun _ => by omega

/-- The instruction loop reads the whole stream and writes eight bytes for each
instruction. -/
theorem allInBounds_loadInstructions (n : Nat) :
    AllInBounds fileSize memorySize ((loadInstruction image swapped memory)^[n] s).accesses ↔
      AllInBounds fileSize memorySize s.accesses ∧
        (n = 0 ∨ (0 ≤ s.src ∧ s.src + streamLength image n s.src ≤ fileSize) ∧
          (0 ≤ s.dst ∧ s.dst + 8 * n ≤ memorySize)) := by
  induction n generalizing s with
  | zero => simp
  | succ n inductionHypothesis =>
      rw [Function.iterate_succ_apply, inductionHypothesis, allInBounds_loadInstruction,
        loadInstruction_src, loadInstruction_dst, streamLength, and_assoc]
      refine and_congr_right fun _ => ?_
      rcases Nat.eq_zero_or_pos n with rfl | positive
      · simp [streamLength]
      · omega

@[simp] theorem loadDataWord_src : (loadDataWord image swapped memory s).src = s.src + 4 := rfl

@[simp] theorem loadDataWord_dst : (loadDataWord image swapped memory s).dst = s.dst + 4 := rfl

theorem loadDataWords_src (n : Nat) :
    ((loadDataWord image swapped memory)^[n] s).src = s.src + 4 * n := by
  induction n generalizing s with
  | zero => simp
  | succ n inductionHypothesis =>
      rw [Function.iterate_succ_apply, inductionHypothesis, loadDataWord_src]
      omega

theorem loadDataWords_dst (n : Nat) :
    ((loadDataWord image swapped memory)^[n] s).dst = s.dst + 4 * n := by
  induction n generalizing s with
  | zero => simp
  | succ n inductionHypothesis =>
      rw [Function.iterate_succ_apply, inductionHypothesis, loadDataWord_dst]
      omega

/-- The data loop reads and writes four bytes in each round. -/
theorem allInBounds_loadDataWords (n : Nat) :
    AllInBounds fileSize memorySize ((loadDataWord image swapped memory)^[n] s).accesses ↔
      AllInBounds fileSize memorySize s.accesses ∧
        (n = 0 ∨ (0 ≤ s.src ∧ s.src + 4 * n ≤ fileSize) ∧
          (0 ≤ s.dst ∧ s.dst + 4 * n ≤ memorySize)) := by
  induction n generalizing s with
  | zero => simp
  | succ n inductionHypothesis =>
      rw [Function.iterate_succ_apply, inductionHypothesis, loadDataWord_src, loadDataWord_dst]
      simp only [loadDataWord, advance_dst, allInBounds_put, allInBounds_advance, Nat.zero_lt_succ,
        and_assoc]
      exact and_congr_right fun _ => by omega

/-- The literals are one block of bytes, read and written at once. -/
theorem allInBounds_loadLit {litLength : Word} :
    AllInBounds fileSize memorySize (loadLit image memory litLength s).accesses ↔
      AllInBounds fileSize memorySize s.accesses ∧
        (litLength.toNat = 0 ∨ (0 ≤ s.src ∧ s.src + litLength.toNat ≤ fileSize) ∧
          (0 ≤ s.dst ∧ s.dst + litLength.toNat ≤ memorySize)) := by
  have split : ([.read s.src litLength.toNat, .write s.dst litLength.toNat] : List Access) =
      [.read s.src litLength.toNat] ++ [.write s.dst litLength.toNat] := rfl
  rw [loadLit, allInBounds_append, split, allInBounds_append, allInBounds_read, allInBounds_write]
  exact and_congr_right fun _ => by omega

end Bounds

/-!
### Safe runs

A run is safe when the sizes it computes are exact and all its accesses are in
bounds. It is written out for each of the three results `Create` can have.
-/

namespace VmHeader

/-- The sum of the three section lengths has been computed without wrap-around. -/
def DataSizeExact (header : VmHeader) : Prop :=
  (header.dataLength + header.litLength).toInt = header.dataLength.toInt + header.litLength.toInt ∧
    header.dataSegmentLen.toInt =
      header.dataLength.toInt + header.litLength.toInt + header.bssLength.toInt

/-- So have the size of the code segment and the size of the block. -/
def BlockSizeExact (header : VmHeader) (stacksize : Word) : Prop :=
  header.codeSegmentSize.toInt = header.instructionCount.toInt * 8 ∧
    (header.codeSegmentSize + header.dataSegmentLen).toInt =
      header.codeSegmentSize.toInt + header.dataSegmentLen.toInt ∧
    (header.memorySize stacksize).toInt =
      header.codeSegmentSize.toInt + header.dataSegmentLen.toInt + stacksize.toInt

/-- Bytes the data loop copies: whole words of the data section. -/
def copiedLength (header : VmHeader) : Int := 4 * header.dataWords

end VmHeader

/-- A call of `Create` is safe when it returns `qfalse`, or stays inside the
file and the block with sizes that have not wrapped around. -/
def SafeRun (stacksize : Word) (fileSize : Nat) (header : VmHeader) (run : CreateRun) : Prop :=
  match run.result with
  | .qfalse => True
  | .diverges => header.DataSizeExact ∧ AllInBounds fileSize 0 run.accesses
  | .qtrue vm _ =>
      header.DataSizeExact ∧ header.BlockSizeExact stacksize ∧
        AllInBounds fileSize vm.memorySize.toInt run.accesses

section SafeRun

variable {stacksize : Word} {fileSize : Nat} {header : VmHeader} {run : CreateRun}

/-- A refused file is not read beyond the header, and nothing is stored. -/
theorem safeRun_of_qfalse (result : run.result = .qfalse) :
    SafeRun stacksize fileSize header run := by
  rw [SafeRun, result]
  trivial

/-- A run that hangs in the mask loop has only read the header. -/
theorem safeRun_of_diverges (result : run.result = .diverges) :
    SafeRun stacksize fileSize header run ↔
      header.DataSizeExact ∧ AllInBounds fileSize 0 run.accesses := by
  rw [SafeRun, result]

/-- A file that was accepted has been copied, so all sizes and accesses count. -/
theorem safeRun_of_qtrue {vm : Vm} {mem : ByteMemory.Memory} (result : run.result = .qtrue vm mem) :
    SafeRun stacksize fileSize header run ↔
      header.DataSizeExact ∧ header.BlockSizeExact stacksize ∧
        AllInBounds fileSize vm.memorySize.toInt run.accesses := by
  rw [SafeRun, result]

end SafeRun

/-- The section lengths are small enough to be added. -/
def SectionsAddUp (header : VmHeader) : Prop :=
  -2 ^ 31 ≤ header.dataLength.toInt + header.litLength.toInt ∧
    header.dataLength.toInt + header.litLength.toInt < 2 ^ 31 ∧
    -2 ^ 31 ≤ header.dataLength.toInt + header.litLength.toInt + header.bssLength.toInt ∧
    header.dataLength.toInt + header.litLength.toInt + header.bssLength.toInt < 2 ^ 31

/-- The instruction stream and the copied sections lie in the file, the sections
fit in the data segment, and the block is smaller than 2^31 bytes. -/
def SectionsFit (fileSize streamLength : Nat) (header : VmHeader) : Prop :=
  (0 ≤ header.codeOffset.toInt ∧ header.codeOffset.toInt + streamLength ≤ fileSize) ∧
    (0 ≤ header.litLength.toInt ∧
      header.copiedLength + header.litLength.toInt ≤
        header.dataLength.toInt + header.litLength.toInt + header.bssLength.toInt) ∧
    (header.copiedLength + header.litLength.toInt = 0 ∨
      0 ≤ header.dataOffset.toInt ∧
        header.dataOffset.toInt + header.copiedLength + header.litLength.toInt ≤ fileSize) ∧
    header.instructionCount.toInt * 8 + header.dataLength.toInt + header.litLength.toInt +
      header.bssLength.toInt < 2 ^ 31

/-- When loading a file is safe: an allocation fails, the header is refused, or
the fields describe sections of the file. A data segment of 2^30 bytes or more
is never copied: the mask loop does not end. -/
def SafelyLoaded (oldmem : Option Word) (env : LoadEnv) (file : List Byte) : Prop :=
  let image := fileImage env.heap file
  let header := fileHeader image
  env.fileBuffer = false ∨ ¬header.Accepted ∨
    header.dataSegmentLen.toInt < 2 ^ 30 ∧ oldmem.or env.block = none ∨
    32 ≤ file.length ∧ SectionsAddUp header ∧
      (2 ^ 30 ≤ header.dataLength.toInt + header.litLength.toInt + header.bssLength.toInt ∨
        SectionsFit file.length
          (streamLength (loadedImage image) header.instructionCount.toInt.toNat header.codeOffset.toInt)
          header)

theorem toInt_mul_eight_eq_iff {x : Word} (positive : 0 < x.toInt) :
    (x * 8).toInt = x.toInt * 8 ↔ x.toInt * 8 < 2 ^ 31 := by
  have exact := @toInt_mul_eq_iff 31 x 8
  have eight : (8 : Word).toInt = 8 := by decide
  rw [eight] at exact
  rw [exact]
  omega

/-!
### The whole loader

The code loop, the data loop and the literals one behind the other, with the
sizes the header gives.
-/

/-- What the loader touches, section by section. -/
theorem allInBounds_loadSegments {fileSize : Nat} {memorySize : Int} {image : Int → Byte}
    {swapped : Bool} {header : VmHeader} {memory size : Word} {env : LoadEnv}
    (positive : 0 < header.instructionCount.toInt) :
    AllInBounds fileSize memorySize (loadSegments image swapped header memory size env).accesses ↔
      (32 ≤ fileSize ∧ (size.toNat = 0 ∨ (size.toNat : Int) ≤ memorySize)) ∧
      ((0 ≤ header.codeOffset.toInt ∧
          header.codeOffset.toInt +
            streamLength image header.instructionCount.toInt.toNat header.codeOffset.toInt ≤ fileSize) ∧
        header.instructionCount.toInt * 8 ≤ memorySize) ∧
      (header.copiedLength = 0 ∨
        (0 ≤ header.dataOffset.toInt ∧ header.dataOffset.toInt + header.copiedLength ≤ fileSize) ∧
          (0 ≤ header.codeSegmentSize.toInt ∧
            header.codeSegmentSize.toInt + header.copiedLength ≤ memorySize)) ∧
      (header.litLength.toNat = 0 ∨
        (0 ≤ header.dataOffset.toInt + header.copiedLength ∧
          header.dataOffset.toInt + header.copiedLength + header.litLength.toNat ≤ fileSize) ∧
          (0 ≤ header.codeSegmentSize.toInt + header.copiedLength ∧
            header.codeSegmentSize.toInt + header.copiedLength + header.litLength.toNat ≤
              memorySize)) := by
  have opening : AllInBounds fileSize memorySize [.read 0 32, .write 0 size.toNat] ↔
      32 ≤ fileSize ∧ (size.toNat = 0 ∨ (size.toNat : Int) ≤ memorySize) := by
    have split : ([.read 0 32, .write 0 size.toNat] : List Access) =
        [.read 0 32] ++ [.write 0 size.toNat] := rfl
    rw [split, allInBounds_append, allInBounds_read, allInBounds_write]
    omega
  have count : header.instructionCount.toInt.toNat ≠ 0 := by omega
  have countCast : (header.instructionCount.toInt.toNat : Int) = header.instructionCount.toInt :=
    Int.toNat_of_nonneg (by omega)
  simp only [loadSegments, allInBounds_loadLit, allInBounds_loadDataWords, allInBounds_loadInstructions,
    loadDataWords_src, loadDataWords_dst, opening, and_assoc, VmHeader.copiedLength]
  omega

/-- The sizes are exact when the sections add up. -/
theorem dataSizeExact_iff {header : VmHeader} : header.DataSizeExact ↔ SectionsAddUp header := by
  rw [VmHeader.DataSizeExact, SectionsAddUp, VmHeader.dataSegmentLen, toInt_add_eq_iff]
  constructor
  · rintro ⟨first, second⟩
    have partSum := toInt_add_eq_iff.mpr first
    rw [← partSum] at second
    have whole := toInt_add_eq_iff.mp second
    omega
  · rintro ⟨low, high, wholeLow, wholeHigh⟩
    have partSum := toInt_add_eq_iff.mpr ⟨low, high⟩
    refine ⟨⟨low, high⟩, ?_⟩
    rw [← partSum]
    exact toInt_add_eq_iff.mpr (by omega)

/-- The block of a VM that has no stack of its own. -/
theorem memorySize_zero (header : VmHeader) :
    header.memorySize 0 = header.codeSegmentSize + header.dataSegmentLen := by
  simp [VmHeader.memorySize]

/-- The size of the block is exact when neither eight times the instruction
count nor the sum wraps. -/
theorem blockSizeExact_iff {header : VmHeader} (positive : 0 < header.instructionCount.toInt) :
    header.BlockSizeExact 0 ↔
      header.instructionCount.toInt * 8 < 2 ^ 31 ∧
        -2 ^ 31 ≤ header.instructionCount.toInt * 8 + header.dataSegmentLen.toInt ∧
        header.instructionCount.toInt * 8 + header.dataSegmentLen.toInt < 2 ^ 31 := by
  have zero : (0 : Word).toInt = 0 := by decide
  rw [VmHeader.BlockSizeExact, memorySize_zero, zero, Int.add_zero, and_self, VmHeader.codeSegmentSize,
    toInt_mul_eight_eq_iff positive, toInt_add_eq_iff]
  refine and_congr_right fun small => ?_
  rw [(toInt_mul_eight_eq_iff positive).mpr small]

theorem memorySize_of_exact {header : VmHeader} (exact : header.BlockSizeExact 0) :
    (header.memorySize 0).toInt = header.instructionCount.toInt * 8 + header.dataSegmentLen.toInt := by
  obtain ⟨code, total, -⟩ := exact
  rw [memorySize_zero, total, code]

/-- A loaded image is safe exactly when its sections fit. -/
theorem safe_of_loaded_iff {fileSize : Nat} {image : Int → Byte} {swapped : Bool} {header : VmHeader}
    {memory : Word} {env : LoadEnv} (positive : 0 < header.instructionCount.toInt)
    (addUp : SectionsAddUp header) :
    (header.BlockSizeExact 0 ∧
        AllInBounds fileSize (header.memorySize 0).toInt
          (loadSegments image swapped header memory (header.memorySize 0) env).accesses) ↔
      32 ≤ fileSize ∧
        SectionsFit fileSize
          (streamLength image header.instructionCount.toInt.toNat header.codeOffset.toInt) header := by
  have sum : header.dataSegmentLen.toInt =
      header.dataLength.toInt + header.litLength.toInt + header.bssLength.toInt :=
    (dataSizeExact_iff.mpr addUp).2
  have copied : 0 ≤ header.copiedLength := by
    rw [VmHeader.copiedLength]
    omega
  rw [allInBounds_loadSegments positive, SectionsFit]
  constructor
  · rintro ⟨exact, bounds⟩
    have total := memorySize_of_exact exact
    have codeSize := exact.1
    have sizes := (blockSizeExact_iff positive).mp exact
    -- A negative lit length is a copy of at least 2^31 bytes, more than any block.
    have litNonneg : 0 ≤ header.litLength.toInt := by
      by_contra negative
      have huge := le_toNat_of_toInt_neg (Int.not_le.mp negative)
      omega
    have litCast := toNat_of_toInt_nonneg litNonneg
    omega
  · rintro ⟨headerFits, streamFits, ⟨litNonneg, sectionsFit⟩, copiesFit, small⟩
    have exact : header.BlockSizeExact 0 := (blockSizeExact_iff positive).mpr (by omega)
    have total := memorySize_of_exact exact
    have codeSize := exact.1
    have litCast := toNat_of_toInt_nonneg litNonneg
    have sizeCast := toNat_of_toInt_nonneg (by omega : 0 ≤ (header.memorySize 0).toInt)
    refine ⟨exact, ?_⟩
    omega

/-!
### A whole call

The call is safe if there is nothing to load. Otherwise the file and the block
must have room for what the header promises, and the 32-bit sums must not wrap.
-/

section Calls

variable (oldmem : Option Word) {env : LoadEnv} {file : List Byte}

/-- Without a buffer for the file the call fails at once. -/
theorem create_of_no_buffer (buffer : env.fileBuffer = false) :
    (create 0 oldmem env file).result = .qfalse := by
  simp [create, buffer]

/-- A header that fails one of the checks ends the call. -/
theorem create_of_refused (buffer : env.fileBuffer = true)
    (refused : ¬(fileHeader (fileImage env.heap file)).Accepted) :
    (create 0 oldmem env file).result = .qfalse := by
  simp [create, buffer, refused]

/-- The mask loop without end: only the header has been read. -/
theorem create_of_large (buffer : env.fileBuffer = true)
    (accepted : (fileHeader (fileImage env.heap file)).Accepted)
    (large : 2 ^ 30 ≤ (fileHeader (fileImage env.heap file)).dataSegmentLen.toInt) :
    (create 0 oldmem env file).result = .diverges ∧
      (create 0 oldmem env file).accesses = [.read 0 32] := by
  simp [create, buffer, accepted, dataSegmentMask?_of_large large]

/-- With a segment below 2^30 bytes the mask loop ends, so the call fails for
want of memory or succeeds. -/
theorem create_of_small (buffer : env.fileBuffer = true)
    (accepted : (fileHeader (fileImage env.heap file)).Accepted)
    (small : (fileHeader (fileImage env.heap file)).dataSegmentLen.toInt < 2 ^ 30) :
    (oldmem.or env.block = none → (create 0 oldmem env file).result = .qfalse) ∧
      ∀ memory, oldmem.or env.block = some memory →
        (∃ vm mem, (create 0 oldmem env file).result = .qtrue vm mem ∧
          vm.memorySize = (fileHeader (fileImage env.heap file)).memorySize 0) ∧
        (create 0 oldmem env file).accesses =
          (loadSegments (loadedImage (fileImage env.heap file)) (fileSwapped (fileImage env.heap file))
            (fileHeader (fileImage env.heap file)) memory
            ((fileHeader (fileImage env.heap file)).memorySize 0) env).accesses := by
  constructor
  · intro failed
    simp [create, buffer, accepted, dataSegmentMask?_of_small small, failed]
  · intro memory allocated
    simp [create, buffer, accepted, dataSegmentMask?_of_small small, allocated, segmentsOf]

end Calls

/-- A call of `Create` by the constructor or a restart is safe exactly when the
file is `SafelyLoaded`. -/
theorem create_safe_iff (oldmem : Option Word) (env : LoadEnv) (file : List Byte) :
    SafeRun 0 file.length (fileHeader (fileImage env.heap file)) (create 0 oldmem env file) ↔
      SafelyLoaded oldmem env file := by
  rw [SafelyLoaded]
  cases buffer : env.fileBuffer with
  | false => exact iff_of_true (safeRun_of_qfalse (create_of_no_buffer oldmem buffer)) (Or.inl rfl)
  | true =>
      by_cases accepted : (fileHeader (fileImage env.heap file)).Accepted
      · simp only [Bool.true_eq_false, accepted, not_true_eq_false, false_or]
        rcases Int.lt_or_le (fileHeader (fileImage env.heap file)).dataSegmentLen.toInt (2 ^ 30)
          with small | large
        · obtain ⟨failing, loading⟩ := create_of_small oldmem buffer accepted small
          cases allocated : oldmem.or env.block with
          | none =>
              exact iff_of_true (safeRun_of_qfalse (failing allocated)) (Or.inl ⟨small, rfl⟩)
          | some memory =>
              obtain ⟨⟨vm, mem, result, size⟩, accesses⟩ := loading memory allocated
              rw [safeRun_of_qtrue result, accesses, size, dataSizeExact_iff]
              simp only [reduceCtorEq, and_false, false_or]
              refine Iff.trans (and_congr_right fun addUp => ?_) and_left_comm
              have sum := (dataSizeExact_iff.mpr addUp).2
              rw [safe_of_loaded_iff accepted.2.1 addUp]
              refine and_congr_right fun _ => (or_iff_right ?_).symm
              omega
        · obtain ⟨result, accesses⟩ := create_of_large oldmem buffer accepted large
          have notSmall : ¬((fileHeader (fileImage env.heap file)).dataSegmentLen.toInt < 2 ^ 30 ∧
              oldmem.or env.block = none) := fun failed => by omega
          rw [safeRun_of_diverges result, accesses, dataSizeExact_iff, allInBounds_read,
            or_iff_right notSmall]
          refine Iff.trans (and_congr_right fun addUp => ?_) and_left_comm
          have sum := (dataSizeExact_iff.mpr addUp).2
          have huge : 2 ^ 30 ≤ (fileHeader (fileImage env.heap file)).dataLength.toInt +
              (fileHeader (fileImage env.heap file)).litLength.toInt +
              (fileHeader (fileImage env.heap file)).bssLength.toInt := by omega
          rw [and_iff_left (Or.inl huge)]
          omega
      · exact iff_of_true (safeRun_of_qfalse (create_of_refused oldmem buffer accepted))
          (Or.inr (Or.inl accepted))

/-- A file that ends with its header: one instruction is announced at offset 32,
where the file is over. -/
def headerOnlyFile : List Byte :=
  [0x44, 0x14, 0x72, 0x12, 1, 0, 0, 0, 32, 0, 0, 0, 1, 0, 0, 0,
    32, 0, 0, 0, 0, 0, 0, 0, 0, 0, 0, 0, 0, 0, 0, 0]

/-- Zeros around the buffer and in the process, and room for the block. -/
def zeroHeap : LoadEnv :=
  { fileBuffer := true, heap := fun _ => 0, block := some 0x1000, mem := fun _ => 0 }

/-- The file is accepted and its one opcode is read behind its end. -/
theorem headerOnlyFile_not_safe :
    ¬SafeRun 0 headerOnlyFile.length (fileHeader (fileImage zeroHeap.heap headerOnlyFile))
      (create 0 none zeroHeap headerOnlyFile) := by
  intro safe
  have loaded := (safeRun_of_qtrue rfl).mp safe
  have opcode : Access.read 32 1 ∈ (create 0 none zeroHeap headerOnlyFile).accesses := by decide
  have inside := loaded.2.2 (.read 32 1) opcode 0 (by decide)
  exact absurd inside.2 (by decide)

end Q3df.Client
