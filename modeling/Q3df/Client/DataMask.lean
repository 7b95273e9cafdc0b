/-
Module: Q3df.Client.DataMask
Layer: Client
Purpose: What the data mask of a loaded VM protects. The mask is one less than the least power of
  two above the length of the data segment, while the block has exactly that length, so a masked
  address can lie behind the segment. The headline `masked_access_inside_iff` says for every access
  of the memory opcodes whether it stays inside; `exists_unprotected_address` that every VM has
  addresses for which it does not.
Imports: Mathlib.Tactic.ByContra, Q3df.Client.ImageBounds, Q3df.Client.Q3VmRun
Trusted boundary: none
Main exports: DataRange, copyRounds, copyWidth, dataRanges, changes_only_ranges, InDataSegment,
  SmallSections, inDataSegment_masked_iff, masked_access_inside_iff, exists_unprotected_address
Open obligations: none
-/
import Mathlib.Tactic.ByContra
import Q3df.Client.ImageBounds
import Q3df.Client.Q3VmRun

namespace Q3df.Client

open ByteMemory SignedWord

/-!
### The ranges the memory opcodes touch

For each opcode that reads or writes the data segment: the masked address and
the number of bytes behind it. `OP_BLOCK_COPY` touches two ranges, as wide as
its parameter says.
-/

/-- A range of memory an opcode reaches through a VM address. -/
structure DataRange where
  address : Word
  pointer : Word
  width : Nat
deriving Repr, DecidableEq

/-- The rounds that the loop of `BLOCK_COPY` makes after the first one. -/
def copyRounds (param : Word) : Nat := (param.sshiftRight 2 - 1).toNat

/-- The bytes of a `BLOCK_COPY` operand, four for each round. -/
def copyWidth (param : Word) : Nat := 4 * copyRounds param + 4

/-- The accesses of the memory opcodes; for `BLOCK_COPY` the whole of either
operand. -/
def dataRanges (op : VmOp) (param : Word) (s : RunState) : List DataRange :=
  match op with
  | .opLoad1 => [⟨s.top 0, s.accessPointer (s.top 0), 1⟩]
  | .opLoad2 => [⟨s.top 0, s.accessPointer (s.top 0), 2⟩]
  | .opLoad4 => [⟨s.top 0, s.accessPointer (s.top 0), 4⟩]
  | .opStore1 => [⟨s.top 1, s.accessPointer (s.top 1), 1⟩]
  | .opStore2 => [⟨s.top 1, s.accessPointer (s.top 1), 2⟩]
  | .opStore4 => [⟨s.top 1, s.accessPointer (s.top 1), 4⟩]
  | .opArg => [⟨param + s.vm.opBase, s.dataPointer (param + s.vm.opBase), 4⟩]
  | .opBlockCopy =>
      [⟨s.top 0, s.dataPointer (s.top 0), copyWidth param⟩,
        ⟨s.top 1, s.dataPointer (s.top 1), copyWidth param⟩]
  | _ => []

/-- The loop of `BLOCK_COPY` changes no byte outside its destination. -/
theorem copyWords_of_not_inRange {rounds : Nat} {src dst b : Word} {mem : Memory}
    (outside : ¬ InRange dst (4 * rounds + 4) b) : RunState.copyWords rounds src dst mem b = mem b := by
  induction rounds generalizing src dst mem with
  | zero => exact write_of_not_inRange outside
  | succ rounds inductionHypothesis =>
      -- From 2^32 bytes on every address is in the destination.
      have fits : 4 * rounds + 4 + 4 ≤ 2 ^ 32 := by
        rw [InRange] at outside
        have bound := (b - dst).isLt
        omega
      have apart := mt (inRange_word_or_rest fits).mpr outside
      rw [not_or] at apart
      rw [RunState.copyWords, inductionHypothesis apart.2]
      exact write_of_not_inRange apart.1

/-- A store, `ARG` and `BLOCK_COPY` change no byte outside their ranges. -/
theorem changes_only_ranges {fpu : FloatUnit} {op : VmOp} {param : Word} {s t : RunState} {b : Word}
    (writes : op = .opStore1 ∨ op = .opStore2 ∨ op = .opStore4 ∨ op = .opArg ∨ op = .opBlockCopy)
    (ran : runOpcode fpu op param s = some (.next t)) (changed : t.mem b ≠ s.mem b) :
    ∃ range ∈ dataRanges op param s, InRange range.pointer range.width b := by
  rcases writes with rfl | rfl | rfl | rfl | rfl
  case inr.inr.inr.inr =>
    cases ran
    refine ⟨_, List.mem_cons_of_mem _ List.mem_cons_self, ?_⟩
    by_contra outside
    exact changed (copyWords_of_not_inRange outside)
  all_goals
    cases ran
    refine ⟨_, List.mem_singleton.mpr rfl, ?_⟩
    by_contra outside
    exact changed (write_of_not_inRange outside)

/-- Below `memorySize` a load or store goes through the mask. -/
theorem accessPointer_of_lt {s : RunState} {address : Word}
    (below : address.toInt < s.vm.memorySize.toInt) : s.accessPointer address = s.dataPointer address :=
  if_neg (by omega)

/-- The pointer of a range is the segment's base plus its address, and no range is
empty. -/
theorem dataRange_spec {op : VmOp} {param : Word} {s : RunState} {range : DataRange}
    (used : range ∈ dataRanges op param s) (below : range.address.toInt < s.vm.memorySize.toInt) :
    range.pointer = s.dataPointer range.address ∧ 0 < range.width := by
  cases op
  case opArg =>
      cases List.mem_singleton.mp used
      exact ⟨rfl, Nat.succ_pos _⟩
  case opBlockCopy =>
      simp only [dataRanges, List.mem_cons, List.not_mem_nil, or_false] at used
      rcases used with rfl | rfl
      · exact ⟨rfl, Nat.succ_pos _⟩
      · exact ⟨rfl, Nat.succ_pos _⟩
  case opLoad1 | opLoad2 | opLoad4 | opStore1 | opStore2 | opStore4 =>
      cases List.mem_singleton.mp used
      exact ⟨accessPointer_of_lt below, by simp⟩
  all_goals cases used

/-- Every byte of the range lies in the data segment and the stack behind it. -/
def InDataSegment (stacksize : Word) (vm : Vm) (pointer : Word) (width : Nat) : Prop :=
  ∀ i : Nat, i < width →
    InRange vm.dataSegment (vm.dataSegmentLen + stacksize).toNat (pointer + BitVec.ofNat 32 i)

/-!
### The mask of a loaded VM

The mask is one less than the least power of two above the length of the
segment. An address that has been masked may therefore lie behind the segment,
and an access may reach behind it from an address inside.
-/

/-- The sum of the section lengths, as the header states them. -/
def VmHeader.sectionLength (header : VmHeader) : Int :=
  header.dataLength.toInt + header.litLength.toInt + header.bssLength.toInt

/-- No section has a negative length, and together they are below 2^30. -/
structure VmHeader.SmallSections (header : VmHeader) : Prop where
  data : 0 ≤ header.dataLength.toInt
  lit : 0 ≤ header.litLength.toInt
  bss : 0 ≤ header.bssLength.toInt
  small : header.sectionLength < 2 ^ 30

/-- The exponent of the least power of two above the section lengths. -/
def VmHeader.maskBits (header : VmHeader) : Nat := header.sectionLength.toNat.size

/-- Small sections add up without overflow, so the length is the sum of the
three. -/
theorem toInt_dataSegmentLen {header : VmHeader} (sections : header.SmallSections) :
    header.dataSegmentLen.toInt = header.sectionLength := by
  obtain ⟨data, lit, bss, small⟩ := sections
  rw [VmHeader.sectionLength] at small ⊢
  have first : (header.dataLength + header.litLength).toInt =
      header.dataLength.toInt + header.litLength.toInt := toInt_add_eq_iff.mpr (by omega)
  have second : header.dataSegmentLen.toInt =
      (header.dataLength + header.litLength).toInt + header.bssLength.toInt :=
    toInt_add_eq_iff.mpr (by omega)
  rw [second, first]

theorem toNat_dataSegmentLen {header : VmHeader} (sections : header.SmallSections) :
    header.dataSegmentLen.toNat = header.sectionLength.toNat := by
  have same := toInt_dataSegmentLen sections
  obtain ⟨data, lit, bss, small⟩ := sections
  have nonneg : 0 ≤ header.sectionLength := by
    rw [VmHeader.sectionLength]
    omega
  have cast := toNat_of_toInt_nonneg (by omega : 0 ≤ header.dataSegmentLen.toInt)
  omega

/-- The loop that looks for the mask stops within the width of an int. -/
theorem maskBits_le {header : VmHeader} (sections : header.SmallSections) : header.maskBits ≤ 30 := by
  have small := sections.small
  apply Nat.size_le.mpr
  omega

/-- The loop finds its mask for every file whose sections are small. -/
theorem dataSegmentMask?_of_sections {header : VmHeader} (sections : header.SmallSections) :
    dataSegmentMask? (header.dataSegmentLen + 0) = some (BitVec.twoPow 32 header.maskBits - 1) := by
  have sum := toInt_dataSegmentLen sections
  have exponent : DoublingMask.exponent header.dataSegmentLen = header.maskBits :=
    congrArg (fun n => n.toNat.size) sum
  have small : header.dataSegmentLen.toInt < 2 ^ 30 := lt_of_eq_of_lt sum sections.small
  have bound : header.dataSegmentLen + 0 = header.dataSegmentLen := BitVec.add_zero _
  rw [bound, dataSegmentMask?_of_small small, exponent]

section Loaded

variable {oldmem : Option Word} {env : LoadEnv} {file : List Byte} {vm : Vm} {mem : Memory}

/-- The segment length and the mask of a loaded VM come from its header. -/
theorem created_segments (created : (create 0 oldmem env file).result = .qtrue vm mem) :
    vm.header.Accepted ∧ vm.dataSegmentLen = vm.header.dataSegmentLen ∧
      vm.memorySize = vm.header.memorySize 0 ∧
      dataSegmentMask? (vm.header.dataSegmentLen + 0) = some vm.dataSegmentMask := by
  obtain ⟨accepted, mask, memory, found, -, rfl, -⟩ := create_eq_qtrue created
  exact ⟨accepted, rfl, rfl, found⟩

/-- Masking an address of a loaded VM reduces it modulo the power of two above
the section lengths. -/
theorem toNat_masked (created : (create 0 oldmem env file).result = .qtrue vm mem)
    (sections : vm.header.SmallSections) (address : Word) :
    (address &&& vm.dataSegmentMask).toNat = address.toNat % 2 ^ vm.header.maskBits := by
  obtain ⟨-, -, -, found⟩ := created_segments created
  have bits := maskBits_le sections
  rw [dataSegmentMask?_of_sections sections] at found
  rw [← Option.some.inj found]
  exact DoublingMask.toNat_and_mask (by omega) address

/-- The bytes behind a masked address lie in the segment when they end below its
length. A range of 2^32 bytes and more is no exception: it comes by every
address, and the segment is shorter. -/
theorem inDataSegment_masked_iff (created : (create 0 oldmem env file).result = .qtrue vm mem)
    (sections : vm.header.SmallSections) (address : Word) {width : Nat} (positive : 0 < width) :
    InDataSegment 0 vm (vm.dataSegment + (address &&& vm.dataSegmentMask)) width ↔
      (address.toNat % 2 ^ vm.header.maskBits : Nat) + width ≤ vm.header.sectionLength := by
  obtain ⟨-, length, -, -⟩ := created_segments created
  have masked := toNat_masked created sections address
  have total := toNat_dataSegmentLen sections
  have lengthSmall := sections.small
  have bits := maskBits_le sections
  have small : 2 ^ vm.header.maskBits ≤ 2 ^ 30 := Nat.pow_le_pow_right (by decide) bits
  have low : address.toNat % 2 ^ vm.header.maskBits < 2 ^ vm.header.maskBits :=
    Nat.mod_lt _ (Nat.two_pow_pos _)
  have bound : (vm.dataSegmentLen + 0).toNat = vm.header.sectionLength.toNat := by
    rw [length, ← total]
    exact congrArg BitVec.toNat (BitVec.add_zero _)
  have offset (i : Nat) (near : i < 2 ^ 31) :
      (vm.dataSegment + (address &&& vm.dataSegmentMask) + BitVec.ofNat 32 i - vm.dataSegment).toNat =
        address.toNat % 2 ^ vm.header.maskBits + i := by
    rw [BitVec.add_assoc, offset_sub_self, BitVec.toNat_add, masked, BitVec.toNat_ofNat]
    omega
  rw [InDataSegment, bound]
  constructor
  · intro inside
    have start := inside 0 positive
    rw [InRange, offset 0 (by decide)] at start
    -- The range ends before the byte behind the segment, which would be in it otherwise.
    by_contra leaves
    have behind := inside (vm.header.sectionLength.toNat - address.toNat % 2 ^ vm.header.maskBits) (by omega)
    rw [InRange, offset _ (by omega)] at behind
    omega
  · intro ends i inside
    rw [InRange, offset i (by omega)]
    omega

/-- An access of a memory opcode at an address below `memorySize` stays in the
data segment exactly when the address, reduced modulo the least power of two
above the section lengths, leaves room for it. -/
theorem masked_access_inside_iff (created : (create 0 oldmem env file).result = .qtrue vm mem)
    (sections : vm.header.SmallSections) {s : RunState} (loaded : s.vm.segments = vm.segments)
    {op : VmOp} {param : Word} {range : DataRange} (used : range ∈ dataRanges op param s)
    (below : range.address.toInt < vm.memorySize.toInt) :
    InDataSegment 0 vm range.pointer range.width ↔
      (range.address.toNat % 2 ^ vm.header.maskBits : Nat) + range.width ≤
        vm.header.sectionLength := by
  have segment : s.vm.dataSegment = vm.dataSegment :=
    (congrArg Vm.dataSegment loaded :)
  have mask : s.vm.dataSegmentMask = vm.dataSegmentMask :=
    (congrArg Vm.dataSegmentMask loaded :)
  have size : s.vm.memorySize = vm.memorySize :=
    (congrArg Vm.memorySize loaded :)
  obtain ⟨pointer, positive⟩ := dataRange_spec used (by rwa [size])
  rw [pointer, RunState.dataPointer, segment, mask]
  exact inDataSegment_masked_iff created sections range.address positive

/-- No VM whose block size has not wrapped around is protected at all its
addresses: the length of its data segment is an address below `memorySize`, and
the mask keeps it. -/
theorem exists_unprotected_address (created : (create 0 oldmem env file).result = .qtrue vm mem)
    (sections : vm.header.SmallSections)
    (unwrapped : vm.header.instructionCount.toInt * 8 + vm.header.sectionLength < 2 ^ 31) :
    ∃ address : Word, 0 ≤ address.toInt ∧ address.toInt < vm.memorySize.toInt ∧
      ∀ width, 0 < width →
        ¬InDataSegment 0 vm (vm.dataSegment + (address &&& vm.dataSegmentMask)) width := by
  obtain ⟨accepted, -, size, -⟩ := created_segments created
  have sum := toInt_dataSegmentLen sections
  have unsigned := toNat_dataSegmentLen sections
  have lengthNonneg : 0 ≤ vm.header.sectionLength := by
    obtain ⟨data, lit, bss, -⟩ := sections
    rw [VmHeader.sectionLength]
    omega
  have count := accepted.2.1
  have total : vm.memorySize.toInt =
      vm.header.instructionCount.toInt * 8 + vm.header.dataSegmentLen.toInt := by
    rw [size]
    apply memorySize_of_exact
    exact (blockSizeExact_iff count).mpr (by omega)
  refine ⟨vm.header.dataSegmentLen, by omega, by omega, ?_⟩
  intro width positive inside
  have ends := (inDataSegment_masked_iff created sections _ positive).mp inside
  have kept : vm.header.sectionLength.toNat < 2 ^ vm.header.maskBits := Nat.lt_size_self _
  rw [unsigned, Nat.mod_eq_of_lt kept] at ends
  omega

end Loaded

/-!
### A VM with a data segment of 100 bytes

The mask of its segment is 127. The last word of the segment is reached rightly;
a load at address 98 takes two bytes behind it.
-/

/-- One instruction, `LOAD4`, and 100 bytes of bss. -/
def bssFile : List Byte :=
  [0x44, 0x14, 0x72, 0x12, 1, 0, 0, 0, 32, 0, 0, 0, 1, 0, 0, 0,
    33, 0, 0, 0, 0, 0, 0, 0, 0, 0, 0, 0, 100, 0, 0, 0, 29]

def bssVm : Vm := segmentsOf 0 bssFile (fileImage zeroHeap.heap bssFile) 127 0x1000

/-- The VM is about to read or write at an address, which lies on its operand
stack. -/
def bssState (address : Word) : RunState :=
  { vm := bssVm
    mem := writeWord (fun _ => 0) bssVm.opStack address
    messages := []
    opStack := bssVm.opStack
    opPointer := bssVm.codeSegment }

/-- `Create` accepts a file without data whose segment is 100 bytes of bss. -/
theorem bssVm_created : ∃ mem, (create 0 none zeroHeap bssFile).result = .qtrue bssVm mem := ⟨_, rfl⟩

theorem bssVm_sections : bssVm.header.SmallSections :=
  { data := by decide, lit := by decide, bss := by decide, small := by decide }

/-- The last word of the segment. -/
theorem masked_access_inside_iff_lastWord :
    InDataSegment 0 bssVm (bssVm.dataSegment + 96) 4 ↔ (96 % 2 ^ 7 : Nat) + 4 ≤ (100 : Int) := by
  obtain ⟨mem, created⟩ := bssVm_created
  have used : (⟨96, bssVm.dataSegment + 96, 4⟩ : DataRange) ∈ dataRanges .opLoad4 0 (bssState 96) := by
    decide
  exact masked_access_inside_iff created bssVm_sections rfl used (by decide)

/-- A word that starts on the last two bytes of the segment. -/
theorem load_across_segment_end :
    bssVm.header.SmallSections ∧
      (∃ mem, (create 0 none zeroHeap bssFile).result = .qtrue bssVm mem) ∧
      ∃ range ∈ dataRanges .opLoad4 0 (bssState 98),
        range.address.toInt < bssVm.memorySize.toInt ∧
          ¬InDataSegment 0 bssVm range.pointer range.width := by
  refine ⟨bssVm_sections, bssVm_created, ⟨98, bssVm.dataSegment + 98, 4⟩, by decide, by decide, ?_⟩
  intro inside
  exact absurd (inside 2 (by decide)) (by decide)

end Q3df.Client
